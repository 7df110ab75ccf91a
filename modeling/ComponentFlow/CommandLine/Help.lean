import ComponentFlow.CommandLine.Switch
import ComponentFlow.Component.Fault
import ComponentFlow.Text.Quoted

/-!
# Help texts

How the program is used, and what it says about arguments that it does not understand.
-/

namespace ComponentFlow.CommandLine

/-- Names to choose from, as they stand in help texts. -/
def alternatives (names : List String) : String :=
  "\x7b" ++ ",".intercalate names ++ "\x7d"

/-- The lines that say how a topic is used. -/
def Topic.usageLines : Topic → List String
  | program =>
    ["usage: dfdgen [-h] [-v] [-q] " ++ alternatives (Topic.commands.map Topic.name) ++ " ..."]
  | analyze =>
    ["usage: dfdgen analyze [-h] [-v] [-q] [--source SOURCE] [--config CONFIG]",
     "                      [--format " ++
       alternatives (DocumentFormat.all.map DocumentFormat.name) ++ "] [--output OUTPUT]",
     "                      document"]
  | processors => ["usage: dfdgen processors [-h] [-v] [-q] [--config CONFIG]"]
  | serve =>
    ["usage: dfdgen serve [-h] [-v] [-q] [--host HOST] [--port PORT]",
     "                    [--config CONFIG]"]

/-- The lines about a topic after those that say how it is used. -/
def Topic.aboutLines : Topic → List String
  | program =>
    ["Build data-flow diagrams from React, Vue and Svelte component analyses.",
     "",
     "positional arguments:",
     "  " ++ alternatives (Topic.commands.map Topic.name),
     "    analyze             Build the DFD for one component analysis document.",
     "    processors          List processors in dispatch order.",
     "    serve               Run the HTTP service.",
     "",
     "options:",
     "  -h, --help            show this help message and exit",
     "  -v, --verbose         Increase log verbosity for troubleshooting.",
     "  -q, --quiet           Only log warnings and errors."]
  | analyze =>
    ["positional arguments:",
     "  document              Path to a JSON or YAML analysis document.",
     "",
     "options:",
     "  -h, --help            show this help message and exit",
     "  -v, --verbose         Increase log verbosity for troubleshooting.",
     "  -q, --quiet           Only log warnings and errors.",
     "  --source SOURCE       Component source file scanned for atom definitions.",
     "  --config CONFIG       Path to .dfdgen.yml or the directory holding it",
     "                        (defaults to the document's directory).",
     "  --format " ++ alternatives (DocumentFormat.all.map DocumentFormat.name) ++
       "  Output format (overrides output.format from the",
     "                        config).",
     "  --output OUTPUT, -o OUTPUT",
     "                        Write the result to this file."]
  | processors =>
    ["options:",
     "  -h, --help       show this help message and exit",
     "  -v, --verbose    Increase log verbosity for troubleshooting.",
     "  -q, --quiet      Only log warnings and errors.",
     "  --config CONFIG  Path to .dfdgen.yml."]
  | serve =>
    ["options:",
     "  -h, --help       show this help message and exit",
     "  -v, --verbose    Increase log verbosity for troubleshooting.",
     "  -q, --quiet      Only log warnings and errors.",
     "  --host HOST",
     "  --port PORT",
     "  --config CONFIG  Path to .dfdgen.yml."]

/-- The help text of a topic. -/
def Topic.help (topic : Topic) : String :=
  "\n".intercalate (topic.usageLines ++ [""] ++ topic.aboutLines) ++ "\n"

/-- The name of a switch in complaints: all its spellings. -/
def Switch.title (s : Switch) : String :=
  match s.letter? with
  | none => s.long
  | some c =>
    let short := String.ofList ['-', c]
    if s.hasValue then s.long ++ "/" ++ short else short ++ "/" ++ s.long

/-- The choices of an argument, as they stand in complaints. -/
def choices (names : List String) : String :=
  "(choose from " ++ ", ".intercalate (names.map Text.quoted) ++ ")"

/-- The message for a complaint. -/
def Complaint.message : Complaint → String
  | ambiguous text => "ambiguous option: " ++ text
  | ignoredValue value => "ignored explicit argument " ++ Text.quoted value
  | missingValue s => "argument " ++ s.title ++ ": expected one argument"
  | invalidFormat value =>
    "argument --format: invalid choice: " ++ Text.quoted value ++ " " ++
      choices (DocumentFormat.all.map DocumentFormat.name)
  | invalidPort value => "argument --port: invalid int value: " ++ Text.quoted value
  | invalidCommand name =>
    "argument command: invalid choice: " ++ Text.quoted name ++ " " ++
      choices (Topic.commands.map Topic.name)
  | missing what => "the following arguments are required: " ++ what
  | unrecognized texts => "unrecognized arguments: " ++ " ".intercalate texts

/-- The program with the command of a topic. -/
def Topic.title (topic : Topic) : String :=
  match topic with
  | program => "dfdgen"
  | other => "dfdgen " ++ other.name

/-- What is said about wrong arguments. -/
def Complaint.text (c : Complaint) (topic : Topic) : String :=
  "\n".intercalate topic.usageLines ++ "\n" ++ topic.title ++ ": error: " ++ c.message ++ "\n"

end ComponentFlow.CommandLine
