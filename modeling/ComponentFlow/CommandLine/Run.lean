import ComponentFlow.CommandLine.Arguments
import ComponentFlow.CommandLine.Help
import ComponentFlow.Component.File
import ComponentFlow.Rendering
import ComponentFlow.Settings

/-!
# Running the command line

What each command does, over any access to files, and what it prints. A failure that has no message
of its own ends the program where it arises; the report then says what it was.
-/

namespace ComponentFlow.CommandLine

/-- A failure that the commands have no words for. -/
inductive Crash where
  | settings (failure : SettingsFailure)
  | undecodable
  | unreadable (failure : ReadFailure)
  | unwritable (path : Path) (cause : FileError)
  deriving Repr, DecidableEq, Inhabited

/-- The message for a crash. -/
def Crash.message : Crash → String
  | settings (.fault cause) => cause.message
  | settings .undecodable | undecodable => "The text of a file is not UTF-8"
  | settings .timeoutTooLarge => "int too large to convert to float"
  | settings (.noValue cause) => cause.message
  | unreadable failure => failure.message
  | unwritable path cause => cause.message path

/-- What a run of the program leaves behind. -/
structure Report where
  exit : Nat := 0
  output : String := ""
  errors : String := ""
  crash : Option Crash := none
  deriving Repr, DecidableEq, Inhabited

namespace Report

/-- The exit code for a document that cannot be analysed, and for wrong arguments. -/
def rejected : Nat := 2

/-- A run that ends with a message. -/
def failed (message : String) : Report := { exit := 1, errors := message }

/-- A run that ends where it is. -/
def crashed (cause : Crash) : Report := { crash := some cause }

/-- Puts log lines in front of what a run says. -/
def after (log : String) (r : Report) : Report := { r with errors := log ++ r.errors }

end Report

variable {m : Type → Type} [Monad m]

/-- The value of an argument that is not empty. -/
def nonEmpty (value : Option String) : Option String := value.filter (· != "")

/-- The settings that a command uses: those at the given place, else at the usual one. -/
def settingsAt (files : FileAccess m) (place : Option String) (usual : Path) :
    m (Except Report Settings) := do
  let location := ((nonEmpty place).map Path.ofText).getD usual
  match ← Settings.load files Yaml.read location with
  | .ok s => return .ok s
  | .error (.fault cause) =>
    return .error (.failed ("Invalid configuration: " ++ cause.message ++ "\n"))
  | .error failure => return .error (.crashed (.settings failure))

/-- The source text that a command uses. -/
def sourceAt (files : FileAccess m) (place : Option String) :
    m (Except Report (Option String)) := do
  match nonEmpty place with
  | none => return .ok none
  | some place =>
    let path := Path.ofText place
    match ← files.readText path with
    | .ok text => return .ok (some text)
    | .error (.file e) =>
      return .error (.failed ("Cannot read source file: " ++ e.message path ++ "\n"))
    | .error .undecodable => return .error (.crashed .undecodable)

/-- Analyses a component; gives the log lines beside the result. -/
def analyzeComponent (log : LogSettings) (s : Settings) (c : Component) (source : Option String) :
    String × Except Report Analysis :=
  let (journal, result) := ({ options := s.options } : Analyzer).execute c source
  (log.consoleText journal, match result with
    | .ok run => .ok (.diagram run.diagram)
    | .error e => .error (.failed
        ("dfdgen analyze failed: " ++ e.message ++ "\nRun with --verbose for more details.\n")))

/-- The result for the document at a path. A document at fault is a result of its own. -/
def analysisOf (log : LogSettings) (s : Settings) (path : Path) (source : Option String) :
    Except LoadFailure Component → String × Except Report Analysis
  | .ok c => analyzeComponent log s c source
  | .error .undecodable => ("", .error (.crashed .undecodable))
  | .error (.failure (.fault cause component file)) =>
    ("", .ok (.notAnalyzable cause.message component (some ((nonEmpty file).getD path.text))))
  | .error (.failure failure) => ("", .error (.crashed (.unreadable failure)))

/-- Puts a text where it is asked for. -/
def deliver (files : FileAccess m) (place : Option String) (text : String) : m Report := do
  match nonEmpty place with
  | none => return { output := text }
  | some place =>
    let path := Path.ofText place
    match ← files.write path text with
    | .ok () => return {}
    | .error e => return .crashed (.unwritable path e)

/-- Prints or writes a result; one that is no diagram shows in the exit code. -/
def present (files : FileAccess m) (s : Settings) (format : Option DocumentFormat)
    (place : Option String) (result : Analysis) : m Report := do
  let report ← deliver files place (result.render (format.getD s.format) s.indent)
  if report.crash.isSome || result.isAnalyzable then return report
  else return { report with exit := Report.rejected }

/-- Analyses the document at a path. -/
def analyze (files : FileAccess m) (log : LogSettings) (document : String)
    (source config : Option String) (format : Option DocumentFormat) (place : Option String) :
    m Report := do
  let path := Path.ofText document
  match ← settingsAt files config path.parent with
  | .error r => return r
  | .ok s =>
    match ← sourceAt files source with
    | .error r => return r
    | .ok source =>
      let (lines, result) := analysisOf log s path source (← Component.load files path)
      match result with
      | .error r => return r.after lines
      | .ok result => return (← present files s format place result).after lines

/-- A text with blanks behind it up to a width. -/
def padded (width : Nat) (s : String) : String :=
  s ++ String.ofList (List.replicate (width - s.length) ' ')

/-- The line about a processor. -/
def processorLine (p : Processor) : String :=
  padded 18 p.id ++ " priority=" ++ padded 4 (Decimal.intText p.priority) ++ " " ++
    p.info.description

/-- Lists the processors. -/
def listProcessors (files : FileAccess m) (config : Option String) : m Report := do
  match ← settingsAt files config {} with
  | .error r => return r
  | .ok s =>
    match createRegistry s.options.selection [] with
    | .error e => return .failed ("Cannot load processors: " ++ e.message ++ "\n")
    | .ok r => return { output := linesText (r.ordered.map processorLine) }

/-- Serves requests. No server is installed, so this says what is needed. -/
def serve (files : FileAccess m) (config : Option String) : m Report := do
  match ← settingsAt files config {} with
  | .error r => return r
  | .ok _ =>
    return .failed ("uvicorn is required to run the service. Install it with " ++
      "\x60pip install uvicorn\x60.\n")

/-- Runs a command. -/
def Command.run (files : FileAccess m) (log : LogSettings) : Command → m Report
  | .analyze document source config format output =>
    CommandLine.analyze files log document source config format output
  | .processors config => listProcessors files config
  | .serve _ _ config => CommandLine.serve files config

/-- Runs the program with its arguments. -/
def run (files : FileAccess m) (args : List String) : m Report :=
  match Request.ofArguments args with
  | .run log command => command.run files log
  | .help topic => return { output := topic.help }
  | .wrong topic c => return { exit := Report.rejected, errors := c.text topic }

end ComponentFlow.CommandLine
