import ComponentFlow.CommandLine.Switch
import ComponentFlow.Component.Fault
import ComponentFlow.Decimal.Read
import ComponentFlow.Logging

/-!
# Arguments of the command line

What the arguments ask for. Arguments are taken in order, and the first wrong one decides; arguments
that are merely too many are reported at the end, so that a request for help behind them is heard.
-/

namespace ComponentFlow.CommandLine

/-- What a command is given. -/
structure Given where
  verbose : Bool := false
  quiet : Bool := false
  document : Option String := none
  source : Option String := none
  config : Option String := none
  format : Option DocumentFormat := none
  output : Option String := none
  host : String := "127.0.0.1"
  port : Int := 8000
  /-- Arguments that nothing asks for. -/
  surplus : List String := []
  deriving Repr, DecidableEq, Inhabited

/-- What is asked for. -/
inductive Command where
  | analyze (document : String) (source config : Option String) (format : Option DocumentFormat)
      (output : Option String)
  | processors (config : Option String)
  | serve (host : String) (port : Int) (config : Option String)
  deriving Repr, DecidableEq, Inhabited

/-- What the arguments amount to. -/
inductive Request where
  | run (log : LogSettings) (command : Command)
  | help (topic : Topic)
  | wrong (topic : Topic) (complaint : Complaint)
  deriving Repr, DecidableEq, Inhabited

/-- Takes a switch without value other than that for help. -/
def Given.set (g : Given) : Switch → Given
  | .verbose => { g with verbose := true }
  | .quiet => { g with quiet := true }
  | _ => g

/-- Takes a switch with its value. -/
def Given.setValue (g : Given) (s : Switch) (value : String) : Except Complaint Given :=
  match s with
  | .source => .ok { g with source := some value }
  | .config => .ok { g with config := some value }
  | .output => .ok { g with output := some value }
  | .host => .ok { g with host := value }
  | .format =>
    match DocumentFormat.ofName? value with
    | some format => .ok { g with format := some format }
    | none => .error (.invalidFormat value)
  | .port =>
    match Decimal.readInt? value with
    | some port => .ok { g with port }
    | none => .error (.invalidPort value)
  | _ => .ok g

/-- Takes a word: the document, if one is asked for and not yet given. -/
def Given.addWord (g : Given) (topic : Topic) (word : String) : Given :=
  if topic == .analyze && g.document.isNone then { g with document := some word }
  else { g with surplus := g.surplus ++ [word] }

/-- Whether help is asked for among switches. -/
def asksHelp (switches : List Switch) : Bool := switches.contains .help

/-- Takes the arguments of a command. -/
def collect (topic : Topic) : Given → List Token → Except Request Given
  | g, [] => .ok g
  | g, .divider :: rest =>
    match rest with
    | .word text :: more =>
      if topic == .analyze && g.document.isNone then collect topic (g.addWord topic text) more
      else collect topic { g with surplus := g.surplus ++ ["--", text] } more
    | _ => .ok { g with surplus := g.surplus ++ ["--"] }
  | g, .word text :: rest =>
    let taken := topic == .analyze && g.document.isNone
    match rest with
    | .divider :: more =>
      if taken then collect topic (g.addWord topic text) more
      else collect topic (g.addWord topic text) (.divider :: more)
    | rest => collect topic (g.addWord topic text) rest
  | g, .unknown text :: rest => collect topic { g with surplus := g.surplus ++ [text] } rest
  | g, .switches s value before :: rest =>
    if s.hasValue then
      match value, rest with
      | some value, rest =>
        if asksHelp before then .error (.help topic)
        else
          match (before.foldl Given.set g).setValue s value with
          | .ok g => collect topic g rest
          | .error c => .error (.wrong topic c)
      | none, .word value :: more =>
        if asksHelp before then .error (.help topic)
        else
          match (before.foldl Given.set g).setValue s value with
          | .ok g => collect topic g more
          | .error c => .error (.wrong topic c)
      | none, _ => .error (.wrong topic (.missingValue s))
    else if asksHelp (before ++ [s]) then .error (.help topic)
    else collect topic ((before ++ [s]).foldl Given.set g) rest
termination_by _ rest => rest.length

/-- The command that is given. -/
def Given.command (g : Given) : Topic → Except Complaint Command
  | .analyze =>
    match g.document with
    | some document => .ok (.analyze document g.source g.config g.format g.output)
    | none => .error (.missing "document")
  | .processors => .ok (.processors g.config)
  | .serve => .ok (.serve g.host g.port g.config)
  | .program => .error (.missing "command")

/-- The request of a command with its arguments, after the switches in front of it. -/
def ofCommand (start : Given) (topic : Topic) (args : List String) : Request :=
  match tokens topic args with
  | .error c => .wrong topic c
  | .ok ts =>
    match collect topic start ts with
    | .error r => r
    | .ok g =>
      match g.command topic with
      | .error c => .wrong topic c
      | .ok command =>
        if g.surplus.isEmpty then .run { verbose := g.verbose, quiet := g.quiet } command
        else .wrong .program (.unrecognized g.surplus)

/-- The request of all arguments. -/
def requestFrom (g : Given) : List String → Request
  | [] => .wrong .program (.missing "command")
  | arg :: rest =>
    match tokenOf .program arg with
    | .error c => .wrong .program c
    | .ok (.word name) =>
      match Topic.ofName? name with
      | some topic => ofCommand g topic rest
      | none => .wrong .program (.invalidCommand name)
    | .ok .divider => .wrong .program (.invalidCommand arg)
    | .ok (.unknown text) => requestFrom { g with surplus := g.surplus ++ [text] } rest
    | .ok (.switches s _ before) =>
      if asksHelp (before ++ [s]) then .help .program
      else requestFrom ((before ++ [s]).foldl Given.set g) rest

/-- The request that arguments make. -/
def Request.ofArguments (args : List String) : Request :=
  requestFrom {} args

end ComponentFlow.CommandLine
