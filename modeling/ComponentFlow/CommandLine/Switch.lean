import ComponentFlow.Text.Cut
import ComponentFlow.Text.Digit

/-!
# Switches of the command line

The commands, their switches and the ways to spell these: a long name can be shortened as long as
it stays unique, a value may be attached with an equals sign or, behind a single letter, directly,
and letters of switches without value can be run together.
-/

namespace ComponentFlow.CommandLine

/-- What help can be asked for: the program, or one of its commands. -/
inductive Topic where
  | program
  | analyze
  | processors
  | serve
  deriving Repr, DecidableEq, Inhabited

/-- The name of a command. -/
def Topic.name : Topic → String
  | program => ""
  | analyze => "analyze"
  | processors => "processors"
  | serve => "serve"

/-- The commands. -/
def Topic.commands : List Topic := [.analyze, .processors, .serve]

/-- The command with the given name. -/
def Topic.ofName? (name : String) : Option Topic :=
  commands.find? (·.name == name)

/-- All switches. -/
inductive Switch where
  | help
  | verbose
  | quiet
  | source
  | config
  | format
  | output
  | host
  | port
  deriving Repr, DecidableEq, Inhabited

namespace Switch

/-- The long spelling of a switch. -/
def long : Switch → String
  | help => "--help"
  | verbose => "--verbose"
  | quiet => "--quiet"
  | source => "--source"
  | config => "--config"
  | format => "--format"
  | output => "--output"
  | host => "--host"
  | port => "--port"

/-- The letter of a switch. -/
def letter? : Switch → Option Char
  | help => some 'h'
  | verbose => some 'v'
  | quiet => some 'q'
  | output => some 'o'
  | _ => none

/-- Whether a switch has a value. -/
def hasValue : Switch → Bool
  | help | verbose | quiet => false
  | _ => true

/-- The switches that every topic has. -/
def common : List Switch := [help, verbose, quiet]

end Switch

/-- The switches of a topic. -/
def Topic.switches : Topic → List Switch
  | program => Switch.common
  | analyze => Switch.common ++ [.source, .config, .format, .output]
  | processors => Switch.common ++ [.config]
  | serve => Switch.common ++ [.host, .port, .config]

/-- The switch with a letter. -/
def Topic.switchOf? (topic : Topic) (letter : Char) : Option Switch :=
  topic.switches.find? (·.letter? == some letter)

/-- The switch that is spelled out in full. -/
def Topic.spelled? (topic : Topic) (spelling : List Char) : Option Switch :=
  topic.switches.find? fun s =>
    s.long.toList == spelling || s.letter?.any fun c => ['-', c] == spelling

/-- One argument, as far as it can be understood alone. -/
inductive Token where
  /-- Two dashes; all arguments after them are words. -/
  | divider
  | word (text : String)
  /-- Switches run together, the last one perhaps with a value. -/
  | switches (last : Switch) (value : Option String) (before : List Switch)
  | unknown (text : String)
  deriving Repr, DecidableEq, Inhabited

/-- What is wrong with the arguments. -/
inductive Complaint where
  | ambiguous (text : String)
  | ignoredValue (value : String)
  | missingValue (s : Switch)
  | invalidFormat (value : String)
  | invalidPort (value : String)
  | invalidCommand (name : String)
  | missing (what : String)
  | unrecognized (texts : List String)
  deriving Repr, DecidableEq, Inhabited

/-- Whether an argument is a negative number. -/
def isNegativeNumber (arg : List Char) : Bool :=
  let isDigit := fun (c : Char) => (Text.digitValue? c).isSome
  match Text.withoutFinalBreak arg with
  | '-' :: rest =>
    let (whole, rest) := rest.span isDigit
    match rest with
    | [] => !whole.isEmpty
    | '.' :: fraction => !fraction.isEmpty && fraction.all isDigit
    | _ => false
  | _ => false

/-- Letters run together behind a switch with a letter: what follows a switch that has a value is
its value. -/
def runTogether (topic : Topic) (before : List Switch) (s : Switch) :
    List Char → Except Complaint Token
  | [] => if s.hasValue then .ok (.switches s (some "") before) else .error (.ignoredValue "")
  | c :: rest =>
    if s.hasValue then .ok (.switches s (some (String.ofList (c :: rest))) before)
    else
      match topic.switchOf? c with
      | none => .error (.ignoredValue (String.ofList (c :: rest)))
      | some next =>
        match rest with
        | [] => .ok (.switches next none (before ++ [s]))
        | d :: more => runTogether topic (before ++ [s]) next (d :: more)

/-- A switch spelled in full, with a value attached. -/
def withAttached (topic : Topic) (spelling : List Char) (s : Switch) (value : List Char) :
    Except Complaint Token :=
  match spelling with
  | '-' :: '-' :: _ =>
    if s.hasValue then .ok (.switches s (some (String.ofList value)) [])
    else .error (.ignoredValue (String.ofList value))
  | _ => runTogether topic [] s value

/-- A switch spelled with a shortened long name. -/
def shortened? (topic : Topic) (arg : List Char) : Except Complaint (Option Token) :=
  let name := Text.before '=' arg
  match topic.switches.filter fun s => name.isPrefixOf s.long.toList with
  | [] => .ok none
  | [s] =>
    match Text.after? '=' arg with
    | none => .ok (some (.switches s none []))
    | some value => (withAttached topic s.long.toList s value).map some
  | _ => .error (.ambiguous (String.ofList arg))

/-- A switch spelled in any other way than in full. -/
def otherwise? (topic : Topic) (arg : List Char) : Except Complaint (Option Token) :=
  match arg with
  | '-' :: '-' :: _ => shortened? topic arg
  | '-' :: c :: value =>
    match topic.switchOf? c with
    | some s => (runTogether topic [] s value).map some
    | none => .ok none
  | _ => .ok none

/-- The switch with a value behind an equals sign, spelled in full. -/
def attached? (topic : Topic) (arg : List Char) : Option (Except Complaint Token) := do
  let value ← Text.after? '=' arg
  let spelling := Text.before '=' arg
  let s ← topic.spelled? spelling
  return withAttached topic spelling s value

/-- An argument in front of any divider. -/
def tokenOf (topic : Topic) (arg : String) : Except Complaint Token :=
  match arg.toList with
  | ['-', '-'] => .ok .divider
  | '-' :: c :: rest =>
    let cs := '-' :: c :: rest
    match topic.spelled? cs, attached? topic cs with
    | some s, _ => .ok (.switches s none [])
    | none, some token => token
    | none, none => do
      match ← otherwise? topic cs with
      | some token => return token
      | none =>
        return if isNegativeNumber cs || cs.contains ' ' then .word arg else .unknown arg
  | _ => .ok (.word arg)

/-- The arguments of a command. -/
def tokens (topic : Topic) : List String → Except Complaint (List Token)
  | [] => .ok []
  | arg :: rest => do
    match ← tokenOf topic arg with
    | .divider => return .divider :: rest.map .word
    | token => return token :: (← tokens topic rest)

end ComponentFlow.CommandLine
