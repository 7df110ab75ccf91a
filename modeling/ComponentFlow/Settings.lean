import ComponentFlow.Component.Fault
import ComponentFlow.Decimal.Read
import ComponentFlow.File.Access
import ComponentFlow.Run
import ComponentFlow.Value.Yaml.Tree

/-!
# Settings

Settings are read from a YAML file next to the documents. Whatever has the wrong kind is passed
over, so that the default stays; only a time limit that is not positive and an unknown output format
are faults. A missing file means the defaults.
-/

namespace ComponentFlow

/-- The settings of a run. -/
structure Settings where
  /-- The directory of the settings. -/
  root : Path
  options : Options := {}
  format : DocumentFormat := .json
  indent : Int := 2

/-- What is wrong with settings. -/
inductive SettingsFault where
  | unreadable (path : Path) (cause : FileError)
  | notYaml (name : String)
  | notAMapping
  | timeoutNotPositive
  | unknownFormat (name : String)
  deriving Repr, DecidableEq, Inhabited

/-- How reading settings fails. -/
inductive SettingsFailure where
  | fault (cause : SettingsFault)
  /-- The file is not UTF-8. -/
  | undecodable
  /-- The time limit is beyond all doubles. -/
  | timeoutTooLarge
  /-- A scalar in the file has no value. -/
  | noValue (cause : Yaml.ScalarFault)
  deriving Repr, DecidableEq, Inhabited

namespace Settings

/-- The name of the file. -/
def fileName : String := ".dfdgen.yml"

end Settings

/-- The message for a fault. -/
def SettingsFault.message : SettingsFault → String
  | unreadable path cause => "Cannot read " ++ path.text ++ ": " ++ cause.message path
  | notYaml name => "Failed to parse " ++ name
  | notAMapping => Settings.fileName ++ " must contain a mapping at the root"
  | timeoutNotPositive => "classifier.oracle_timeout must be positive"
  | unknownFormat name =>
    "output.format must be one of " ++
      ", ".intercalate (DocumentFormat.all.map DocumentFormat.name) ++ ", got '" ++ name ++ "'"

namespace Settings

/-! ## Values of settings -/

/-- A text, number or truth value as text. -/
def asText? : Value → Option String
  | .str s => some s
  | .int n => some (Value.display (.int n))
  | .float x => some (Value.display (.float x))
  | .bool b => some (Value.display (.bool b))
  | _ => none

/-- A list of texts; a single text counts as a list of one. -/
def asTexts : Value → List String
  | .str s => [s]
  | .list items => items.filterMap asText?
  | _ => []

/-- A whole number. -/
def asInt? : Value → Option Int
  | .int n => some n
  | .str s => Decimal.readInt? s
  | _ => none

/-- The double nearest to a whole number, unless it is beyond all doubles. -/
def floatOfInt? (n : Int) : Option Float :=
  let size := Decimal.nearest n.natAbs 0
  if size.isInf then none else some (if n < 0 then -size else size)

/-- A number. -/
def asFloat? : Value → Except SettingsFailure (Option Float)
  | .int n =>
    match floatOfInt? n with
    | some x => .ok (some x)
    | none => .error .timeoutTooLarge
  | .float x => .ok (some x)
  | .str s => .ok (Decimal.readFloat? s)
  | _ => .ok none

/-- The entries of a section; a section that is no mapping counts as empty. -/
def sectionOf (data : List (Value × Value)) (name : String) : List (Value × Value) :=
  (Value.field name data).entries?.getD []

/-! ## Settings from values -/

/-- The time limit for type oracles. -/
def readTimeout (data : List (Value × Value)) : Except SettingsFailure Float := do
  match ← asFloat? (Value.field "oracle_timeout" data) with
  | none => return ({} : Options).oracleTimeout
  | some timeout => if timeout ≤ 0 then throw (.fault .timeoutNotPositive) else return timeout

/-- The output format. -/
def readFormat (data : List (Value × Value)) : Except SettingsFailure DocumentFormat :=
  match asText? (Value.field "format" data) with
  | none => .ok .json
  | some text =>
    let name := Text.lower text
    match DocumentFormat.ofName? name with
    | some format => .ok format
    | none => .error (.fault (.unknownFormat name))

/-- The indentation of the output. -/
def readIndent (data : List (Value × Value)) : Int :=
  match asInt? (Value.field "indent" data) with
  | some n => max n 0
  | none => 2

/-- The settings of a directory. -/
def ofValue (root : Path) : Value → Except SettingsFailure Settings
  | .map data => do
    let classifier := sectionOf data "classifier"
    let processors := sectionOf data "processors"
    let output := sectionOf data "output"
    let oracleTimeout ← readTimeout classifier
    let format ← readFormat output
    let options : Options :=
      { oracleTimeout
        naming := ⟨asTexts (Value.field "function_prefixes" classifier),
          asTexts (Value.field "function_names" classifier)⟩
        selection := ⟨asTexts (Value.field "enabled" processors),
          asTexts (Value.field "disabled" processors)⟩ }
    return { root, options, format, indent := readIndent output }
  | _ => .error (.fault .notAMapping)

/-- The value of a text of settings; a text without content is an empty mapping. -/
def valueOf (read : String → Except Yaml.Fault Value) (text : String) :
    Except Yaml.Fault Value :=
  if Text.trimmed text == "" then .ok (.map [])
  else (read text).map fun v => match v with
    | .null => .map []
    | v => v

/-! ## Settings from files -/

variable {m : Type → Type} [Monad m]

/-- The file of the settings at a location: in it, if it is a directory. -/
def locate (files : FileAccess m) (location : Path) : m Path := do
  if ← files.isDirectory location then files.resolve (location.child fileName)
  else files.resolve location

/-- The settings at a location. `read` gives the value of a YAML text. -/
def load (files : FileAccess m) (read : String → Except Yaml.Fault Value) (location : Path) :
    m (Except SettingsFailure Settings) := do
  let file ← locate files location
  let root := file.parent
  if !(← files.isPresent file) then return .ok { root }
  match ← files.readText file with
  | .error (.file cause) => return .error (.fault (.unreadable file cause))
  | .error .undecodable => return .error .undecodable
  | .ok text =>
    match valueOf read text with
    | .ok v => return ofValue root v
    | .error .malformed => return .error (.fault (.notYaml file.name))
    | .error (.scalar cause) => return .error (.noValue cause)

end Settings

end ComponentFlow
