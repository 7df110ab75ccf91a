import ComponentFlow.Component.Document
import ComponentFlow.Value.Json.Reader
import ComponentFlow.Value.Yaml.Reader

/-!
# Component descriptions as text

A description is written in JSON or in YAML.
-/

namespace ComponentFlow

/-- The value that a text stands for in a format. -/
def DocumentFormat.read (format : DocumentFormat) (text : String) : Reader.Result Value :=
  match format with
  | json =>
    match Json.read? text with
    | some v => .ok v
    | none => .error (.of (.notInFormat .json))
  | yaml =>
    match Yaml.read text with
    | .ok v => .ok v
    | .error .malformed => .error (.of (.notInFormat .yaml))
    | .error (.scalar cause) => .error (.noValue cause)

/-- The component that a text describes. -/
def Component.ofText (format : DocumentFormat) (text : String) : Reader.Result Component := do
  Component.ofValue (← format.read text)

end ComponentFlow
