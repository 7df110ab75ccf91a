import ComponentFlow.Run
import ComponentFlow.Value.Json.Writer
import ComponentFlow.Value.Yaml.Writer

/-!
# Results as text

The result of an analysis in one of the output formats.
-/

namespace ComponentFlow

/-- The layout of JSON for an indentation: one line if it is zero. -/
def Json.Style.ofIndent (indent : Int) : Json.Style :=
  if indent == 0 then .oneLine else .lines indent.toNat

/-- A value in an output format, with a line break at its end. -/
def DocumentFormat.write (format : DocumentFormat) (indent : Int) (v : Value) : String :=
  match format with
  | json => Json.write (.ofIndent indent) v ++ "\n"
  | yaml => Yaml.write indent v

/-- The result of an analysis in an output format. -/
def Analysis.render (a : Analysis) (format : DocumentFormat) (indent : Int) : String :=
  format.write indent a.toValue

end ComponentFlow
