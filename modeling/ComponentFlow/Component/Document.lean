import ComponentFlow.Component.RenderTree
import ComponentFlow.Text.Case

/-!
# Component descriptions

Reading a whole component description. A description may report an error of its own, and it has to
name the component; from then on every fault carries that name and the file.
-/

namespace ComponentFlow

open Reader

/-- The framework of a component, in lower case. -/
def readFramework (data : Entries) (component : String) (file : Option String) :
    Result (Option String) :=
  match (Value.field "framework" data).scalarText? with
  | none => .ok none
  | some name =>
    let name := Text.lower name
    if frameworks.contains name then .ok (some name)
    else .error (.fault (.unsupportedFramework name) (some component) file)

/-- The parts of a component whose name, file and framework are known. -/
def readParts (data : Entries) (name : String) (file framework : Option String) :
    Result Component := do
  let props ← listField data "props"
  let props ← props.mapM readProp
  let hooks ← listField data "hooks"
  let hooks ← hooks.mapM readHook
  let processes ← listField data "processes"
  let processes ← processes.mapM (readRoutine false none)
  let atoms ← listField data "atoms"
  let atoms ← atoms.mapM readAtom
  let output ← listField data "output"
  let output ← readOutput output
  let types ← readTypes (Value.field "types" data)
  let exported ← listField data "exported_handlers"
  let exportedHandlers ← exported.mapM (readRoutine false (some exportedHandlerKind))
  return { name, framework, file, props, hooks, processes, atoms, output, types, exportedHandlers }

/-- Adds the component's name and file to a failure. -/
def Reader.Result.within {α : Type} (component : String) (file : Option String) :
    Result α → Result α
  | .ok a => .ok a
  | .error e => .error (e.within component file)

/-- The component of a description. -/
def Component.ofValue (description : Value) : Result Component :=
  match description with
  | .map data =>
    let component := Value.field "component" data
    let file := (Value.field "file" data).scalarText?
    let reported := Value.field "error" data
    if reported.isTruthy then
      .error (.fault (.reported reported.display) component.scalarText? file)
    else
      match component with
      | .str name =>
        if Text.trimmed name == "" then .error (.fault .missingComponent none file)
        else do
          let framework ← readFramework data name file
          (readParts data name file framework).within name file
      | _ => .error (.fault .missingComponent none file)
  | _ => fail .notAMapping

end ComponentFlow
