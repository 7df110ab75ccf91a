import ComponentFlow.Component.Format
import ComponentFlow.File.Access

/-!
# Component descriptions in files

The suffix of a file tells the format of its description.
-/

namespace ComponentFlow

/-- The format of a description in a file. -/
def DocumentFormat.ofPath (p : Path) : DocumentFormat :=
  if p.suffix == ".json" then .json else .yaml

/-- Why a file gives no component. -/
inductive LoadFailure where
  | undecodable
  | failure (cause : ReadFailure)
  deriving Repr, DecidableEq, Inhabited

/-- The component that a file describes. -/
def Component.load {m : Type → Type} [Monad m] (files : FileAccess m) (p : Path) :
    m (Except LoadFailure Component) := do
  match ← files.readText p with
  | .error (.file e) =>
    return .error (.failure (.fault (.unreadable p.text (e.message p)) none (some p.text)))
  | .error .undecodable => return .error .undecodable
  | .ok text => return (Component.ofText (.ofPath p) text).mapError .failure

end ComponentFlow
