import ComponentFlow.Hook.Classifier

/-!
# Invocations

A hook call together with its classification. A call is classified at most once; an unclassified
copy can be classified again.
-/

namespace ComponentFlow

/-- A hook call, classified or not. -/
structure Invocation where
  hook : Hook
  classification : Option Classification := none
  deriving Inhabited

namespace Invocation

/-- The roles of the variables; none before classification. -/
def roles (i : Invocation) : List (String × Role) :=
  (i.classification.map (·.roles)).getD []

/-- What classification found out; nothing before it. -/
def metadata (i : Invocation) : Metadata :=
  (i.classification.map (·.metadata)).getD []

/-- The call without its classification. -/
def fresh (i : Invocation) : Invocation :=
  { hook := i.hook }

/-- The message for a call that is classified already. -/
def alreadyClassified (i : Invocation) : String :=
  "Hook invocation '" ++ i.hook.name ++ "' has already been classified"

/-- The call with a classification, unless it has one. -/
def classify (i : Invocation) (k : Classification) : Except String Invocation :=
  match i.classification with
  | some _ => .error i.alreadyClassified
  | none => .ok { i with classification := some k }

/-- Classifies a call. The records of judging are written even if the call is classified already. -/
def classifyBy (i : Invocation) (c : Classifier) (file : Option String) :
    Except String Invocation × Journal :=
  let (k, journal) := c.classify file i.hook
  match i.classify k with
  | .ok classified => (.ok classified, journal ++ [k.report i.hook])
  | .error message => (.error message, journal)

end Invocation

end ComponentFlow
