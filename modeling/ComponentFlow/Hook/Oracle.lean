import ComponentFlow.Component.Basic
import ComponentFlow.Decimal.Format
import ComponentFlow.Journal
import ComponentFlow.TypeText.Callable

/-!
# Type oracles

An oracle knows the declared types of variables. It may fail, take too long or answer nonsense; all
of these count as no answer, and the reason is recorded.
-/

namespace ComponentFlow

/-- What an oracle is asked: the type of a name at a place. -/
structure TypeQuery where
  file : Option String
  position : Option Position
  name : String
  deriving Repr, DecidableEq, Inhabited

/-- The declared type of a name, and whether it can be called. -/
structure TypeResolution where
  type : String
  isFunction : Bool
  deriving Repr, DecidableEq, Inhabited

/-- What comes back from an oracle. -/
inductive OracleReply where
  | resolved (resolution : TypeResolution)
  /-- The oracle failed with a message. -/
  | failed (message : String)
  /-- No answer came in time. -/
  | silent
  /-- The answer, here in its inspected form, is not a type. -/
  | malformed (answer : String)
  deriving Repr, DecidableEq, Inhabited

/-- A type oracle is a function of the query. -/
abbrev TypeOracle := TypeQuery → OracleReply

/-- The resolution a reply carries, if it carries one. -/
def OracleReply.resolution? : OracleReply → Option TypeResolution
  | resolved r => some r
  | _ => none

/-- The oracle that knows the types of a table. -/
def TypeOracle.ofTable (types : List (String × String)) : TypeOracle := fun query =>
  match types.lookup query.name with
  | some type => .resolved ⟨type, TypeText.isFunctionType type⟩
  | none => .failed ("No declared type for '" ++ query.name ++ "'")

/-- An oracle with a limit on the time it may take, in seconds. Without any time there is never an
answer. -/
structure TimedOracle where
  oracle : TypeOracle
  timeout : Float

/-- Asks the oracle. -/
def TimedOracle.reply (o : TimedOracle) (query : TypeQuery) : OracleReply :=
  if o.timeout ≤ 0 then .silent else o.oracle query

/-- The record of a reply that is no answer. -/
def TimedOracle.report (o : TimedOracle) (query : TypeQuery) : OracleReply → Journal
  | .resolved _ => []
  | .silent => [⟨.debug, "classification.oracle",
      "Type oracle timed out after " ++ Decimal.twoPlaces o.timeout ++ "s for " ++ query.name⟩]
  | .failed message => [⟨.debug, "classification.oracle",
      "Type oracle failed for " ++ query.name ++ ": " ++ message⟩]
  | .malformed answer => [⟨.debug, "classification.oracle",
      "Type oracle returned a malformed answer for " ++ query.name ++ ": " ++ answer⟩]

/-- The oracle's answer with the records of asking it. -/
def TimedOracle.ask (o : TimedOracle) (query : TypeQuery) : Option TypeResolution × Journal :=
  let reply := o.reply query
  (reply.resolution?, o.report query reply)

end ComponentFlow
