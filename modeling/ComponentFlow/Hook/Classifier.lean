import ComponentFlow.Assoc
import ComponentFlow.Diagram.Metadata
import ComponentFlow.Hook.Builtin
import ComponentFlow.Hook.Naming
import ComponentFlow.Hook.Oracle
import ComponentFlow.TypeText.Members
import ComponentFlow.Value.Display

/-!
# Classification of hooks

Every hook call gets a category and, for each variable it binds, a role. Builtins give roles by
position; all other variables are judged one by one, by the type oracle if there is one and by
their names. The first verdict counts, except that a name that reads like a function outweighs an
oracle that calls the variable data.
-/

namespace ComponentFlow

/-- Judging by types. -/
def oracleSource : String := "oracle"

/-- Judging by names. -/
def heuristicSource : String := "heuristic"

/-- A judgement on one variable: its role, who gives it, and the type it rests on. -/
structure Verdict where
  role : Role
  source : String
  type : Option String := none
  deriving Repr, DecidableEq, Inhabited

/-- A verdict as a value. -/
def Verdict.toValue (v : Verdict) : Value :=
  .map ([(.str "role", .str v.role.name), (.str "source", .str v.source)] ++
    v.type.toList.map fun t => (.str "type", .str t))

/-- Whether a later verdict outweighs the first one. -/
def Verdict.outweighs (later first : Verdict) : Bool :=
  later.source == heuristicSource && later.role == Role.function && first.role != Role.function

/-- The verdict that counts; there is none if nobody judged. -/
def resolveVerdicts : List Verdict → Option Verdict
  | [] => none
  | first :: rest => some ((rest.find? (·.outweighs first)).getD first)

/-- What hooks are judged by: the names, and the declared types if an oracle knows them. -/
structure Classifier where
  oracle : Option TimedOracle := none
  naming : Naming := {}

/-- Who judges, in order. -/
def Classifier.sources (c : Classifier) : List String :=
  c.oracle.toList.map (fun _ => oracleSource) ++ [heuristicSource]

/-- The question for the type of a variable bound by a hook. -/
def Hook.typeQuery (h : Hook) (file : Option String) (name : String) : TypeQuery :=
  ⟨file, h.position, name⟩

/-- The verdict on a variable whose declared type is known. -/
def Verdict.ofType (r : TypeResolution) : Verdict :=
  { role := if r.isFunction then .function else .data, source := oracleSource, type := some r.type }

/-- The verdict on a variable by its name. -/
def Naming.verdict (naming : Naming) (name : String) : Verdict :=
  { role := if naming.isFunctionName name then .function else .data, source := heuristicSource }

/-- What the oracle says about a variable, with the records of asking it. -/
def Classifier.resolution (c : Classifier) (file : Option String) (h : Hook) (name : String) :
    Option TypeResolution × Journal :=
  match c.oracle with
  | some oracle => oracle.ask (h.typeQuery file name)
  | none => (none, [])

/-- The verdict on one variable, given the oracle's answer. -/
def Classifier.verdict (c : Classifier) (answer : Option TypeResolution) (name : String) :
    Verdict :=
  let byName := c.naming.verdict name
  (resolveVerdicts (answer.toList.map Verdict.ofType ++ [byName])).getD byName

/-- Roles and verdicts of the variables of one hook call. -/
structure Judgement where
  roles : List (String × Role) := []
  verdicts : List (String × Verdict) := []
  journal : Journal := []
  deriving Repr, Inhabited

/-- Judges one more variable. -/
def Classifier.judge (c : Classifier) (file : Option String) (h : Hook) (j : Judgement)
    (name : String) : Judgement :=
  let (answer, journal) := c.resolution file h name
  let verdict := c.verdict answer name
  { roles := Assoc.insert name verdict.role j.roles
    verdicts := Assoc.insert name verdict j.verdicts
    journal := j.journal ++ journal }

/-- The roles a builtin gives by position; if there are several values of one name, the last one
counts. -/
def BuiltinHook.rolesByPosition (b : BuiltinHook) (names : List String) :
    List (String × Role) :=
  Assoc.ofList (names.zip b.positionalRoles)

/-- The role that a builtin gives to the only variable it is bound to. -/
def BuiltinHook.soleRole? (b : BuiltinHook) : Option Role :=
  if b.readOnly then some .data else b.positionalRoles.head?

/-- The role of the variable of a builtin that is bound to a single name. -/
def soleRole? (builtin : Option BuiltinHook) (h : Hook) : Option (String × Role) :=
  match builtin, h.binding, h.bound with
  | some b, .identifier, [name] => b.soleRole?.map (name, ·)
  | _, _, _ => none

/-- The roles given by position, if the values of a builtin are bound to an array of names. -/
def arrayRoles (builtin : Option BuiltinHook) (h : Hook) : List (String × Role) :=
  match builtin, h.binding with
  | some b, .array => b.rolesByPosition h.bound
  | _, _ => []

/-- Roles and verdicts of the variables of a hook call that is not left to a library. -/
def Classifier.assignRoles (c : Classifier) (file : Option String) (builtin : Option BuiltinHook)
    (h : Hook) : Judgement :=
  match soleRole? builtin h with
  | some given => { roles := [given] }
  | none =>
    let given := arrayRoles builtin h
    let remaining := h.bound.filter fun name => (given.lookup name).isNone
    remaining.foldl (c.judge file h) { roles := given }

/-- What is known about the state of a reducer: the reducer's name and the members of the state's
type. -/
def Classifier.reducerFacts (c : Classifier) (file : Option String) (h : Hook) :
    Metadata × Journal :=
  let named : Metadata := h.firstIdentifier.toList.map fun name => ("reducer_name", .str name)
  match h.bound with
  | [] => (named, [])
  | state :: _ =>
    let (answer, journal) := c.resolution file h state
    match answer with
    | some r =>
      let members := TypeText.memberNames r.type
      if members.isEmpty then (named, journal)
      else (named ++ [("state_properties", .ofNames members), ("state_type", .str r.type)], journal)
    | none => (named, journal)

/-- The result of classifying a hook call. -/
structure Classification where
  category : String
  roles : List (String × Role) := []
  metadata : Metadata := []
  deriving Inhabited

/-- Roles under the names of variables as a value. -/
def Value.ofRoles (roles : List (String × Role)) : Value :=
  .ofTexts (roles.map fun r => (r.1, r.2.name))

/-- Roles and verdicts of a hook call; those of a library hook are left to its processor. -/
def Classifier.judgement (c : Classifier) (file : Option String) (h : Hook) : Judgement :=
  match builtinHook? h.name with
  | some b => if b.delegated then {} else c.assignRoles file (some b) h
  | none => c.assignRoles file none h

/-- The category of a hook. -/
def Hook.category (h : Hook) : String :=
  ((builtinHook? h.name).map (·.category)).getD customCategory

/-- The facts about the reducer of a hook that has one. -/
def Classifier.reducerPart (c : Classifier) (file : Option String) (h : Hook) :
    Metadata × Journal :=
  if (builtinHook? h.name).any (·.reducer) then c.reducerFacts file h else ([], [])

/-- The metadata of a classified hook. -/
def Judgement.metadata (j : Judgement) (builtin : Bool) (reducer : Metadata) : Metadata :=
  [("builtin", .bool builtin)] ++ reducer ++
    (if j.verdicts.isEmpty then []
     else [("verdicts", .map (j.verdicts.map fun v => (.str v.1, v.2.toValue)))])

/-- The classification of a hook call, with the records written on the way. -/
def Classifier.classify (c : Classifier) (file : Option String) (h : Hook) :
    Classification × Journal :=
  let judgement := c.judgement file h
  let (reducer, reducerJournal) := c.reducerPart file h
  let builtin := (builtinHook? h.name).any (!·.delegated)
  ({ category := h.category
     roles := judgement.roles
     metadata := judgement.metadata builtin reducer },
   judgement.journal ++ reducerJournal)

/-- The record of a finished classification. -/
def Classification.report (k : Classification) (h : Hook) : Record :=
  ⟨.debug, "classification", "Classified " ++ h.name ++ " as " ++ k.category ++ " with roles " ++
    (Value.ofRoles k.roles).inspect⟩

end ComponentFlow
