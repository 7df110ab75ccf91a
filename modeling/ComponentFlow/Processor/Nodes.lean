import ComponentFlow.Processor.Basic

/-!
# State and derived values

Two kinds of nodes that the builtins of all frameworks share: a store for a value with the functions
that write it, and a value computed from others.
-/

namespace ComponentFlow

/-- The roles of the bound variables; a variable without a role is data. -/
def Invocation.boundRoles (i : Invocation) : List (String × Role) :=
  Assoc.ofList (i.hook.bound.map fun name => (name, (i.roles.lookup name).getD .data))

/-- The variables with a role. -/
def namesWith (role : Role) (roles : List (String × Role)) : List String :=
  (roles.filter (·.2 == role)).map Prod.fst

/-- Every variable as data. -/
def allData (names : List String) : List (String × Role) :=
  Assoc.ofList (names.map (·, Role.data))

/-- A store for a value. Its label is the first variable that is read. A value that is changed by
assignment is among its own writers. -/
def stateNode (s : Session) (i : Invocation) (category processor : String) (selfWritable : Bool) :
    Option Node × Session :=
  let roles := i.boundRoles
  match roles with
  | [] => (none, s)
  | first :: _ =>
    let readers := namesWith .data roles
    let functions := namesWith .function roles
    let writers := if selfWritable then readers.take 1 ++ functions else functions
    let reference := i.hook.firstIdentifier
    let initial := reference.or i.hook.firstLiteral
    let (n, s) := buildNode s "state" (readers.head?.getD first.1) .store (some i)
      [("category", some (.str category)), ("processor", some (.str processor)),
       ("read_variable", Draft.text readers.head?),
       ("write_variable", if selfWritable then none else Draft.text writers.getLast?),
       ("variables", some (.ofRoles roles)), ("writers", some (.ofNames writers)),
       ("initial_value", Draft.text initial), ("initial_reference", Draft.text reference)]
    (some n, s)

/-- A value computed from others. -/
def derivedNode (s : Session) (i : Invocation) (category processor : String)
    (dependencies : List String) : Option Node × Session :=
  match i.hook.bound with
  | [] => (none, s)
  | label :: _ =>
    let (n, s) := buildNode s "computed" label .store (some i)
      [("category", some (.str category)), ("processor", some (.str processor)),
       ("read_variable", some (.str label)),
       ("variables", some (.ofRoles (allData i.hook.bound))), ("derived", some (.bool true)),
       ("dependencies", some (.ofNames dependencies)),
       ("dependency_label", some (.str "derives"))]
    (some n, s)

/-- What a derived value depends on: what is listed, or else the identifiers it is made from. -/
def Hook.inferredDependencies (h : Hook) : List String :=
  if h.dependencies.isEmpty then h.identifierArguments else h.dependencies

end ComponentFlow
