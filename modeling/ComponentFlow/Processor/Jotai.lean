import ComponentFlow.Processor.Nodes

/-!
# Jotai atoms

Hooks that read or write an atom. All calls for one atom share a node, which gathers the variables
by which the atom is read and written.
-/

namespace ComponentFlow.Jotai

/-- Who the processor is. -/
def info : ProcessorInfo :=
  { id := "jotai", library := "jotai", packages := ["jotai", "jotai/*"]
    hooks := NamePattern.names ["useAtom", "useAtomValue", "useSetAtom"]
    description := "Jotai atom accessors", frameworks := ["react"] }

/-- The variables of a call that read and that write the atom. An empty name is no variable. -/
structure Accessors where
  read : Option String := none
  write : Option String := none
  deriving Repr, DecidableEq, Inhabited

/-- The accessors that a call binds: a setter, a pair, or a value. -/
def accessors (h : Hook) : Accessors :=
  if h.name == "useSetAtom" then { write := h.bound[0]? }
  else if h.name == "useAtom" && h.binding = .array then
    { read := h.bound[0]?, write := h.bound[1]? }
  else { read := h.bound[0]? }

/-- The name in a slot, unless it is empty. -/
def named (slot : Option String) : Option String :=
  slot.filter (· != "")

/-- The roles of the accessors. -/
def Accessors.roles (a : Accessors) : List (String × Role) :=
  Assoc.ofList ((named a.read).toList.map (·, Role.data) ++
    (named a.write).toList.map (·, Role.function))

/-- The resource key of an atom. -/
def atomKey (atom : String) : String := "atom:" ++ atom

/-- The node of an atom that is met for the first time. -/
def atomNode (s : Session) (i : Invocation) (atom : String) (a : Accessors) : Node × Session :=
  let definition := s.atoms.lookup atom
  let dependencies := Value.ofNames ((definition.map (·.dependencies)).getD [])
  let (n, s) := buildNode s "jotai_atom" atom .store (some i)
    [("category", some (.str "jotai-atom")), ("processor", some (.str info.id)),
     ("atom_name", some (.str atom)), ("read_variable", Draft.text a.read),
     ("write_variable", Draft.text a.write),
     ("read_variables", some (.ofNames (named a.read).toList)),
     ("write_variables", some (.ofNames (named a.write).toList)),
     ("variables", some (.ofRoles a.roles)),
     ("writers", some (.ofNames (named a.write).toList)),
     ("is_read_write_pair", some (.bool (isReadWritePair a.read a.write))),
     ("is_derived", some (.bool (definition.any (·.derived)))),
     ("atom_dependencies", some dependencies), ("dependencies", some dependencies),
     ("dependency_label", some (.str "derives"))]
  ({ n with linked := [("atom_dependencies", "dependencies")] }, s)

/-- The entries for an accessor of a node that may have one already. -/
def gained (current : Metadata) (slot list : String) (more : List String) (name : Option String) :
    Metadata :=
  match named name with
  | none => []
  | some v =>
    let lists : Metadata := (list :: more).map (·, Value.ofNames [v])
    if (current.get slot).isTruthy then lists else lists ++ [(slot, .str v)]

/-- Whether what is recorded for reading and for writing are named as a pair. Only the name of a
text tells how its partner would be named. -/
def namedAsPair (read write : Value) : Except String Bool :=
  if !(read.isTruthy && write.isTruthy) then .ok false
  else
    match read with
    | .str name => .ok (isReadWritePair (some name) write.asText?)
    | .list _ | .tuple _ => .error ("'" ++ read.kindName ++ "' object has no attribute 'upper'")
    | .map .. => .error "unhashable type: 'slice'"
    | _ => .error ("'" ++ read.kindName ++ "' object is not subscriptable")

/-- What a further call adds to the node of its atom. -/
def augment (current : Metadata) (a : Accessors) : Except String Metadata :=
  let reads := gained current "read_variable" "read_variables" [] a.read
  let writes := gained current "write_variable" "write_variables" ["writers"] a.write
  let read := (reads.lookup "read_variable").getD (current.get "read_variable")
  let write := (writes.lookup "write_variable").getD (current.get "write_variable")
  (namedAsPair read write).map fun pair =>
    [("variables", Value.ofRoles a.roles)] ++ reads ++ writes ++
      [("is_read_write_pair", .bool pair)]

/-- What a call contributes. -/
def process (s : Session) (i : Invocation) : Session × Except String Contribution :=
  match i.hook.firstIdentifier with
  | none =>
    (s.record .warning "processors.jotai"
      ("Cannot determine the atom passed to " ++ i.hook.name ++ "; skipping its node"),
     .ok { handled := false })
  | some atom =>
    let a := accessors i.hook
    match s.resource? (atomKey atom) with
    | some existing =>
      (s, (augment existing.metadata a).map (({} : Contribution).update existing.id))
    | none =>
      let (n, s) := atomNode s i atom a
      (s, .ok (({} : Contribution).addShared (atomKey atom) n))

/-- The processor. -/
def processor : Processor := { info, process }

end ComponentFlow.Jotai
