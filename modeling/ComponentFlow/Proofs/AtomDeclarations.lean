import ComponentFlow.AtomScan.Scan
import Mathlib.Data.List.Basic

/-!
# Atoms as a recursive reading finds them

The scan goes through a syntax tree, and through the bodies of functions, with a list of nodes still
to be visited. Both walks are the recursive pre-order (`descend_eq_preorders`). So what is found are
the declarations of atoms anywhere in the tree, in pre-order, the first one of each name
(`declarations`), each with the identifiers that its function passes to its getter (`mentions`).

The reading is stated for every way to take the first one of the nodes between brackets. The scan
takes the very first node. A parser that keeps comments puts them among these nodes, so a comment in
front hides the first argument of a call, and the first parameter of a function. Which atoms are
found, and where, does not depend on that.
-/

namespace ComponentFlow

namespace SyntaxNode

variable {n m : SyntaxNode} {field : String}

/-! ## Pre-order -/

mutual

/-- The nodes of a tree in pre-order: a node, then what is below each of its children in turn. -/
def preorder : SyntaxNode → List SyntaxNode
  | node kind start stop row column children fields =>
    node kind start stop row column children fields :: preorders children
termination_by structural n => n

/-- The nodes of several trees, one tree after the other. -/
def preorders : List SyntaxNode → List SyntaxNode
  | [] => []
  | n :: rest => n.preorder ++ preorders rest
termination_by structural nodes => nodes

end

lemma preorders_eq_flatMap (nodes : List SyntaxNode) :
    preorders nodes = nodes.flatMap preorder := by
  induction nodes with
  | nil => rfl
  | cons n rest ih => rw [preorders, ih, List.flatMap_cons]

lemma preorder_eq (n : SyntaxNode) : n.preorder = n :: preorders n.children := by
  cases n
  rfl

/-- The walk with a list of nodes to visit is the recursion: the children of a node, in front of all
other nodes, are done with before those are visited. -/
lemma descend_eq_preorders (pending : List SyntaxNode) : descend pending = preorders pending := by
  fun_induction descend pending with
  | case1 => rfl
  | case2 n rest ih =>
    rw [ih, preorders_eq_flatMap, List.flatMap_append, ← preorders_eq_flatMap,
      ← preorders_eq_flatMap, preorders, preorder_eq, List.cons_append]

lemma descend_singleton (n : SyntaxNode) : descend [n] = n.preorder := by
  rw [descend_eq_preorders, preorders, preorders, List.append_nil]

lemma self_mem_preorder (n : SyntaxNode) : n ∈ n.preorder := by
  rw [preorder_eq]
  exact List.mem_cons_self

lemma preorder_subset_of_mem_children (h : m ∈ n.children) : m.preorder ⊆ n.preorder := by
  rw [n.preorder_eq, preorders_eq_flatMap]
  exact fun k hk => List.mem_cons_of_mem _ (List.mem_flatMap_of_mem h hk)

mutual

lemma preorder_subset : ∀ n : SyntaxNode, ∀ m ∈ n.preorder, m.preorder ⊆ n.preorder
  | node kind start stop row column children fields, m, hm => by
    rw [preorder, List.mem_cons] at hm
    obtain rfl | hm := hm
    · exact List.Subset.refl _
    · rw [preorder]
      exact List.Subset.trans (preorders_subset children m hm) (List.subset_cons_self _ _)

lemma preorders_subset : ∀ nodes : List SyntaxNode, ∀ m ∈ preorders nodes,
    m.preorder ⊆ preorders nodes
  | [], m, hm => absurd hm List.not_mem_nil
  | n :: rest, m, hm => by
    rw [preorders, List.mem_append] at hm
    rw [preorders]
    obtain hm | hm := hm
    · exact List.Subset.trans (preorder_subset n m hm) (List.subset_append_left _ _)
    · exact List.Subset.trans (preorders_subset rest m hm) (List.subset_append_right _ _)

end

lemma mem_children_of_child? (h : n.child? field = some m) : m ∈ n.children := by
  cases n with
  | node kind start stop row column children fields =>
    obtain ⟨place, -, hplace⟩ := Option.bind_eq_some_iff.mp h
    exact List.mem_of_getElem? hplace

lemma preorder_subset_of_child? (h : n.child? field = some m) : m.preorder ⊆ n.preorder :=
  preorder_subset_of_mem_children (mem_children_of_child? h)

end SyntaxNode

namespace AtomScan

open SyntaxNode

/-! ## The reading -/

/-- How the first one of the nodes between brackets is taken. -/
abbrev Leading := List SyntaxNode → Option SyntaxNode

/-- The first node that is no comment. -/
def uncommented : Leading := List.find? (·.kind != "comment")

section

variable (leading : Leading) (source : List Char)

/-- The first node between the brackets in a field of a node. -/
def leadingIn? (n : SyntaxNode) (field : String) : Option SyntaxNode := do
  let brackets ← n.child? field
  leading brackets.children

/-- The name of the getter of a function: its only parameter, or else the first one of its
parameters, if that is an identifier. -/
def getter (function : SyntaxNode) : String :=
  let first := (leadingIn? leading function "parameters").map fun p => (p.child? "pattern").getD p
  let name := (function.child? "parameter").or (first.filter (·.kind == "identifier"))
  (name.map (·.text source)).getD "get"

/-- The identifier that a call gives a function as its first argument. -/
def passed? (function : String) (call : SyntaxNode) : Option String := do
  guard (call.kind = "call_expression")
  let callee ← call.child? "function"
  let argument ← leadingIn? leading call "arguments"
  guard (callee.text source = function ∧ argument.kind = "identifier")
  return argument.text source

/-- What a function depends on: the identifiers that are passed to its getter anywhere in its body,
each once, in pre-order. -/
def mentions (function : SyntaxNode) : List String :=
  let body := ((function.child? "body").map preorder).getD []
  (body.filterMap (passed? leading source (getter leading source function))).eraseDups

/-- The variable that a node declares, if it holds the call of an atom factory, and that call. -/
def declarator? (n : SyntaxNode) : Option (SyntaxNode × SyntaxNode) := do
  guard (n.kind = "variable_declarator")
  let name ← n.child? "name"
  let call ← n.child? "value"
  guard (name.kind = "identifier" ∧ call.kind = "call_expression")
  let callee ← call.child? "function"
  guard (callee.text source ∈ factories)
  return (name, call)

/-- The atom that a call makes for a variable. It is derived if the first argument is a function. -/
def atomOf (declared : SyntaxNode × SyntaxNode) : Atom :=
  let (name, call) := declared
  let function := (leadingIn? leading call "arguments").filter (·.kind ∈ functionKinds)
  { name := name.text source
    derived := function.isSome
    dependencies := (function.map (mentions leading source)).getD []
    position := some name.position }

/-- The declarations of atoms anywhere in a tree, in pre-order, the first one of each name. -/
def declarations (tree : SyntaxNode) : List (SyntaxNode × SyntaxNode) :=
  (tree.preorder.filterMap (declarator? source)).eraseDupsBy
    fun d d' => d.1.text source == d'.1.text source

end

lemma guard_bind {α : Type} (p : Prop) [Decidable p] (f : Unit → Option α) :
    (guard p >>= f) = if p then f () else none := by
  show ((if p then pure () else failure : Option Unit) >>= f) = _
  split <;> rfl

/-! ## The scan takes the first node -/

section

variable (source : List Char)

lemma firstArgument?_eq (call : SyntaxNode) :
    firstArgument? call = leadingIn? List.head? call "arguments" := rfl

lemma getterName_eq (function : SyntaxNode) :
    getterName source function = getter List.head? source function := by
  rw [getterName, getter]
  cases function.child? "parameter" with
  | some single => rfl
  | none =>
    have hfirst : (function.child? "parameters").bind (·.children.head?) =
        leadingIn? List.head? function "parameters" := rfl
    rw [hfirst]
    cases leadingIn? List.head? function "parameters" with
    | none => rfl
    | some first =>
      dsimp only
      rw [Option.map_some, Option.filter_some, Option.none_or]
      split <;> rfl

lemma getterArgument?_eq (function : String) (call : SyntaxNode) :
    getterArgument? source function call = passed? List.head? source function call := by
  simp only [getterArgument?, passed?, firstArgument?_eq, ↓guard_bind, beq_iff_eq, Bool.and_eq_true]
  refine ite_congr rfl (fun _ => ?_) fun _ => rfl
  cases call.child? "function" with
  | none => rfl
  | some callee => cases leadingIn? List.head? call "arguments" <;> rfl

lemma dependencies_eq (function : SyntaxNode) :
    dependencies source function = mentions List.head? source function := by
  have hpassed : getterArgument? source (getterName source function) =
      passed? List.head? source (getter List.head? source function) := by
    funext call
    rw [getterArgument?_eq, getterName_eq]
  rw [dependencies, mentions]
  cases function.child? "body" with
  | none => rfl
  | some body =>
    dsimp only
    rw [Text.distinct_eq_eraseDups, descend_singleton, hpassed]
    rfl

lemma declared?_eq (n : SyntaxNode) :
    declared? source n = (declarator? source n).map (atomOf List.head? source) := by
  simp only [declared?, declarator?, ↓guard_bind, beq_iff_eq, Bool.and_eq_true,
    apply_ite (Option.map (atomOf List.head? source)), Option.map_none]
  refine ite_congr rfl (fun _ => ?_) fun _ => rfl
  cases n.child? "name" with
  | none => rfl
  | some name =>
    cases n.child? "value" with
    | none => rfl
    | some call =>
      simp only [Option.bind_eq_bind, Option.bind_some,
        apply_ite (Option.map (atomOf List.head? source)), Option.map_none]
      refine ite_congr rfl (fun _ => ?_) fun _ => rfl
      simp only [atom?, firstArgument?_eq]
      cases call.child? "function" with
      | none => rfl
      | some callee =>
        simp only [Option.bind_some, List.contains_eq_mem, decide_eq_true_eq,
          apply_ite (Option.map (atomOf List.head? source)), Option.map_none,
          funext (dependencies_eq source)]
        rfl

/-- Going through atoms and keeping those of a new name keeps the first of each name. -/
lemma foldl_keep (atoms kept : List Atom) :
    atoms.foldl (fun kept a => if kept.any (·.name == a.name) then kept else kept ++ [a]) kept =
      kept ++ (atoms.filter fun a => !kept.any (·.name == a.name)).eraseDupsBy
        (·.name == ·.name) := by
  induction atoms generalizing kept with
  | nil => simp
  | cons a rest ih =>
    rw [List.foldl_cons, ih, List.filter_cons]
    by_cases ha : kept.any (·.name == a.name)
    · rw [if_pos ha, if_neg (by simp [ha])]
    · have hfilter : (rest.filter fun b => !(kept ++ [a]).any (·.name == b.name)) =
          rest.filter fun b => decide ((b.name == a.name) = false) &&
            !kept.any (·.name == b.name) := by
        refine List.filter_congr fun b _ => ?_
        rw [List.any_append, Bool.not_or, Bool.and_comm, List.any_cons, List.any_nil, Bool.or_false,
          Bool.beq_comm]
        cases b.name == a.name <;> rfl
      rw [if_neg ha, if_pos (by simp [ha]), List.eraseDupsBy_cons, List.filter_filter, hfilter,
        List.append_assoc, List.singleton_append]

/-- Dropping repeats after a function is the same as dropping what it makes repeats of. -/
lemma eraseDupsBy_map {α β : Type} (f : α → β) (r : β → β → Bool) :
    ∀ items : List α,
      (items.map f).eraseDupsBy r = (items.eraseDupsBy fun a b => r (f a) (f b)).map f
  | [] => rfl
  | a :: rest => by
    rw [List.map_cons, List.eraseDupsBy_cons, List.eraseDupsBy_cons, List.filter_map,
      eraseDupsBy_map, List.map_cons]
    rfl
termination_by items => items.length
decreasing_by exact Nat.lt_succ_of_le (List.length_filter_le _ _)

lemma atomsIn_eq (tree : SyntaxNode) :
    atomsIn source tree = (declarations source tree).map (atomOf List.head? source) := by
  have hall (atoms : List Atom) :
      (atoms.filter fun a => !([] : List Atom).any (·.name == a.name)) = atoms :=
    List.filter_eq_self.mpr fun _ _ => rfl
  rw [atomsIn, firstOfEach, foldl_keep, List.nil_append, hall, descend_singleton,
    funext (declared?_eq source), ← List.map_filterMap, eraseDupsBy_map]
  rfl

end

/-! ## Comments in front -/

/-- The fields of a node that hold nodes between brackets. -/
def bracketFields : List String := ["arguments", "parameters"]

/-- No brackets in a tree start with a comment. -/
def Uncommented (tree : SyntaxNode) : Prop :=
  ∀ n ∈ tree.preorder, ∀ field ∈ bracketFields, ∀ first ∈ leadingIn? List.head? n field,
    first.kind ≠ "comment"

lemma Uncommented.of_subset {tree n : SyntaxNode} (h : Uncommented tree)
    (hn : n.preorder ⊆ tree.preorder) : Uncommented n :=
  fun m hm => h m (hn hm)

lemma uncommented_eq_head? {nodes : List SyntaxNode}
    (h : ∀ first ∈ nodes.head?, first.kind ≠ "comment") : uncommented nodes = nodes.head? := by
  cases nodes with
  | nil => rfl
  | cons first rest => exact List.find?_cons_of_pos (bne_iff_ne.mpr (h first rfl))

lemma leadingIn?_uncommented {n : SyntaxNode} {field : String}
    (h : ∀ first ∈ leadingIn? List.head? n field, first.kind ≠ "comment") :
    leadingIn? uncommented n field = leadingIn? List.head? n field := by
  cases hbrackets : n.child? field with
  | none => simp [leadingIn?, hbrackets]
  | some brackets =>
    simp only [leadingIn?, hbrackets, Option.bind_eq_bind, Option.bind_some] at h ⊢
    exact uncommented_eq_head? h

lemma Uncommented.leadingIn?_eq {n : SyntaxNode} (h : Uncommented n) {field : String}
    (hfield : field ∈ bracketFields) :
    leadingIn? uncommented n field = leadingIn? List.head? n field :=
  leadingIn?_uncommented (h n n.self_mem_preorder field hfield)

section

variable (source : List Char)

lemma Uncommented.passed?_eq {call : SyntaxNode} (h : Uncommented call) (function : String) :
    passed? uncommented source function call = passed? List.head? source function call := by
  rw [passed?, passed?, h.leadingIn?_eq (by decide)]

lemma Uncommented.mentions_eq {function : SyntaxNode} (h : Uncommented function) :
    mentions uncommented source function = mentions List.head? source function := by
  have hgetter : getter uncommented source function = getter List.head? source function := by
    rw [getter, getter, h.leadingIn?_eq (by decide)]
  rw [mentions, mentions, hgetter]
  cases hbody : function.child? "body" with
  | none => rfl
  | some body =>
    refine congrArg List.eraseDups (List.filterMap_congr fun call hcall => ?_)
    have hsubset := List.Subset.trans (preorder_subset body call hcall)
      (preorder_subset_of_child? hbody)
    exact (h.of_subset hsubset).passed?_eq source _

/-- A call without comments in front makes the same atom whichever way the first nodes are taken. -/
lemma Uncommented.atomOf_eq {declared : SyntaxNode × SyntaxNode} (h : Uncommented declared.2) :
    atomOf uncommented source declared = atomOf List.head? source declared := by
  obtain ⟨name, call⟩ := declared
  have hmentions (function : SyntaxNode)
      (hfunction : function ∈ leadingIn? List.head? call "arguments") :
      mentions uncommented source function = mentions List.head? source function := by
    obtain ⟨brackets, hbrackets, hhead⟩ := Option.bind_eq_some_iff.mp hfunction
    have hsubset := List.Subset.trans
      (preorder_subset_of_mem_children (List.mem_of_mem_head? hhead))
      (preorder_subset_of_child? hbrackets)
    exact (h.of_subset hsubset).mentions_eq source
  rw [atomOf, atomOf, h.leadingIn?_eq (by decide)]
  cases hfirst : leadingIn? List.head? call "arguments" with
  | none => rfl
  | some function =>
    simp only [Option.filter_some]
    split
    · rw [Option.map_some, Option.map_some, hmentions function hfirst]
    · rfl

/-- A comment in front is what keeps an atom from being seen as derived. -/
lemma derived_atomOf_iff (declared : SyntaxNode × SyntaxNode) :
    (atomOf List.head? source declared).derived = true ↔
      (atomOf uncommented source declared).derived = true ∧
        ∀ first ∈ leadingIn? List.head? declared.2 "arguments", first.kind ≠ "comment" := by
  by_cases hfront : ∀ first ∈ leadingIn? List.head? declared.2 "arguments", first.kind ≠ "comment"
  · rw [and_iff_left hfront, atomOf, atomOf, leadingIn?_uncommented hfront]
  · refine iff_of_false (fun hderived => hfront fun first hfirst => ?_) fun h => hfront h.2
    rw [atomOf, hfirst] at hderived
    have hkind : first.kind ∈ functionKinds := by
      simpa [Option.filter_some] using hderived
    exact fun hcomment => absurd (hcomment ▸ hkind) (by decide)

end

/-- **The scan.** For every source text and tree, the scan finds the declarations of atoms in the
recursive pre-order, the first one of each name. It takes the first node between brackets as the
first argument or parameter. So an atom is seen as derived exactly if it is and no comment stands in
front of its function, and all about an atom is right if no brackets in the call that makes it start
with a comment. -/
theorem scan_eq_declarations (parse : SourceParser) (source : String) :
    (scan (some parse) source).1 =
      (declarations source.toList (parse source)).map (atomOf List.head? source.toList) ∧
    ∀ declared : SyntaxNode × SyntaxNode,
      ((atomOf List.head? source.toList declared).derived = true ↔
        (atomOf uncommented source.toList declared).derived = true ∧
          ∀ first ∈ leadingIn? List.head? declared.2 "arguments", first.kind ≠ "comment") ∧
      (Uncommented declared.2 →
        atomOf List.head? source.toList declared = atomOf uncommented source.toList declared) := by
  refine ⟨atomsIn_eq source.toList (parse source), fun declared => ⟨?_, fun hcall => ?_⟩⟩
  · exact derived_atomOf_iff source.toList declared
  · exact (hcall.atomOf_eq source.toList).symm

/-- A node without children. -/
def leaf (kind : String) (start stop : Nat) : SyntaxNode := .node kind start stop 0 start [] []

/-- The declaration of an atom that reads another one, with some nodes in front of its function. -/
def reader (front : List SyntaxNode) : SyntaxNode × SyntaxNode :=
  let parameters := SyntaxNode.node "formal_parameters" 23 28 0 23 [leaf "identifier" 24 27] []
  let read := SyntaxNode.node "call_expression" 32 38 0 32
    [leaf "identifier" 32 35, .node "arguments" 35 38 0 35 [leaf "identifier" 36 37] []]
    [("function", 0), ("arguments", 1)]
  let function := SyntaxNode.node "arrow_function" 23 38 0 23 [parameters, read]
    [("parameters", 0), ("body", 1)]
  (leaf "identifier" 6 7, .node "call_expression" 10 39 0 10
    [leaf "identifier" 10 14, .node "arguments" 14 39 0 14 (front ++ [function]) []]
    [("function", 0), ("arguments", 1)])

/-- The tree of a source text with one declaration. -/
def declaring (declared : SyntaxNode × SyntaxNode) : SyntaxNode :=
  .node "program" 0 40 0 0 [.node "lexical_declaration" 0 40 0 0
    [.node "variable_declarator" 6 39 0 6 [declared.1, declared.2] [("name", 0), ("value", 1)]]
    []] []

/-- With a comment in front of its function, a derived atom is not seen as one. -/
theorem scan_eq_declarations_comment :
    (scan (some fun _ => declaring (reader [leaf "comment" 15 22]))
        "const a = atom(/* c */ (get) => get(b));").1 =
      [⟨"a", false, [], some ⟨1, .number 6⟩⟩] ∧
    atomOf uncommented "const a = atom(/* c */ (get) => get(b));".toList
        (reader [leaf "comment" 15 22]) = ⟨"a", true, ["b"], some ⟨1, .number 6⟩⟩ ∧
    (scan (some fun _ => declaring (reader [])) "const a = atom(        (get) => get(b));").1 =
      [atomOf uncommented "const a = atom(        (get) => get(b));".toList (reader [])] := by
  have hscan := scan_eq_declarations (fun _ => declaring (reader []))
    "const a = atom(        (get) => get(b));"
  have hplain : Uncommented (reader []).2 := by unfold Uncommented; decide
  refine ⟨(scan_eq_declarations _ _).1.trans (by decide +kernel), by decide +kernel, ?_⟩
  rw [← (hscan.2 (reader [])).2 hplain]
  exact hscan.1.trans (by decide +kernel)

end AtomScan

end ComponentFlow
