import ComponentFlow.Proofs.Accesses
import ComponentFlow.Proofs.Identities
import ComponentFlow.Proofs.Legibility
import ComponentFlow.Proofs.Runs
import Mathlib.Data.List.Find
import Mathlib.Data.List.Induction

/-!
# Which node a name stands for

Nodes claim names in the order of their creation, and the first claim counts
(`NameIndex.holder?_ofNodes`). So the precedence of names is that of the nodes: those of the hooks
come first, then those of the props, one for each name, then those of the processes and of the
exported handlers (`Assembly.holder?_index`). What cleans up after a process claims nothing, and a
hook claims nothing but the variables that it binds.

A prop therefore hides a process of the same name. Were processes to come before props, this would
make a difference for these names and for no others (`Assembly.Shown.or_comm_iff`).
-/

namespace ComponentFlow

/-! ## Claims -/

lemma Assoc.lookup_insertNew {α : Type} (key k : String) (value : α)
    (entries : List (String × α)) : (Assoc.insertNew key value entries).lookup k =
      (entries.lookup k).or (if k = key then some value else none) := by
  rw [Assoc.insertNew]
  split
  · rename_i hfound
    by_cases hk : k = key
    · rw [hk, hfound, Option.some_or]
    · rw [if_neg hk, Option.or_none]
  · rw [List.lookup_append, List.lookup_cons, List.lookup_nil]
    by_cases hk : k = key
    · rw [if_pos hk, hk, beq_self_eq_true]
    · rw [if_neg hk, beq_false_of_ne hk]

/-- Whether a node claims a name: as one of its variables, or as the process that it stands for. -/
def Node.Claims (n : Node) (name : String) : Prop :=
  n.Names name ∨ NameIndex.processOf n = some name

instance (n : Node) (name : String) : Decidable (n.Claims name) :=
  inferInstanceAs (Decidable (_ ∨ _))

namespace NameIndex

/-- The node that has a name. -/
def holder? (x : NameIndex) (name : String) : Option Node :=
  (x.claims.lookup name).map (·.node)

lemma holder?_claim (x : NameIndex) (name : String) (n : Node) (role : Role)
    (property : Option String) (k : String) : (x.claim name n role property).holder? k =
      (x.holder? k).or (if k = name then some n else none) := by
  rw [holder?, claim, Assoc.lookup_insertNew, Option.map_or, holder?, apply_ite (Option.map _)]
  rfl

/-- A node gets those of the names it claims that nobody has. -/
lemma holder?_foldl_claim {α : Type} (f : α → String × Role × Option String) (n : Node)
    (items : List α) (x : NameIndex) (k : String) :
    (items.foldl (fun x a => x.claim (f a).1 n (f a).2.1 (f a).2.2) x).holder? k =
      (x.holder? k).or (if k ∈ items.map (fun a => (f a).1) then some n else none) := by
  induction items generalizing x with
  | nil => simp
  | cons a rest ih =>
    rw [List.foldl_cons, ih, holder?_claim, Option.or_assoc, List.map_cons]
    by_cases hk : k = (f a).1
    · simp [hk]
    · simp [hk]

lemma holder?_addNode (x : NameIndex) (n : Node) (name : String) :
    (x.addNode n).holder? name =
      (x.holder? name).or (if n.Claims name then some n else none) := by
  have hvariables := holder?_foldl_claim (fun v : String × Role => (v.1, v.2, aliasOf n v.1)) n
    (variablesOf n) x name
  have hprocess := holder?_foldl_claim (fun process : String => (process, .function, none)) n
    (processOf n).toList
    ((variablesOf n).foldl (fun x v => x.claim v.1 n v.2 (aliasOf n v.1)) x) name
  have hnames : name ∈ (variablesOf n).map (fun v => v.1) ↔ n.Names name := Iff.rfl
  have hstands : name ∈ (processOf n).toList.map (fun process => process) ↔
      processOf n = some name := by
    rw [List.map_id', Option.mem_toList]
  refine hprocess.trans ?_
  rw [hvariables, Option.or_assoc]
  simp only [hnames, hstands, Node.Claims]
  by_cases hname : n.Names name
  · simp [hname]
  · simp [hname]

/-- The first node that claims a name has it. -/
lemma holder?_ofNodes (nodes : List Node) (name : String) :
    (ofNodes nodes).holder? name = nodes.find? (·.Claims name) := by
  induction nodes using List.reverseRecOn with
  | nil => rfl
  | append_singleton nodes n ih =>
    rw [ofNodes, List.foldl_append, List.foldl_cons, List.foldl_nil, holder?_addNode, ← ofNodes, ih,
      List.find?_append, List.find?_cons]
    by_cases hn : n.Claims name
    · simp [hn]
    · simp [hn]

/-- An identifier is resolved to the node that has it as a name. -/
lemma node_resolve (x : NameIndex) {name : String} (hname : Text.IsIdentifier name.toList) :
    (x.resolve name).map (·.node) = x.holder? name := by
  have hsplit : splitReference name = (name, none) := by
    have hpath := AccessPath.splitReference_eq ⟨name.toList, hname, []⟩
    simpa [AccessPath.text] using hpath
  rw [resolve, hsplit, Option.map_map, holder?]
  rfl

end NameIndex

/-! ## Nodes of props and processes -/

/-- The node of a prop: it claims the name of the prop and nothing else. -/
structure InputProp.ShownAs (p : InputProp) (n : Node) : Prop where
  label : n.label = p.name
  type : n.type = (if p.isFunctionProp then NodeType.output else .input).name
  position : n.position = p.position
  claims : ∀ name, n.Claims name ↔ p.name = name

/-- The node of a process: it claims the name of the process, if that is not empty, and nothing
else. -/
structure Routine.ShownAs (r : Routine) (n : Node) : Prop where
  label : n.label = r.name
  type : n.type = NodeType.process.name
  position : n.position = r.position
  claims : ∀ name, n.Claims name ↔ r.name = name ∧ name ≠ ""

/-- What a node claims depends on its type and on two of its records. -/
lemma Node.claims_congr {n n' : Node} (htype : n'.type = n.type)
    (hvariables : n'.metadata.get "variables" = n.metadata.get "variables")
    (hprocess : n'.metadata.get "process" = n.metadata.get "process") (name : String) :
    n'.Claims name ↔ n.Claims name := by
  rw [Claims, Names, NameIndex.variablesOf, NameIndex.processOf, htype, hvariables, hprocess]
  rfl

lemma Node.claims_iff_names {n : Node} (h : n.metadata.get "process" = .null) {name : String} :
    n.Claims name ↔ n.Names name := by
  have hprocess : NameIndex.processOf n = none := by
    rw [NameIndex.processOf, h]
    split <;> rfl
  simp [Claims, hprocess]

/-- What cleans up after a process is recorded later. -/
lemma Routine.ShownAs.noteCleanup {r : Routine} {n : Node} (h : r.ShownAs n) (id : Value) :
    r.ShownAs { n with metadata := n.metadata.set "cleanup" id } where
  label := h.label
  type := h.type
  position := h.position
  claims := by
    intro name
    rw [← h.claims name]
    have hvariables := n.metadata.get_set_of_ne id (by decide : "variables" ≠ "cleanup")
    have hprocess := n.metadata.get_set_of_ne id (by decide : "process" ≠ "cleanup")
    refine Node.claims_congr ?_ hvariables hprocess name
    rfl

namespace Assembly

open Build

/-! ## Adding props -/

/-- Props with their nodes: those that have one, among them the first one of each name. -/
structure PropsShown (props : List InputProp) (shown : List (InputProp × Node)) : Prop where
  sublist : (shown.map Prod.fst).Sublist props
  first : ∀ name,
    (shown.find? (·.1.name == name)).map Prod.fst = props.find? (·.name == name)
  nodes : ∀ e ∈ shown, e.1.ShownAs e.2

/-- A prop whose name is taken needs no node. -/
lemma PropsShown.skip {props : List InputProp} {shown : List (InputProp × Node)} {p : InputProp}
    (h : PropsShown props shown) (hp : p.name ∈ shown.map (·.1.name)) :
    PropsShown (props ++ [p]) shown where
  sublist := h.sublist.trans (List.sublist_append_left props [p])
  nodes := h.nodes
  first := by
    intro name
    rw [h.first, List.find?_append, List.find?_singleton]
    by_cases hname : (p.name == name) = true
    · -- there is a prop of that name before this one
      have hfound : ((shown.find? (·.1.name == name)).map Prod.fst).isSome = true := by
        obtain ⟨e, he, hsame⟩ := List.mem_map.mp hp
        rw [Option.isSome_map, List.find?_isSome]
        exact ⟨e, he, by rwa [hsame]⟩
      rw [h.first] at hfound
      exact (Option.or_of_isSome hfound).symm
    · rw [if_neg hname, Option.or_none]

lemma PropsShown.concat {props : List InputProp} {shown : List (InputProp × Node)} {p : InputProp}
    {n : Node} (h : PropsShown props shown) (hn : p.ShownAs n) :
    PropsShown (props ++ [p]) (shown ++ [(p, n)]) where
  sublist := by
    rw [List.map_append]
    exact h.sublist.append (List.Sublist.refl [p])
  nodes := List.forall_mem_append.mpr ⟨h.nodes, List.forall_mem_singleton.mpr hn⟩
  first := by
    intro name
    rw [List.find?_append, List.find?_append, Option.map_or, h.first, List.find?_singleton,
      List.find?_singleton, apply_ite (Option.map Prod.fst)]
    rfl

lemma shownAs_newNode_prop (b : Build) (p : InputProp) : p.ShownAs (b.newNode p.sketch) where
  label := rfl
  type := rfl
  position := rfl
  claims := by
    intro name
    have htype : (b.newNode p.sketch).type ≠ NodeType.process.name := by
      show (if p.isFunctionProp then NodeType.output else .input).name ≠ _
      split <;> decide
    have hnames : (NameIndex.variablesOf (b.newNode p.sketch)).map Prod.fst = [p.name] := rfl
    rw [Node.Claims, Node.Names, hnames, NameIndex.processOf, if_neg (by simpa using htype)]
    simp [eq_comm]

/-- A prop gets a node unless one of its name has. -/
lemma addProp_cases {st : Build × List (String × String)} {p : InputProp}
    (hlive : (addProp st p).1.Live) :
    p.name ∈ st.2.map Prod.fst ∧ addProp st p = st ∨
      p.name ∉ st.2.map Prod.fst ∧ ∃ n, p.ShownAs n ∧
        (addProp st p).1.diagram.nodes = st.1.diagram.nodes ++ [n] ∧
        (addProp st p).2.map Prod.fst = st.2.map Prod.fst ++ [p.name] := by
  have hfound : (st.2.lookup p.name).isSome = true ↔ p.name ∈ st.2.map Prod.fst := by
    rw [List.lookup_isSome_iff, List.mem_map]
    refine exists_congr fun e => and_congr_right fun _ => ?_
    rw [beq_iff_eq, eq_comm]
  revert hlive
  rw [addProp]
  split
  · rename_i h
    exact fun _ => .inl ⟨hfound.mp h, rfl⟩
  · rename_i h
    intro hlive
    refine .inr ⟨fun hmem => h (hfound.mpr hmem), st.1.newNode p.sketch,
      shownAs_newNode_prop st.1 p, ?_, ?_⟩
    · exact congrArg Diagram.nodes (addNode_of_live hlive).2.2
    · exact List.map_append

/-- The nodes of the props come after all others, in the order of the props. -/
lemma propsShown_addProps {b : Build} {props : List InputProp} (hlive : (addProps b props).1.Live) :
    ∃ shown, PropsShown props shown ∧
      (addProps b props).1.diagram.nodes = b.diagram.nodes ++ shown.map Prod.snd ∧
      (addProps b props).2.map Prod.fst = shown.map (·.1.name) := by
  induction props using List.reverseRecOn with
  | nil =>
    exact ⟨[], ⟨List.Sublist.refl _, fun _ => rfl, by simp⟩, by simp [addProps],
      by simp [addProps]⟩
  | append_singleton props p ih =>
    have hlast : addProps b (props ++ [p]) = addProp (addProps b props) p := by
      rw [addProps, List.foldl_append]
      rfl
    rw [hlast] at hlive ⊢
    have hbefore := ((addProp_step (addProps b props) p).1.live.mp hlive).1
    obtain ⟨shown, hshown, hnodes, hnames⟩ := ih hbefore
    obtain ⟨hmem, heq⟩ | ⟨-, n, hn, hadded, hname⟩ := addProp_cases hlive
    · rw [heq]
      rw [hnames] at hmem
      exact ⟨shown, hshown.skip hmem, hnodes, hnames⟩
    · refine ⟨shown ++ [(p, n)], hshown.concat hn, ?_, ?_⟩
      · rw [hadded, hnodes, List.map_append, List.append_assoc]
        rfl
      · rw [hname, hnames, List.map_append]
        rfl

/-! ## Adding processes -/

lemma shownAs_newNode_routine (b : Build) (exported : Bool) (r : Routine) :
    r.ShownAs (b.newNode (r.sketch exported)) where
  label := rfl
  type := rfl
  position := rfl
  claims := by
    intro name
    have hrecords : (b.newNode (r.sketch exported)).metadata.get "variables" = .null ∧
        (b.newNode (r.sketch exported)).metadata.get "process" =
          if r.name == "" then .null else .str r.name := by
      simp only [newNode, Routine.sketch]
      by_cases hempty : (r.name == "") = true
      · simp only [if_pos hempty]
        cases exported <;> exact ⟨rfl, rfl⟩
      · simp only [if_neg hempty]
        cases exported <;> exact ⟨rfl, rfl⟩
    have htype : ((b.newNode (r.sketch exported)).type == NodeType.process.name) = true := rfl
    rw [Node.Claims, Node.Names, NameIndex.variablesOf, NameIndex.processOf, if_pos htype,
      hrecords.1, hrecords.2]
    by_cases hempty : r.name = ""
    · simp [hempty, Value.asText?, eq_comm]
    · simp [hempty, Value.asText?]

lemma not_claims_newNode_cleanup (b : Build) (owner cleanup : Routine) (name : String) :
    ¬ (b.newNode (owner.cleanupSketch cleanup)).Claims name := by
  have hvariables : NameIndex.variablesOf (b.newNode (owner.cleanupSketch cleanup)) = [] := rfl
  have hprocess : NameIndex.processOf (b.newNode (owner.cleanupSketch cleanup)) = none := rfl
  simp [Node.Claims, Node.Names, hvariables, hprocess]

lemma nodes_annotate {b : Build} (hlive : b.Live) (id key : String) (value : Value) :
    (b.annotate id key value).diagram.nodes = b.diagram.nodes.map fun n =>
      if n.id == id then { n with metadata := n.metadata.set key value } else n := by
  have hok := change_of_ok (f := fun d => .ok (d.modifyNode id fun n =>
    { n with metadata := n.metadata.set key value })) hlive rfl
  rw [annotate, modifyNode, hok]
  rfl

/-- A change of the last but one of several nodes leaves all others alone. -/
lemma map_last_but_one {nodes : List Node} {n m : Node} (f : Node → Node)
    (hn : n.id ∉ nodes.map (·.id)) (hm : m.id ≠ n.id) :
    (nodes ++ [n] ++ [m]).map (fun k => if k.id == n.id then f k else k) = nodes ++ [f n, m] := by
  have hnodes : nodes.map (fun k => if k.id == n.id then f k else k) = nodes := by
    refine (List.map_congr_left fun k hk => ?_).trans (List.map_id' nodes)
    exact if_neg fun heq => hn (List.mem_map.mpr ⟨k, hk, eq_of_beq heq⟩)
  rw [List.map_append, List.map_append, hnodes, List.append_assoc]
  simp [hm]

/-- A process gets a node, and what cleans up after it one that claims nothing. -/
lemma addRoutine_nodes {exported : Bool} {st : Build × List PlacedRoutine} {r : Routine}
    (hlive : (addRoutine exported st r).1.Live) :
    ∃ n rest, r.ShownAs n ∧ (∀ m ∈ rest, ∀ name, ¬ m.Claims name) ∧
      (addRoutine exported st r).1.diagram.nodes = st.1.diagram.nodes ++ n :: rest := by
  have hshown := shownAs_newNode_routine st.1 exported r
  revert hlive
  simp only [addRoutine]
  generalize hadded : st.1.addNode (r.sketch exported) = added
  have hnodes : added.2.Live → (st.1.newNode (r.sketch exported)).id ∉ st.1.diagram.ids ∧
      added.2.diagram.nodes = st.1.diagram.nodes ++ [st.1.newNode (r.sketch exported)] := by
    rw [← hadded]
    intro hlive
    obtain ⟨-, hfresh, hdiagram⟩ := addNode_of_live hlive
    exact ⟨hfresh, congrArg Diagram.nodes hdiagram⟩
  have hid : added.1 = (st.1.newNode (r.sketch exported)).id := by
    rw [← hadded]
    rfl
  generalize st.1.newNode (r.sketch exported) = n at hshown hnodes hid
  cases r.cleanup with
  | none => exact fun hlive => ⟨n, [], hshown, by simp, (hnodes hlive).2⟩
  | some c =>
    intro hlive
    dsimp only at hlive ⊢
    have hcleanup := ((grows_annotate false _ _ _ (by simp [noteKeys])).live.mp hlive).1
    obtain ⟨hbefore, hfresh', hdiagram⟩ := addNode_of_live hcleanup
    obtain ⟨hfresh, hfirst⟩ := hnodes hbefore
    have hall : (added.2.addNode (r.cleanupSketch c)).2.diagram.nodes =
        st.1.diagram.nodes ++ [n] ++ [added.2.newNode (r.cleanupSketch c)] :=
      (congrArg Diagram.nodes hdiagram).trans (congrArg (· ++ [_]) hfirst)
    have hne : (added.2.newNode (r.cleanupSketch c)).id ≠ n.id := by
      intro heq
      refine hfresh' (List.mem_map.mpr ⟨n, ?_, heq.symm⟩)
      rw [hfirst]
      exact List.mem_append_right _ List.mem_cons_self
    refine ⟨_, [added.2.newNode (r.cleanupSketch c)],
      hshown.noteCleanup (.str (added.2.addNode (r.cleanupSketch c)).1), ?_, ?_⟩
    · exact List.forall_mem_singleton.mpr fun name => not_claims_newNode_cleanup added.2 r c name
    · rw [nodes_annotate hcleanup, hall, hid]
      exact map_last_but_one _ hfresh hne

/-- Processes with their nodes, among nodes that were added for them. All others of these nodes
claim nothing. -/
structure RoutinesShown (rs : List Routine) (shown : List (Routine × Node)) (added : List Node) :
    Prop where
  routines : shown.map Prod.fst = rs
  nodes : ∀ e ∈ shown, e.1.ShownAs e.2
  sublist : (shown.map Prod.snd).Sublist added
  claims : ∀ name, added.find? (·.Claims name) = (shown.map Prod.snd).find? (·.Claims name)

lemma RoutinesShown.append {rs rs' : List Routine} {shown shown' : List (Routine × Node)}
    {added added' : List Node} (h : RoutinesShown rs shown added)
    (h' : RoutinesShown rs' shown' added') :
    RoutinesShown (rs ++ rs') (shown ++ shown') (added ++ added') where
  routines := by rw [List.map_append, h.routines, h'.routines]
  nodes := List.forall_mem_append.mpr ⟨h.nodes, h'.nodes⟩
  sublist := by
    rw [List.map_append]
    exact h.sublist.append h'.sublist
  claims := by
    intro name
    rw [List.map_append, List.find?_append, List.find?_append, h.claims, h'.claims]

lemma RoutinesShown.single {r : Routine} {n : Node} {rest : List Node} (hn : r.ShownAs n)
    (hrest : ∀ m ∈ rest, ∀ name, ¬ m.Claims name) :
    RoutinesShown [r] [(r, n)] (n :: rest) where
  routines := rfl
  nodes := List.forall_mem_singleton.mpr hn
  sublist := List.singleton_sublist.mpr List.mem_cons_self
  claims := by
    intro name
    have hnone : rest.find? (·.Claims name) = none := by
      rw [List.find?_eq_none]
      exact fun m hm => by simpa using hrest m hm name
    rw [List.map_singleton, ← List.singleton_append, List.find?_append, hnone, Option.or_none]

/-- The nodes of the processes come after all others, in the order of the processes. -/
lemma routinesShown_addRoutines {b : Build} {exported : Bool} {rs : List Routine}
    (hlive : (addRoutines b exported rs).1.Live) :
    ∃ shown added, RoutinesShown rs shown added ∧
      (addRoutines b exported rs).1.diagram.nodes = b.diagram.nodes ++ added := by
  induction rs using List.reverseRecOn with
  | nil => exact ⟨[], [], ⟨rfl, by simp, List.Sublist.refl _, fun _ => rfl⟩, by simp [addRoutines]⟩
  | append_singleton rs r ih =>
    have hlast : addRoutines b exported (rs ++ [r]) =
        addRoutine exported (addRoutines b exported rs) r := by
      rw [addRoutines, List.foldl_append]
      rfl
    rw [hlast] at hlive ⊢
    have hbefore := ((addRoutine_step exported (addRoutines b exported rs) r).1.live.mp hlive).1
    obtain ⟨shown, added, hshown, hnodes⟩ := ih hbefore
    obtain ⟨n, rest, hn, hrest, hadded⟩ := addRoutine_nodes hlive
    refine ⟨shown ++ [(r, n)], added ++ n :: rest, hshown.append (.single hn hrest), ?_⟩
    rw [hadded, hnodes, List.append_assoc]

/-! ## All nodes -/

/-- The props and processes of a component with their nodes, which come after those of the hooks in
the order of creation. -/
structure Shown (s : Session) (props : List (InputProp × Node)) (routines : List (Routine × Node)) :
    Prop where
  propNodes : PropsShown s.component.props props
  allRoutines : routines.map Prod.fst = s.component.processes ++ s.component.exportedHandlers
  routineNodes : ∀ e ∈ routines, e.1.ShownAs e.2
  order : (s.diagram.nodes ++ props.map Prod.snd ++ routines.map Prod.snd).Sublist
    (placed s).1.diagram.nodes

/-- The node of the first one of several things that has a name. -/
def nodeNamed? {α : Type} (nameOf : α → String) (shown : List (α × Node)) (name : String) :
    Option Node :=
  (shown.find? (nameOf ·.1 == name)).map Prod.snd

lemma find?_claims {α : Type} {nameOf : α → String} {shown : List (α × Node)} {name : String}
    (h : ∀ e ∈ shown, e.2.Claims name ↔ nameOf e.1 = name) :
    (shown.map Prod.snd).find? (·.Claims name) = nodeNamed? nameOf shown name := by
  rw [nodeNamed?, List.find?_map]
  refine congrArg _ (List.find?_congr fun e he => ?_)
  rw [Function.comp_apply, Bool.eq_iff_iff, decide_eq_true_eq, h e he, beq_iff_eq]

/-- The first claim counts, and hooks come before props, and these before processes. -/
lemma holder?_index {s : Session} (hlive : (placed s).1.Live)
    (hhooks : ∀ n ∈ s.diagram.nodes, n.metadata.get "process" = .null) :
    ∃ props routines, Shown s props routines ∧ ∀ name, name ≠ "" →
      (index s).holder? name = (s.diagram.nodes.find? (·.Names name)).or
        ((nodeNamed? InputProp.name props name).or
          (nodeNamed? Routine.name routines name)) := by
  obtain ⟨handlers, last, hhandlers, hlast⟩ := routinesShown_addRoutines hlive
  have hlive' := ((foldl_collect (f := addRoutine true) PlacedRoutine.ids (addRoutine_step true)
    _ s.component.exportedHandlers).1.live.mp hlive).1
  obtain ⟨processes, middle, hprocesses, hmiddle⟩ := routinesShown_addRoutines hlive'
  have hlive'' := ((foldl_collect (f := addRoutine false) PlacedRoutine.ids (addRoutine_step false)
    _ s.component.processes).1.live.mp hlive').1
  obtain ⟨props, hprops, hfirst, -⟩ := propsShown_addProps hlive''
  have hroutines := hprocesses.append hhandlers
  have hnodes : (placed s).1.diagram.nodes =
      s.diagram.nodes ++ props.map Prod.snd ++ (middle ++ last) := by
    rw [← List.append_assoc]
    exact hlast.trans (congrArg (· ++ last) (hmiddle.trans (congrArg (· ++ middle) hfirst)))
  refine ⟨props, processes ++ handlers, ⟨hprops, hroutines.routines, hroutines.nodes, ?_⟩,
    fun name hname => ?_⟩
  · rw [hnodes]
    exact (List.Sublist.refl _).append hroutines.sublist
  · have hhook : s.diagram.nodes.find? (·.Claims name) =
        s.diagram.nodes.find? (·.Names name) := by
      refine List.find?_congr fun n hn => ?_
      rw [Bool.eq_iff_iff, decide_eq_true_eq, decide_eq_true_eq]
      exact Node.claims_iff_names (hhooks n hn)
    have hprop : (props.map Prod.snd).find? (·.Claims name) =
        nodeNamed? InputProp.name props name :=
      find?_claims fun e he => (hprops.nodes e he).claims name
    have hroutine : ((processes ++ handlers).map Prod.snd).find? (·.Claims name) =
        nodeNamed? Routine.name (processes ++ handlers) name := by
      refine find?_claims fun e he => ?_
      rw [(hroutines.nodes e he).claims name, and_iff_left hname]
    rw [index, NameIndex.holder?_ofNodes, hnodes, List.find?_append, List.find?_append, hhook,
      hroutines.claims, hprop, hroutine, Option.or_assoc]

lemma exists_of_nodeNamed? {α : Type} {nameOf : α → String} {shown : List (α × Node)}
    {name : String} {n : Node} (h : nodeNamed? nameOf shown name = some n) :
    ∃ o, (o, n) ∈ shown ∧ nameOf o = name := by
  obtain ⟨⟨o, m⟩, hfound, rfl⟩ := Option.map_eq_some_iff.mp h
  exact ⟨o, List.mem_of_find?_eq_some hfound, by simpa using List.find?_some hfound⟩

namespace Shown

variable {s : Session} {props : List (InputProp × Node)} {routines : List (Routine × Node)}
  {name : String}

lemma prop_eq_none_iff (h : Shown s props routines) :
    nodeNamed? InputProp.name props name = none ↔ ∀ p ∈ s.component.props, p.name ≠ name := by
  have hfirst : nodeNamed? InputProp.name props name = none ↔
      s.component.props.find? (·.name == name) = none := by
    rw [← h.propNodes.first name, nodeNamed?, Option.map_eq_none_iff, Option.map_eq_none_iff]
  rw [hfirst, List.find?_eq_none]
  simp

lemma routine_eq_none_iff (h : Shown s props routines) :
    nodeNamed? Routine.name routines name = none ↔
      ∀ r ∈ s.component.processes ++ s.component.exportedHandlers, r.name ≠ name := by
  rw [← h.allRoutines, List.forall_mem_map, nodeNamed?, Option.map_eq_none_iff, List.find?_eq_none]
  simp

/-- Props and processes are nodes of different types. -/
lemma prop_ne_routine (h : Shown s props routines) {n m : Node}
    (hn : nodeNamed? InputProp.name props name = some n)
    (hm : nodeNamed? Routine.name routines name = some m) : n ≠ m := by
  obtain ⟨p, hp, -⟩ := exists_of_nodeNamed? hn
  obtain ⟨r, hr, -⟩ := exists_of_nodeNamed? hm
  rintro rfl
  have htype := (h.propNodes.nodes _ hp).type.symm.trans (h.routineNodes _ hr).type
  revert htype
  cases p.isFunctionProp <;> decide

/-- The order of props and processes matters for a name exactly if no hook binds it and both have
it. -/
lemma or_comm_iff (h : Shown s props routines) (hook : Option Node) (name : String) :
    hook.or ((nodeNamed? InputProp.name props name).or (nodeNamed? Routine.name routines name)) =
        hook.or ((nodeNamed? Routine.name routines name).or
          (nodeNamed? InputProp.name props name)) ↔
      hook.isSome = true ∨ (∀ p ∈ s.component.props, p.name ≠ name) ∨
        ∀ r ∈ s.component.processes ++ s.component.exportedHandlers, r.name ≠ name := by
  rw [← h.prop_eq_none_iff, ← h.routine_eq_none_iff]
  cases hprop : nodeNamed? InputProp.name props name with
  | none => simp
  | some n =>
    cases hroutine : nodeNamed? Routine.name routines name with
    | none => simp
    | some m =>
      have hne := h.prop_ne_routine hprop hroutine
      cases hook <;> simp [hne]

end Shown

end Assembly

namespace Analyzer

open Assembly

/-- The node that an identifier is resolved to when the diagram of a session is assembled. -/
def resolvedNode? (s : Session) (name : String) : Option Node :=
  ((index s).resolve name).map (·.node)

/-- The first node of a hook that binds a name. -/
def hookNode? (s : Session) (name : String) : Option Node :=
  s.diagram.nodes.find? (·.Names name)

/-- **Names.** With any selection of built-in processors that discovery accepts, a run is returned,
and each identifier is resolved by one order of precedence: it stands for the first node of a hook
that binds it, or else for the prop of that name, or else for the first process of that name, local
or exported. Processes come before props instead exactly where it makes no difference: if a hook
binds the name, or if not both a prop and a process have it. -/
theorem execute_names_resolved (a : Analyzer) (c : Component) (source : Option String)
    (sel : Selection) (ps : List Processor) (hsel : discover sel [] = .ok ps)
    (hr : a.registry = createRegistry sel []) :
    ∃ run s props routines, (a.execute c source).2 = .ok run ∧
      s = a.dispatched { entries := ps } c source ∧ run.diagram = (assemble s).diagram ∧
      Shown s props routines ∧
      ∀ name, Text.IsIdentifier name.toList →
        resolvedNode? s name = (hookNode? s name).or
          ((nodeNamed? InputProp.name props name).or (nodeNamed? Routine.name routines name)) ∧
        (resolvedNode? s name = (hookNode? s name).or
            ((nodeNamed? Routine.name routines name).or (nodeNamed? InputProp.name props name)) ↔
          (hookNode? s name).isSome = true ∨ (∀ p ∈ c.props, p.name ≠ name) ∨
            ∀ r ∈ c.processes ++ c.exportedHandlers, r.name ≠ name) := by
  obtain ⟨hsound, hcomponent, run, hrun, hdiagram⟩ := execute_discovered c source hsel hr
  obtain ⟨props, routines, hshown, hholder⟩ :=
    holder?_index (live_stages_of_sound hsound).1 fun n hn => (hsound.recorded n hn).process
  refine ⟨run, _, props, routines, hrun, rfl, hdiagram, hshown, fun name hname => ?_⟩
  have hne : name ≠ "" := by
    rintro rfl
    exact absurd hname (by decide)
  have hresolved : resolvedNode? (a.dispatched { entries := ps } c source) name = _ :=
    (NameIndex.node_resolve _ hname).trans (hholder name hne)
  refine ⟨hresolved, ?_⟩
  have hiff := hshown.or_comm_iff (hookNode? (a.dispatched { entries := ps } c source) name) name
  rw [hcomponent] at hiff
  rw [hresolved]
  exact hiff

/-- A form with a prop and a process of one name, and a variable of a hook with another. -/
def form : Component :=
  { name := "Form", framework := some "react"
    props := [{ name := "save" }, { name := "open" }]
    hooks := [{ name := "useState", bound := ["open", "setOpen"], binding := .array }]
    processes := [{ name := "save" }, { name := "open" }] }

lemma hookNode?_form {s : Session}
    (hs : s =
      reactAnalyzer.dispatched { entries := [React.processor, Custom.processor] } form none) :
    hookNode? s "save" = none ∧ (hookNode? s "open").map (·.id) = some "state_0" := by
  subst hs
  rw [dispatched_single (a := reactAnalyzer) (c := form) rfl (select?_react (by decide +kernel))]
  exact ⟨rfl, by decide +kernel⟩

/-- The prop hides the process of its name, and the variable of the hook hides both. -/
theorem execute_names_resolved_form :
    ∃ run s props routines n, (reactAnalyzer.execute form none).2 = .ok run ∧
      run.diagram = (assemble s).diagram ∧ Shown s props routines ∧
      resolvedNode? s "save" = some n ∧ n.type = NodeType.input.name ∧
      resolvedNode? s "save" ≠ (hookNode? s "save").or ((nodeNamed? Routine.name routines "save").or
        (nodeNamed? InputProp.name props "save")) ∧
      (resolvedNode? s "open").map (·.id) = some "state_0" := by
  obtain ⟨run, s, props, routines, hrun, hs, hdiagram, hshown, hnames⟩ :=
    execute_names_resolved reactAnalyzer form none reactOnly _ discover_reactOnly rfl
  obtain ⟨-, hcomponent, -⟩ := execute_discovered form none discover_reactOnly
    (show reactAnalyzer.registry = _ from rfl)
  obtain ⟨hsave, hopen⟩ := hookNode?_form hs
  rw [← hs] at hcomponent
  obtain ⟨hfirst, hclash⟩ := hnames "save" (by decide)
  have hprop : (props.find? (·.1.name == "save")).map Prod.fst = some { name := "save" } := by
    rw [hshown.propNodes.first "save", hcomponent]
    rfl
  obtain ⟨⟨p, n⟩, hfound, rfl⟩ := Option.map_eq_some_iff.mp hprop
  refine ⟨run, s, props, routines, n, hrun, hdiagram, hshown, ?_, ?_, ?_, ?_⟩
  · rw [hfirst, hsave, nodeNamed?, hfound]
    rfl
  · have hdata : ({ name := "save" } : InputProp).isFunctionProp = false := by decide +kernel
    rw [(hshown.propNodes.nodes _ (List.mem_of_find?_eq_some hfound)).type, hdata]
    rfl
  · rw [Ne, hclash, hsave]
    decide
  · obtain ⟨m, hm, hid⟩ := Option.map_eq_some_iff.mp hopen
    rw [(hnames "open" (by decide)).1, hm, Option.some_or, Option.map_some, hid]

end Analyzer

end ComponentFlow
