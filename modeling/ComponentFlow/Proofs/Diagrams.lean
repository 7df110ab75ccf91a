import ComponentFlow.Assoc
import ComponentFlow.Diagram.Basic
import Mathlib.Logic.Relation
import Mathlib.Tactic.Lemma

/-!
# Diagrams that hang together

What every diagram of an analysis has in common, whoever contributed to it: no two nodes share an
id, edges lead from node to node, and every group has a node (`Coherent`). A diagram to which only
the library has added is also tidy: no edge leads back to where it starts, and the groups are
exactly the nodes of that type (`Tidy`).

Each operation is first described by when it succeeds and what it then yields. `Edit` collects what
the assembly of a diagram does to it step by step, short of taking nodes out. A property that one
edit preserves holds after any number of them, so later modules only have to show which edits a pass
consists of.
-/

namespace ComponentFlow

/-! ## Records -/

lemma Metadata.lookup_set (m : Metadata) (key k : String) (value : Value) :
    (m.set key value).lookup k = if k == key then some value else m.lookup k := by
  rw [Metadata.set, Assoc.lookup_insert]

@[simp] lemma Metadata.get_set_self (m : Metadata) (key : String) (value : Value) :
    (m.set key value).get key = value := by
  simp [Metadata.get, Metadata.lookup_set]

lemma Metadata.get_set_of_ne (m : Metadata) {key k : String} (value : Value) (h : k ≠ key) :
    (m.set key value).get k = m.get k := by
  simp [Metadata.get, Metadata.lookup_set, h]

/-- The names under which it is noted what belongs to a node, and where the node belongs. -/
def noteKeys : List String := ["cleanup", "subgraph"]

/-- A node as it is later: at most such notes have been added. -/
structure Node.Continues (n' n : Node) : Prop where
  id : n'.id = n.id
  label : n'.label = n.label
  type : n'.type = n.type
  records : ∀ key ∉ noteKeys, n'.metadata.get key = n.metadata.get key

lemma Node.continues_refl (n : Node) : n.Continues n := ⟨rfl, rfl, rfl, fun _ _ => rfl⟩

lemma Node.Continues.trans {n'' n' n : Node} (h : n''.Continues n') (h' : n'.Continues n) :
    n''.Continues n where
  id := h.id.trans h'.id
  label := h.label.trans h'.label
  type := h.type.trans h'.type
  records := fun key hkey => (h.records key hkey).trans (h'.records key hkey)

lemma Node.continues_set (n : Node) {key : String} (value : Value) (hkey : key ∈ noteKeys) :
    Node.Continues { n with metadata := n.metadata.set key value } n where
  id := rfl
  label := rfl
  type := rfl
  records := fun _ hother =>
    Metadata.get_set_of_ne n.metadata value fun heq => hother (heq ▸ hkey)

/-! ## Types of nodes -/

lemma isNodeType_name (type : NodeType) : isNodeType type.name = true := by
  cases type <;> decide

lemma NodeType.name_ne_group {type : NodeType} (h : type ≠ .group) :
    type.name ≠ NodeType.group.name := by
  cases type <;> first | decide | exact absurd rfl h

namespace Diagram

/-! ## Ids of nodes and groups -/

/-- The ids of the nodes, in order. -/
def ids (d : Diagram) : List String := d.nodes.map (·.id)

/-- The ids of the groups, in order. -/
def groupIds (d : Diagram) : List String := d.groups.map (·.id)

lemma contains_iff {d : Diagram} {id : String} : d.contains id = true ↔ id ∈ d.ids := by
  simp [contains, ids]

lemma contains_eq_false_iff {d : Diagram} {id : String} :
    d.contains id = false ↔ id ∉ d.ids := by
  rw [← contains_iff, Bool.not_eq_true]

lemma isSome_group?_iff {d : Diagram} {id : String} :
    (d.group? id).isSome = true ↔ id ∈ d.groupIds := by
  simp [group?, groupIds]

lemma mem_nodes_of_node? {d : Diagram} {id : String} {n : Node} (h : d.node? id = some n) :
    n ∈ d.nodes ∧ n.id = id :=
  ⟨List.mem_of_find?_eq_some h, by simpa using List.find?_some h⟩

/-! ## When an operation succeeds -/

lemma addNode_eq_ok_iff {d d' : Diagram} {n : Node} :
    d.addNode n = .ok d' ↔
      isNodeType n.type = true ∧ n.id ∉ d.ids ∧ d' = { d with nodes := d.nodes ++ [n] } := by
  rw [addNode]
  by_cases htype : isNodeType n.type = true
  · by_cases hid : n.id ∈ d.ids
    · simp [htype, hid, contains_iff.mpr hid]
    · simp [htype, hid, contains_eq_false_iff.mpr hid, eq_comm]
  · simp [htype]

lemma addEdge_eq_ok_iff {d d' : Diagram} {e : Edge} :
    d.addEdge e = .ok d' ↔
      e.source ∈ d.ids ∧ e.target ∈ d.ids ∧ d' = { d with edges := d.edges ++ [e] } := by
  rw [addEdge]
  by_cases hsource : e.source ∈ d.ids
  · by_cases htarget : e.target ∈ d.ids
    · simp [hsource, htarget, contains_iff.mpr hsource, contains_iff.mpr htarget, eq_comm]
    · simp [hsource, htarget, contains_iff.mpr hsource, contains_eq_false_iff.mpr htarget]
  · simp [hsource, contains_eq_false_iff.mpr hsource]

lemma addGroup_eq_ok_iff {d d' : Diagram} {g : Group} :
    d.addGroup g = .ok d' ↔
      (∀ p, g.parent = some p → p ∈ d.groupIds) ∧ g.id ∉ d.ids ∧
        d' = { d with nodes := d.nodes ++ [groupNode g], groups := d.groups ++ [g] } := by
  have hnode : ∀ d₁, d.addNode (groupNode g) = .ok d₁ ↔
      g.id ∉ d.ids ∧ d₁ = { d with nodes := d.nodes ++ [groupNode g] } := by
    intro d₁
    rw [addNode_eq_ok_iff]
    simp [groupNode, isNodeType_name .group]
  -- with a known parent, or none, a group is added as its node is
  have hadd : ((d.addNode (groupNode g)).map fun d => { d with groups := d.groups ++ [g] }) =
      .ok d' ↔ g.id ∉ d.ids ∧
        d' = { d with nodes := d.nodes ++ [groupNode g], groups := d.groups ++ [g] } := by
    cases hres : d.addNode (groupNode g) with
    | error e =>
      have hno : ¬ (g.id ∉ d.ids) := by
        intro hid
        have := (hnode _).mpr ⟨hid, rfl⟩
        rw [hres] at this
        cases this
      simp only [Except.map, reduceCtorEq, false_iff]
      exact fun h => hno h.1
    | ok d₁ =>
      obtain ⟨hid, rfl⟩ := (hnode d₁).mp hres
      simp [Except.map, hid, eq_comm]
  rw [addGroup]
  cases hparent : g.parent with
  | none => simpa [hparent] using hadd
  | some p =>
    by_cases hp : p ∈ d.groupIds
    · have hsome : (d.group? p).isNone = false := by
        have := isSome_group?_iff.mpr hp
        cases hg : d.group? p <;> simp_all
      simpa [hparent, hsome, hp] using hadd
    · have hnone : (d.group? p).isNone = true := by
        have := mt isSome_group?_iff.mp hp
        cases hg : d.group? p <;> simp_all
      simp [hnone, hp]

/-! ## Changes that keep ids -/

lemma ids_modifyNode {d : Diagram} {id : String} {f : Node → Node} (hf : ∀ n, (f n).id = n.id) :
    (d.modifyNode id f).ids = d.ids := by
  simp only [ids, modifyNode, List.map_map]
  refine List.map_congr_left fun n _ => ?_
  simp only [Function.comp_apply]
  split
  · exact hf n
  · rfl

lemma groupIds_modifyGroup {d : Diagram} {id : String} {f : Group → Group}
    (hf : ∀ g, (f g).id = g.id) : (d.modifyGroup id f).groupIds = d.groupIds := by
  simp only [groupIds, modifyGroup, List.map_map]
  refine List.map_congr_left fun g _ => ?_
  simp only [Function.comp_apply]
  split
  · exact hf g
  · rfl

/-! ## Coherence -/

/-- A diagram whose ids are distinct, whose edges have both ends, and whose groups have nodes. -/
structure Coherent (d : Diagram) : Prop where
  ids_nodup : d.ids.Nodup
  ends : ∀ e ∈ d.edges, e.source ∈ d.ids ∧ e.target ∈ d.ids
  groups_sublist : d.groupIds.Sublist d.ids

lemma Coherent.groupIds_nodup {d : Diagram} (h : d.Coherent) : d.groupIds.Nodup :=
  h.groups_sublist.nodup h.ids_nodup

lemma coherent_empty (component : String) : ({ component } : Diagram).Coherent where
  ids_nodup := List.nodup_nil
  ends := by simp
  groups_sublist := List.Sublist.slnil

lemma Coherent.addNode {d d' : Diagram} {n : Node} (h : d.Coherent)
    (hd' : d.addNode n = .ok d') : d'.Coherent := by
  obtain ⟨-, hid, rfl⟩ := addNode_eq_ok_iff.mp hd'
  have hids : ({ d with nodes := d.nodes ++ [n] } : Diagram).ids = d.ids ++ [n.id] := by
    simp [ids]
  refine ⟨?_, ?_, ?_⟩
  · rw [hids]
    refine List.nodup_append.mpr ⟨h.ids_nodup, by simp, ?_⟩
    intro a ha b hb
    rw [List.mem_singleton.mp hb]
    exact fun heq => hid (heq ▸ ha)
  · intro e he
    rw [hids]
    obtain ⟨hsource, htarget⟩ := h.ends e he
    exact ⟨List.mem_append_left _ hsource, List.mem_append_left _ htarget⟩
  · rw [hids]
    exact h.groups_sublist.trans (List.sublist_append_left _ _)

lemma Coherent.addEdge {d d' : Diagram} {e : Edge} (h : d.Coherent)
    (hd' : d.addEdge e = .ok d') : d'.Coherent := by
  obtain ⟨hsource, htarget, rfl⟩ := addEdge_eq_ok_iff.mp hd'
  refine ⟨h.ids_nodup, ?_, h.groups_sublist⟩
  intro e' he'
  obtain he' | he' := List.mem_append.mp he'
  · exact h.ends e' he'
  · rw [List.mem_singleton.mp he']
    exact ⟨hsource, htarget⟩

lemma Coherent.addGroup {d d' : Diagram} {g : Group} (h : d.Coherent)
    (hd' : d.addGroup g = .ok d') : d'.Coherent := by
  obtain ⟨-, hid, rfl⟩ := addGroup_eq_ok_iff.mp hd'
  have hnode : (d.addNode (groupNode g)) = .ok { d with nodes := d.nodes ++ [groupNode g] } :=
    addNode_eq_ok_iff.mpr ⟨isNodeType_name .group, hid, rfl⟩
  have hadded := h.addNode hnode
  refine ⟨hadded.ids_nodup, hadded.ends, ?_⟩
  have hgroups : ({ d with nodes := d.nodes ++ [groupNode g], groups := d.groups ++ [g] } :
      Diagram).groupIds = d.groupIds ++ [g.id] := by
    simp [groupIds]
  have hids : ({ d with nodes := d.nodes ++ [groupNode g], groups := d.groups ++ [g] } :
      Diagram).ids = d.ids ++ [g.id] := by
    simp [ids, groupNode]
  rw [hgroups, hids]
  exact h.groups_sublist.append (List.Sublist.refl _)

lemma Coherent.modifyNode {d : Diagram} {id : String} {f : Node → Node} (h : d.Coherent)
    (hf : ∀ n, (f n).id = n.id) : (d.modifyNode id f).Coherent := by
  have hids : (d.modifyNode id f).ids = d.ids := ids_modifyNode hf
  refine ⟨by rw [hids]; exact h.ids_nodup, ?_, ?_⟩
  · intro e he
    rw [hids]
    exact h.ends e he
  · rw [hids]
    exact h.groups_sublist

lemma Coherent.modifyGroup {d : Diagram} {id : String} {f : Group → Group} (h : d.Coherent)
    (hf : ∀ g, (f g).id = g.id) : (d.modifyGroup id f).Coherent := by
  refine ⟨h.ids_nodup, h.ends, ?_⟩
  rw [groupIds_modifyGroup hf]
  exact h.groups_sublist

/-! ## Nesting of groups -/

/-- Every group that has a parent comes after it. -/
def Nested (gs : List Group) : Prop :=
  ∀ before g after, gs = before ++ g :: after → ∀ p, g.parent = some p → p ∈ before.map (·.id)

lemma nested_nil : Nested [] := by
  intro before g after h
  simp at h

lemma Nested.parent_mem {gs : List Group} (h : Nested gs) {g : Group} (hg : g ∈ gs) {p : String}
    (hp : g.parent = some p) : p ∈ gs.map (·.id) := by
  obtain ⟨before, after, rfl⟩ := List.append_of_mem hg
  rw [List.map_append]
  exact List.mem_append_left _ (h before g after rfl p hp)

lemma Nested.append_singleton {gs : List Group} {g : Group} (h : Nested gs)
    (hg : ∀ p, g.parent = some p → p ∈ gs.map (·.id)) : Nested (gs ++ [g]) := by
  intro before g' after heq p hp
  obtain rfl | ⟨after, last, rfl⟩ := List.eq_nil_or_concat after
  · obtain ⟨rfl, hlast⟩ := List.append_inj' heq rfl
    obtain rfl : g = g' := by simpa using hlast
    exact hg p hp
  · rw [List.concat_eq_append, ← List.cons_append, ← List.append_assoc] at heq
    obtain ⟨rfl, -⟩ := List.append_inj' heq rfl
    exact h before g' after rfl p hp

lemma Nested.map {gs : List Group} {f : Group → Group} (h : Nested gs)
    (hf : ∀ g, (f g).id = g.id ∧ (f g).parent = g.parent) : Nested (gs.map f) := by
  intro before g after heq p hp
  obtain ⟨before', rest, rfl, rfl, hrest⟩ := List.map_eq_append_iff.mp heq
  obtain ⟨g', after', rfl, rfl, -⟩ := List.map_eq_cons_iff.mp hrest
  rw [(hf g').2] at hp
  have hmem := h before' g' after' rfl p hp
  rw [List.map_map]
  simpa [Function.comp_def, hf] using hmem

/-! ## Tidiness -/

/-- A diagram without edges from a node to itself whose groups are exactly the nodes that stand for
one. -/
structure Tidy (d : Diagram) : Prop where
  loopless : ∀ e ∈ d.edges, e.source ≠ e.target
  grouped : d.groupIds = (d.nodes.filter (·.type == NodeType.group.name)).map (·.id)

lemma Tidy.addNode {d d' : Diagram} {n : Node} (h : d.Tidy) (hn : n.type ≠ NodeType.group.name)
    (hd' : d.addNode n = .ok d') : d'.Tidy := by
  obtain ⟨-, -, rfl⟩ := addNode_eq_ok_iff.mp hd'
  refine ⟨h.loopless, ?_⟩
  simpa [groupIds, hn] using h.grouped

lemma Tidy.addEdge {d d' : Diagram} {e : Edge} (h : d.Tidy) (he : e.source ≠ e.target)
    (hd' : d.addEdge e = .ok d') : d'.Tidy := by
  obtain ⟨-, -, rfl⟩ := addEdge_eq_ok_iff.mp hd'
  refine ⟨?_, h.grouped⟩
  intro e' he'
  obtain he' | he' := List.mem_append.mp he'
  · exact h.loopless e' he'
  · rw [List.mem_singleton.mp he']
    exact he

lemma Tidy.addGroup {d d' : Diagram} {g : Group} (h : d.Tidy) (hd' : d.addGroup g = .ok d') :
    d'.Tidy := by
  obtain ⟨-, -, rfl⟩ := addGroup_eq_ok_iff.mp hd'
  refine ⟨h.loopless, ?_⟩
  have hgrouped := h.grouped
  simp only [groupIds] at hgrouped
  simp [groupIds, groupNode, hgrouped]

lemma Tidy.modifyNode {d : Diagram} {id : String} {f : Node → Node} (h : d.Tidy)
    (hf : ∀ n, (f n).id = n.id ∧ (f n).type = n.type) : (d.modifyNode id f).Tidy := by
  refine ⟨h.loopless, ?_⟩
  have hkept : ∀ n : Node, (if n.id == id then f n else n).id = n.id ∧
      (if n.id == id then f n else n).type = n.type := by
    intro n
    split
    · exact hf n
    · exact ⟨rfl, rfl⟩
  simp only [Diagram.modifyNode, List.filter_map, List.map_map, Function.comp_def, hkept]
  exact h.grouped

lemma Tidy.modifyGroup {d : Diagram} {id : String} {f : Group → Group} (h : d.Tidy)
    (hf : ∀ g, (f g).id = g.id) : (d.modifyGroup id f).Tidy := by
  refine ⟨h.loopless, ?_⟩
  rw [groupIds_modifyGroup hf]
  exact h.grouped

/-! ## Edits -/

/-- What one step of the assembly can do to a diagram, short of taking a node out. Groups are added
and changed only while the markup is laid out. -/
inductive Edit : (laying : Bool) → Diagram → Diagram → Prop
  | node {k d d' n} : n.type ≠ NodeType.group.name → d.addNode n = .ok d' → Edit k d d'
  | edge {k d d' e} : e.source ≠ e.target → d.addEdge e = .ok d' → Edit k d d'
  | modifyNode {k d id f} : (∀ n : Node, (f n).Continues n) → Edit k d (d.modifyNode id f)
  | group {d d' g} : d.addGroup g = .ok d' → Edit true d d'
  | modifyGroup {d id f} : (∀ g : Group, (f g).id = g.id ∧ (f g).parent = g.parent) →
      Edit true d (d.modifyGroup id f)

/-- What several steps can do. -/
def Edits (laying : Bool) : Diagram → Diagram → Prop := Relation.ReflTransGen (Edit laying)

lemma Edits.refl (k : Bool) (d : Diagram) : Edits k d d := Relation.ReflTransGen.refl

lemma Edits.trans {k : Bool} {d d' d'' : Diagram} (h : Edits k d d') (h' : Edits k d' d'') :
    Edits k d d'' :=
  Relation.ReflTransGen.trans h h'

lemma Edit.edits {k : Bool} {d d' : Diagram} (h : Edit k d d') : Edits k d d' :=
  Relation.ReflTransGen.single h

/-- A property that one edit preserves is preserved by all of them. -/
lemma Edits.preserve {k : Bool} {P : Diagram → Prop} (hP : ∀ {d d'}, Edit k d d' → P d → P d')
    {d d' : Diagram} (h : Edits k d d') (hd : P d) : P d' := by
  induction h with
  | refl => exact hd
  | tail _ hedit ih => exact hP hedit ih

lemma Edits.laying {d d' : Diagram} (h : Edits false d d') : Edits true d d' := by
  refine h.preserve (P := Edits true d) (fun {d₁ d₂} hedit hd => hd.trans (Edit.edits ?_))
    (Edits.refl true d)
  cases hedit with
  | node hn hok => exact .node hn hok
  | edge he hok => exact .edge he hok
  | modifyNode hf => exact .modifyNode hf

lemma Edits.coherent {k : Bool} {d d' : Diagram} (h : Edits k d d') (hd : d.Coherent) :
    d'.Coherent := by
  refine h.preserve (fun {d d'} hedit hd => ?_) hd
  cases hedit with
  | node _ hok => exact hd.addNode hok
  | group hok => exact hd.addGroup hok
  | edge _ hok => exact hd.addEdge hok
  | modifyNode hf => exact hd.modifyNode fun n => (hf n).id
  | modifyGroup hf => exact hd.modifyGroup fun g => (hf g).1

lemma Edits.tidy {k : Bool} {d d' : Diagram} (h : Edits k d d') (hd : d.Tidy) : d'.Tidy := by
  refine h.preserve (fun {d d'} hedit hd => ?_) hd
  cases hedit with
  | node hn hok => exact hd.addNode hn hok
  | group hok => exact hd.addGroup hok
  | edge he hok => exact hd.addEdge he hok
  | modifyNode hf => exact hd.modifyNode fun n => ⟨(hf n).id, (hf n).type⟩
  | modifyGroup hf => exact hd.modifyGroup fun g => (hf g).1

lemma Edits.mem_ids {k : Bool} {d d' : Diagram} {id : String} (h : Edits k d d')
    (hid : id ∈ d.ids) : id ∈ d'.ids := by
  refine h.preserve (P := fun d => id ∈ d.ids) (fun {d d'} hedit hd => ?_) hid
  cases hedit with
  | node _ hok =>
    obtain ⟨-, -, rfl⟩ := addNode_eq_ok_iff.mp hok
    rw [ids, List.map_append]
    exact List.mem_append_left _ hd
  | group hok =>
    obtain ⟨-, -, rfl⟩ := addGroup_eq_ok_iff.mp hok
    rw [ids, List.map_append]
    exact List.mem_append_left _ hd
  | edge _ hok =>
    obtain ⟨-, -, rfl⟩ := addEdge_eq_ok_iff.mp hok
    exact hd
  | modifyNode hf =>
    rw [ids_modifyNode fun n => (hf n).id]
    exact hd
  | modifyGroup _ => exact hd

/-- No node is taken out or made into another one. -/
lemma Edits.exists_node {k : Bool} {d d' : Diagram} {n : Node} (h : Edits k d d')
    (hn : n ∈ d.nodes) : ∃ n' ∈ d'.nodes, n'.Continues n := by
  refine h.preserve (P := fun d => ∃ n' ∈ d.nodes, n'.Continues n) (fun {d d'} hedit hd => ?_)
    ⟨n, hn, n.continues_refl⟩
  obtain ⟨n', hn', hcontinues⟩ := hd
  cases hedit with
  | node _ hok =>
    obtain ⟨-, -, rfl⟩ := addNode_eq_ok_iff.mp hok
    exact ⟨n', List.mem_append_left _ hn', hcontinues⟩
  | group hok =>
    obtain ⟨-, -, rfl⟩ := addGroup_eq_ok_iff.mp hok
    exact ⟨n', List.mem_append_left _ hn', hcontinues⟩
  | edge _ hok =>
    obtain ⟨-, -, rfl⟩ := addEdge_eq_ok_iff.mp hok
    exact ⟨n', hn', hcontinues⟩
  | modifyNode hf =>
    refine ⟨_, List.mem_map_of_mem hn', ?_⟩
    split
    · exact (hf n').trans hcontinues
    · exact hcontinues
  | modifyGroup _ => exact ⟨n', hn', hcontinues⟩

/-- No edge is taken out. -/
lemma Edits.mem_edges {k : Bool} {d d' : Diagram} {e : Edge} (h : Edits k d d')
    (he : e ∈ d.edges) : e ∈ d'.edges := by
  refine h.preserve (P := fun d => e ∈ d.edges) (fun {d d'} hedit hd => ?_) he
  cases hedit with
  | node _ hok =>
    obtain ⟨-, -, rfl⟩ := addNode_eq_ok_iff.mp hok
    exact hd
  | group hok =>
    obtain ⟨-, -, rfl⟩ := addGroup_eq_ok_iff.mp hok
    exact hd
  | edge _ hok =>
    obtain ⟨-, -, rfl⟩ := addEdge_eq_ok_iff.mp hok
    exact List.mem_append_left _ hd
  | modifyNode _ => exact hd
  | modifyGroup _ => exact hd

lemma Edits.mem_groupIds {k : Bool} {d d' : Diagram} {id : String} (h : Edits k d d')
    (hid : id ∈ d.groupIds) :
    id ∈ d'.groupIds := by
  refine h.preserve (P := fun d => id ∈ d.groupIds) (fun {d d'} hedit hd => ?_) hid
  cases hedit with
  | node _ hok =>
    obtain ⟨-, -, rfl⟩ := addNode_eq_ok_iff.mp hok
    exact hd
  | group hok =>
    obtain ⟨-, -, rfl⟩ := addGroup_eq_ok_iff.mp hok
    rw [groupIds, List.map_append]
    exact List.mem_append_left _ hd
  | edge _ hok =>
    obtain ⟨-, -, rfl⟩ := addEdge_eq_ok_iff.mp hok
    exact hd
  | modifyNode _ => exact hd
  | modifyGroup hf =>
    rw [groupIds_modifyGroup fun g => (hf g).1]
    exact hd

/-- Only the layout touches groups. -/
lemma Edits.groups_eq {d d' : Diagram} (h : Edits false d d') : d'.groups = d.groups := by
  refine h.preserve (P := fun d' => d'.groups = d.groups) (fun {d₁ d₂} hedit hd => ?_) rfl
  cases hedit with
  | node _ hok =>
    obtain ⟨-, -, rfl⟩ := addNode_eq_ok_iff.mp hok
    exact hd
  | edge _ hok =>
    obtain ⟨-, -, rfl⟩ := addEdge_eq_ok_iff.mp hok
    exact hd
  | modifyNode _ => exact hd

lemma Nested.addGroup {d d' : Diagram} {g : Group} (h : Nested d.groups)
    (hd' : d.addGroup g = .ok d') : Nested d'.groups := by
  obtain ⟨hparent, -, rfl⟩ := addGroup_eq_ok_iff.mp hd'
  exact h.append_singleton hparent

lemma Nested.modifyGroup {d : Diagram} {id : String} {f : Group → Group} (h : Nested d.groups)
    (hf : ∀ g, (f g).id = g.id ∧ (f g).parent = g.parent) :
    Nested (d.modifyGroup id f).groups := by
  refine h.map fun g => ?_
  split
  · exact hf g
  · exact ⟨rfl, rfl⟩

lemma Edits.nested {k : Bool} {d d' : Diagram} (h : Edits k d d') (hd : Nested d.groups) :
    Nested d'.groups := by
  refine h.preserve (P := fun d => Nested d.groups) (fun {d d'} hedit hd => ?_) hd
  cases hedit with
  | node _ hok =>
    obtain ⟨-, -, rfl⟩ := addNode_eq_ok_iff.mp hok
    exact hd
  | group hok => exact hd.addGroup hok
  | edge _ hok =>
    obtain ⟨-, -, rfl⟩ := addEdge_eq_ok_iff.mp hok
    exact hd
  | modifyNode _ => exact hd
  | modifyGroup hf => exact hd.modifyGroup hf

end Diagram

end ComponentFlow
