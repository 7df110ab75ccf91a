import ComponentFlow.Proofs.Diagrams

/-!
# Diagrams under any operations

Nodes, edges and groups are added to a diagram and nodes are taken out of it, in any order and with
any arguments. Nodes, edges and groups are kept apart, and an operation may touch all of them: a
group comes with a node, and a node that is taken out takes its edges and its group with it. They
stay in step all the same (`intact_operations`): edges lead from node to node, types are known, and
every group has its node.

An operation is performed exactly if what it refers to is there and what it adds is new
(`Admissible`), and otherwise nothing changes. Parents are not part of this: a group whose
parent is taken out keeps the name of a group that is gone.
-/

namespace ComponentFlow.Diagram

/-- What can be asked of a diagram. -/
inductive Operation where
  | addNode (n : Node)
  | addEdge (e : Edge)
  | addGroup (g : Group)
  | removeNode (id : String)

namespace Operation

/-- The diagram that an operation makes of another one. -/
def apply (d : Diagram) : Operation → Except DiagramError Diagram
  | addNode n => d.addNode n
  | addEdge e => d.addEdge e
  | addGroup g => d.addGroup g
  | removeNode id => .ok (d.removeNode id)

/-- What an operation needs: a node of a known type with a new id, an edge between nodes that are
there, or a group with a new id whose parent is there. A node can always be taken out. -/
def Admissible (d : Diagram) : Operation → Prop
  | addNode n => isNodeType n.type = true ∧ n.id ∉ d.ids
  | addEdge e => e.source ∈ d.ids ∧ e.target ∈ d.ids
  | addGroup g => (∀ p, g.parent = some p → p ∈ d.groupIds) ∧ g.id ∉ d.ids
  | removeNode _ => True

/-- What an operation is for: what it adds is there, and what it takes out is gone. -/
def Fulfilled (d : Diagram) : Operation → Prop
  | addNode n => n ∈ d.nodes
  | addEdge e => e ∈ d.edges
  | addGroup g => g ∈ d.groups
  | removeNode id => id ∉ d.ids

lemma exists_apply_eq_ok_iff (d : Diagram) (op : Operation) :
    (∃ d', op.apply d = .ok d') ↔ op.Admissible d := by
  cases op with
  | addNode n => simp [apply, Admissible, addNode_eq_ok_iff]
  | addEdge e => simp [apply, Admissible, addEdge_eq_ok_iff]
  | addGroup g => simp [apply, Admissible, addGroup_eq_ok_iff]
  | removeNode id => simp [apply, Admissible]

lemma fulfilled_of_apply {d d' : Diagram} {op : Operation} (h : op.apply d = .ok d') :
    op.Fulfilled d' := by
  cases op with
  | addNode n =>
    obtain ⟨-, -, rfl⟩ := addNode_eq_ok_iff.mp h
    simp [Fulfilled]
  | addEdge e =>
    obtain ⟨-, -, rfl⟩ := addEdge_eq_ok_iff.mp h
    simp [Fulfilled]
  | addGroup g =>
    obtain ⟨-, -, rfl⟩ := addGroup_eq_ok_iff.mp h
    simp [Fulfilled]
  | removeNode id =>
    rw [← Except.ok.inj h]
    simp [Fulfilled, ids, Diagram.removeNode]

end Operation

/-- The diagram after an operation, and why the operation was refused if it was. -/
def perform (d : Diagram) (op : Operation) : Diagram × Option DiagramError :=
  match op.apply d with
  | .ok d' => (d', none)
  | .error e => (d, some e)

/-- The diagram after several operations, those that are refused left out. -/
def performAll (d : Diagram) (ops : List Operation) : Diagram :=
  ops.foldl (fun d op => (d.perform op).1) d

/-- An operation either makes the diagram that it is to make, or is refused and changes nothing. -/
lemma perform_cases (d : Diagram) (op : Operation) :
    (∃ d', op.apply d = .ok d' ∧ d.perform op = (d', none)) ∨
      ((∀ d', op.apply d ≠ .ok d') ∧ ∃ e, d.perform op = (d, some e)) := by
  cases happly : op.apply d with
  | ok d' => exact .inl ⟨d', rfl, by simp only [perform, happly]⟩
  | error e => exact .inr ⟨by simp, e, by simp only [perform, happly]⟩

/-- An operation that is admissible is performed, and any other one is refused. -/
lemma perform_settled (d : Diagram) (op : Operation) :
    (op.Admissible d ∧ (d.perform op).2 = none ∧ op.Fulfilled (d.perform op).1) ∨
      (¬ op.Admissible d ∧ (d.perform op).2.isSome = true ∧ (d.perform op).1 = d) := by
  obtain ⟨d', happly, hperform⟩ | ⟨hnot, e, hperform⟩ := d.perform_cases op
  · rw [hperform]
    exact .inl ⟨(op.exists_apply_eq_ok_iff d).mp ⟨d', happly⟩, rfl,
      Operation.fulfilled_of_apply happly⟩
  · rw [hperform]
    refine .inr ⟨fun hadmissible => ?_, rfl, rfl⟩
    obtain ⟨d', happly⟩ := (op.exists_apply_eq_ok_iff d).mpr hadmissible
    exact hnot d' happly

/-! ## Taking a node out -/

lemma ids_removeNode (d : Diagram) (id : String) :
    (d.removeNode id).ids = d.ids.filter (· != id) := by
  rw [ids, removeNode, ids, List.filter_map]
  rfl

lemma groupIds_removeNode (d : Diagram) (id : String) :
    (d.removeNode id).groupIds = d.groupIds.filter (· != id) := by
  rw [groupIds, removeNode, groupIds, List.filter_map]
  rfl

lemma Coherent.removeNode {d : Diagram} (h : d.Coherent) (id : String) :
    (d.removeNode id).Coherent := by
  refine ⟨?_, ?_, ?_⟩
  · rw [ids_removeNode]
    exact h.ids_nodup.filter _
  · intro e he
    obtain ⟨he, hends⟩ := List.mem_filter.mp he
    obtain ⟨hsource, htarget⟩ := Bool.and_eq_true_iff.mp hends
    rw [ids_removeNode]
    exact ⟨List.mem_filter.mpr ⟨(h.ends e he).1, hsource⟩,
      List.mem_filter.mpr ⟨(h.ends e he).2, htarget⟩⟩
  · rw [ids_removeNode, groupIds_removeNode]
    exact h.groups_sublist.filter _

/-! ## Intact diagrams -/

/-- A coherent diagram with nodes of known types in which every group has a node of the type of
groups. -/
structure Intact (d : Diagram) : Prop extends d.Coherent where
  typed : ∀ n ∈ d.nodes, isNodeType n.type = true
  grouped : ∀ g ∈ d.groups, ∃ n ∈ d.nodes, n.id = g.id ∧ n.type = NodeType.group.name

lemma intact_empty (component : String) : ({ component } : Diagram).Intact where
  toCoherent := coherent_empty component
  typed := by simp
  grouped := by simp

variable {d d' : Diagram}

lemma Intact.addNode {n : Node} (h : d.Intact) (hd' : d.addNode n = .ok d') : d'.Intact := by
  have hcoherent := h.toCoherent.addNode hd'
  obtain ⟨htype, -, rfl⟩ := addNode_eq_ok_iff.mp hd'
  refine ⟨hcoherent, ?_, ?_⟩
  · intro m hm
    obtain hm | hm := List.mem_append.mp hm
    · exact h.typed m hm
    · rw [List.mem_singleton.mp hm]
      exact htype
  · intro g hg
    obtain ⟨m, hm, hgroup⟩ := h.grouped g hg
    exact ⟨m, List.mem_append_left _ hm, hgroup⟩

lemma Intact.addEdge {e : Edge} (h : d.Intact) (hd' : d.addEdge e = .ok d') : d'.Intact := by
  have hcoherent := h.toCoherent.addEdge hd'
  obtain ⟨-, -, rfl⟩ := addEdge_eq_ok_iff.mp hd'
  exact ⟨hcoherent, h.typed, h.grouped⟩

lemma Intact.addGroup {g : Group} (h : d.Intact) (hd' : d.addGroup g = .ok d') : d'.Intact := by
  have hcoherent := h.toCoherent.addGroup hd'
  obtain ⟨-, hid, rfl⟩ := addGroup_eq_ok_iff.mp hd'
  -- the nodes are those after the node of the group is added
  have hnode := h.addNode (n := groupNode g)
    (addNode_eq_ok_iff.mpr ⟨isNodeType_name .group, hid, rfl⟩)
  refine ⟨hcoherent, hnode.typed, fun g' hg' => ?_⟩
  obtain hg' | hg' := List.mem_append.mp hg'
  · exact hnode.grouped g' hg'
  · rw [List.mem_singleton.mp hg']
    exact ⟨groupNode g, by simp, rfl, rfl⟩

lemma Intact.removeNode (h : d.Intact) (id : String) : (d.removeNode id).Intact := by
  refine ⟨h.toCoherent.removeNode id, ?_, ?_⟩
  · intro n hn
    exact h.typed n (List.mem_filter.mp hn).1
  · intro g hg
    obtain ⟨hg, hne⟩ := List.mem_filter.mp hg
    obtain ⟨n, hn, hid, htype⟩ := h.grouped g hg
    exact ⟨n, List.mem_filter.mpr ⟨hn, by rwa [hid]⟩, hid, htype⟩

/-- A change of a node that keeps its id and its type keeps a diagram intact. -/
lemma Intact.modifyNode {id : String} {f : Node → Node} (h : d.Intact)
    (hf : ∀ n, (f n).id = n.id ∧ (f n).type = n.type) : (d.modifyNode id f).Intact := by
  have hkept : ∀ n : Node, (if n.id == id then f n else n).id = n.id ∧
      (if n.id == id then f n else n).type = n.type := by
    intro n
    split
    · exact hf n
    · exact ⟨rfl, rfl⟩
  refine ⟨h.toCoherent.modifyNode fun n => (hf n).1, ?_, ?_⟩
  · intro n hn
    obtain ⟨m, hm, rfl⟩ := List.mem_map.mp hn
    rw [(hkept m).2]
    exact h.typed m hm
  · intro g hg
    obtain ⟨m, hm, hid, htype⟩ := h.grouped g hg
    exact ⟨_, List.mem_map_of_mem hm, (hkept m).1.trans hid, (hkept m).2.trans htype⟩

/-- Every operation keeps a diagram intact, whether it is refused or not. -/
lemma Intact.perform (h : d.Intact) (op : Operation) : (d.perform op).1.Intact := by
  obtain ⟨d', happly, hperform⟩ | ⟨-, e, hperform⟩ := d.perform_cases op
  · rw [hperform]
    cases op with
    | addNode n => exact h.addNode happly
    | addEdge e => exact h.addEdge happly
    | addGroup g => exact h.addGroup happly
    | removeNode id =>
      rw [← Except.ok.inj happly]
      exact h.removeNode id
  · rw [hperform]
    exact h

lemma Intact.performAll (h : d.Intact) (ops : List Operation) : (d.performAll ops).Intact :=
  List.foldlRecOn ops _ h fun _ h op _ => h.perform op

/-- **Any operations.** Whatever is added to an empty diagram and taken out of it, with any
arguments and whatever is refused on the way: both ends of every edge are there, the types of nodes
are known, and every group is also a node of the type of groups. Ids are distinct, so there is no
other node with the id of a group. A further operation that is admissible is performed, and any
other one is refused and leaves the diagram as it is. That it does so needs no proof beyond the
refusal: by the type of `Operation.apply` an operation gives a diagram or an error, so there is no
half-changed diagram, and `perform` keeps the old one. -/
theorem intact_operations (component : String) (ops : List Operation) :
    (performAll { component } ops).Intact ∧ ∀ op : Operation,
      (op.Admissible (performAll { component } ops) ∧
          ((performAll { component } ops).perform op).2 = none ∧
          op.Fulfilled ((performAll { component } ops).perform op).1) ∨
        (¬ op.Admissible (performAll { component } ops) ∧
          ((performAll { component } ops).perform op).2.isSome = true ∧
          ((performAll { component } ops).perform op).1 = performAll { component } ops) :=
  ⟨(intact_empty component).performAll ops, perform_settled _⟩

end ComponentFlow.Diagram
