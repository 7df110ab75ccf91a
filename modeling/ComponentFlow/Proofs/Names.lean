import ComponentFlow.Assembly.Markup
import ComponentFlow.Proofs.Builds

/-!
# Links between named nodes

A name index only ever answers with nodes that were entered into it (`mem_of_holds`). So every link
that is found through an index leads between its nodes and the process, element or group that asks.
The lemmas of the second part say this once for each kind of link; with them the ends of links are
settled, and what remains of following a link is whether it can be read.
-/

namespace ComponentFlow

lemma Assoc.mem_of_lookup {α : Type} {key : String} {value : α} {entries : List (String × α)}
    (h : entries.lookup key = some value) : (key, value) ∈ entries := by
  induction entries with
  | nil => simp at h
  | cons e rest ih =>
    rw [List.lookup_cons] at h
    split at h
    · rename_i hkey
      obtain rfl := Option.some.inj h
      rw [eq_of_beq hkey]
      exact List.mem_cons_self
    · exact List.mem_cons_of_mem _ (ih h)

namespace NameIndex

/-- A node that a name or a label of the index stands for. -/
def Holds (x : NameIndex) (n : Node) : Prop :=
  (∃ e ∈ x.claims, e.2.node = n) ∨ ∃ e ∈ x.labels, e.2 = n

/-- An id of a node of the index. -/
def Names (x : NameIndex) (id : String) : Prop :=
  ∃ n, x.Holds n ∧ n.id = id

lemma mem_insertNew {α : Type} {key : String} {value : α} {entries : List (String × α)}
    {e : String × α} (h : e ∈ Assoc.insertNew key value entries) :
    e ∈ entries ∨ e = (key, value) := by
  unfold Assoc.insertNew at h
  split at h
  · exact .inl h
  · simpa using h

lemma holds_claim {x : NameIndex} {name : String} {n m : Node} {role : Role}
    {property : Option String} (h : (x.claim name n role property).Holds m) :
    x.Holds m ∨ m = n := by
  obtain ⟨e, he, rfl⟩ | hlabel := h
  · obtain he | rfl := mem_insertNew he
    · exact .inl (.inl ⟨e, he, rfl⟩)
    · exact .inr rfl
  · exact .inl (.inr hlabel)

lemma holds_foldl_claim {α : Type} {f : α → String × Role × Option String} {n m : Node}
    {names : List α} {x : NameIndex}
    (h : (names.foldl (fun x a => x.claim (f a).1 n (f a).2.1 (f a).2.2) x).Holds m) :
    x.Holds m ∨ m = n := by
  induction names generalizing x with
  | nil => exact .inl h
  | cons a rest ih =>
    obtain h | h := ih h
    · exact holds_claim h
    · exact .inr h

/-- Entering a node brings no other node in. -/
lemma holds_addNode {x : NameIndex} {n m : Node} (h : (x.addNode n).Holds m) :
    x.Holds m ∨ m = n := by
  unfold addNode at h
  obtain hclaim | ⟨e, he, rfl⟩ := h
  · obtain h | h :=
      holds_foldl_claim (f := fun name : String => (name, .function, none)) (.inl hclaim)
    · exact holds_foldl_claim (f := fun v : String × Role => (v.1, v.2, aliasOf n v.1)) h
    · exact .inr h
  · obtain he | rfl := mem_insertNew he
    · obtain h | h := holds_foldl_claim (f := fun name : String => (name, .function, none))
        (.inr ⟨e, he, rfl⟩)
      · exact holds_foldl_claim (f := fun v : String × Role => (v.1, v.2, aliasOf n v.1)) h
      · exact .inr h
    · exact .inr rfl

/-- The index of several nodes holds only these. -/
lemma mem_of_holds {nodes : List Node} {m : Node} (h : (ofNodes nodes).Holds m) : m ∈ nodes := by
  refine List.foldlRecOn nodes addNode
    (motive := fun x : NameIndex => ∀ m, x.Holds m → m ∈ nodes) ?_ ?_ m h
  · rintro m (⟨e, he, -⟩ | ⟨e, he, -⟩) <;> simp at he
  · intro x hx n hn m hm
    obtain hm | rfl := holds_addNode hm
    · exact hx m hm
    · exact hn

lemma mem_ids_of_names {d : Diagram} {id : String} (h : (ofNodes d.nodes).Names id) :
    id ∈ d.ids := by
  obtain ⟨n, hn, rfl⟩ := h
  exact List.mem_map_of_mem (mem_of_holds hn)

lemma holds_of_resolve {x : NameIndex} {reference : String} {b : Binding}
    (h : x.resolve reference = some b) : x.Holds b.node := by
  simp only [resolve] at h
  obtain ⟨c, hc, rfl⟩ := Option.map_eq_some_iff.mp h
  exact .inl ⟨_, Assoc.mem_of_lookup hc, rfl⟩

lemma names_of_resolve {x : NameIndex} {reference : String} {b : Binding}
    (h : x.resolve reference = some b) : x.Names b.node.id :=
  ⟨b.node, holds_of_resolve h, rfl⟩

lemma holds_of_resolveLabel {x : NameIndex} {name : String} {n : Node}
    (h : x.resolveLabel name = some n) : x.Holds n := by
  unfold resolveLabel at h
  split at h
  · rename_i b hb
    obtain rfl := Option.some.inj h
    exact holds_of_resolve hb
  · exact .inr ⟨_, Assoc.mem_of_lookup h, rfl⟩

/-- An index has a fault if one of its nodes has. -/
lemma fault_ofNodes_eq_none_iff {nodes : List Node} :
    (ofNodes nodes).fault = none ↔
      ∀ n ∈ nodes, aliasFault? n = none ∧ processFault? n = none := by
  have hfold : ∀ x : NameIndex, (nodes.foldl addNode x).fault = none ↔
      x.fault = none ∧ ∀ n ∈ nodes, aliasFault? n = none ∧ processFault? n = none := by
    induction nodes with
    | nil => simp
    | cons n rest ih =>
      intro x
      have hadd : (x.addNode n).fault = (x.fault.or (aliasFault? n)).or (processFault? n) := rfl
      rw [List.foldl_cons, ih, hadd]
      simp only [Option.or_eq_none_iff, List.forall_mem_cons, and_assoc]
  rw [ofNodes, hfold]
  simp

end NameIndex

namespace Assembly

variable {x : NameIndex} {known : String → Prop}

/-! ## Links of the data flow -/

lemma initializerLinks_among {props : List (String × String)} {nodes : List Node}
    (hprops : ∀ e ∈ props, known e.2) (hnodes : ∀ n ∈ nodes, known n.id) :
    ∀ l ∈ initializerLinks props nodes, l.Among known := by
  intro l hl
  obtain ⟨n, hn, hl⟩ := List.mem_filterMap.mp hl
  simp only [initializerLink] at hl
  split at hl
  · cases hl
  split at hl
  · obtain rfl := Option.some.inj hl
    trivial
  · obtain ⟨prop, hprop, rfl⟩ := Option.map_eq_some_iff.mp hl
    obtain ⟨name, -, hname⟩ := Option.bind_eq_some_iff.mp hprop
    exact ⟨hprops _ (Assoc.mem_of_lookup hname), hnodes n hn⟩

lemma dependencyFlow_among {source n : Node} (hsource : known source.id) (hn : known n.id) :
    (dependencyFlow source n).Among known := by
  unfold dependencyFlow
  split
  · exact ⟨hsource, hn⟩
  · exact ⟨hsource, hn⟩
  · exact ⟨hsource, hn⟩

lemma dependencyLinks_among {nodes : List Node} (hx : ∀ id, x.Names id → known id)
    (hnodes : ∀ n ∈ nodes, known n.id) : ∀ l ∈ dependencyLinks x nodes, l.Among known := by
  intro l hl
  obtain ⟨n, hn, hl⟩ := List.mem_flatMap.mp hl
  simp only [dependencyLinksTo] at hl
  split at hl
  · cases hl
  split at hl
  · rw [List.mem_singleton.mp hl]
    trivial
  · obtain ⟨dependency, -, hl⟩ := List.mem_filterMap.mp hl
    unfold dependencyLink at hl
    split at hl
    · obtain ⟨source, hsource, rfl⟩ := Option.map_eq_some_iff.mp hl
      obtain ⟨hsource, -⟩ := Option.filter_eq_some_iff.mp hsource
      exact dependencyFlow_among (hx _ ⟨source, NameIndex.holds_of_resolveLabel hsource, rfl⟩)
        (hnodes n hn)
    · obtain rfl := Option.some.inj hl
      trivial

/-- What is read comes from where a name leads, and goes to the process. -/
lemma exists_of_mem_readEdges {process : String} {references : List String} {e : Edge}
    (h : e ∈ readEdges x process references) : ∃ reference b,
      x.resolve reference = some b ∧ e = ⟨b.node.id, process, b.label "reads"⟩ := by
  obtain ⟨reference, -, h⟩ := List.mem_filterMap.mp h
  obtain ⟨b, hb, h⟩ := Option.bind_eq_some_iff.mp h
  split at h
  · cases h
  · exact ⟨reference, b, hb, (Option.some.inj h).symm⟩

lemma exists_of_mem_triggerEdges {process : String} {dependencies : List String} {e : Edge}
    (h : e ∈ triggerEdges x process dependencies) : ∃ dependency b,
      x.resolve dependency = some b ∧ e = ⟨b.node.id, process, b.label "triggers"⟩ := by
  obtain ⟨dependency, -, h⟩ := List.mem_filterMap.mp h
  obtain ⟨b, hb, h⟩ := Option.bind_eq_some_iff.mp h
  split at h
  · cases h
  · exact ⟨dependency, b, hb, (Option.some.inj h).symm⟩

lemma readEdges_known {process : String} (references : List String)
    (hx : ∀ id, x.Names id → known id) (hp : known process) :
    ∀ e ∈ readEdges x process references, known e.source ∧ known e.target := by
  intro e he
  obtain ⟨_, b, hb, rfl⟩ := exists_of_mem_readEdges he
  exact ⟨hx _ (NameIndex.names_of_resolve hb), hp⟩

lemma callLinks_among {process : String} (calls : List String)
    (hx : ∀ id, x.Names id → known id) (hp : known process) :
    ∀ l ∈ callLinks x process calls, l.Among known := by
  intro l hl
  obtain ⟨call, -, hl⟩ := List.mem_filterMap.mp hl
  obtain ⟨b, hb, rfl⟩ := Option.map_eq_some_iff.mp hl
  have hb := hx _ (NameIndex.names_of_resolve (Option.filter_eq_some_iff.mp hb).1)
  unfold callFlow
  split
  · exact ⟨hp, hb⟩
  split
  · trivial
  split
  · exact ⟨hp, hb⟩
  split
  · trivial
  split
  · exact ⟨hp, hb⟩
  split
  · exact ⟨hp, hb⟩
  · exact ⟨hb, hp⟩

lemma assignEdges_known {process : String} (targets : List String)
    (hx : ∀ id, x.Names id → known id) (hp : known process) :
    ∀ e ∈ assignEdges x process targets, known e.source ∧ known e.target := by
  intro e he
  obtain ⟨target, -, he⟩ := List.mem_filterMap.mp he
  obtain ⟨b, hb, rfl⟩ := Option.map_eq_some_iff.mp he
  exact ⟨hp, hx _ (NameIndex.names_of_resolve hb)⟩

lemma triggerEdges_known {process : String} (dependencies : List String)
    (hx : ∀ id, x.Names id → known id) (hp : known process) :
    ∀ e ∈ triggerEdges x process dependencies, known e.source ∧ known e.target := by
  intro e he
  obtain ⟨_, b, hb, rfl⟩ := exists_of_mem_triggerEdges he
  exact ⟨hx _ (NameIndex.names_of_resolve hb), hp⟩

/-- Only a dependency can be without a text as label. -/
lemma callLinks_leaves (x : NameIndex) (process : String) (calls : List String) :
    (callLinks x process calls).flatMap Link.leaves = [] := by
  rw [List.flatMap_eq_nil_iff]
  intro l hl
  obtain ⟨call, -, hl⟩ := List.mem_filterMap.mp hl
  obtain ⟨b, -, rfl⟩ := Option.map_eq_some_iff.mp hl
  unfold callFlow
  repeat' split
  all_goals rfl

end Assembly

end ComponentFlow
