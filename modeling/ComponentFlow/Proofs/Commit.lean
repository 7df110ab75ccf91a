import ComponentFlow.Proofs.Ids
import ComponentFlow.Proofs.Diagrams

/-!
# Commits

What a commit leaves behind. The checks look at ids, at the ends of edges, and at what resources and
updates refer to (`check_eq_none_iff`). They do not look at the types of nodes, and not at groups at
all. So a contribution that passes them can still be refused half-way (`commit_cases`), and then the
nodes and groups that came before the refused one stay. Edges and resources are never left behind,
since edges that pass the checks are not refused. The theorem about failed commits says exactly when
one of them changes nothing.

A coherent diagram stays coherent under every commit, successful or not.
-/

namespace ComponentFlow

namespace Node

/-- A patch changes records only. -/
lemma patch_id_type (n : Node) (entries : Metadata) :
    (n.patch entries).id = n.id ∧ (n.patch entries).type = n.type := by
  induction entries generalizing n with
  | nil => exact ⟨rfl, rfl⟩
  | cons e rest ih =>
    obtain ⟨hid, htype⟩ := ih (n.patchEntry e.1 e.2)
    have hentry : (n.patchEntry e.1 e.2).id = n.id ∧ (n.patchEntry e.1 e.2).type = n.type := by
      simp only [patchEntry]
      split <;> exact ⟨rfl, rfl⟩
    exact ⟨hid.trans hentry.1, htype.trans hentry.2⟩

end Node

namespace Diagram

/-- The diagram with further nodes and groups. -/
def extend (d : Diagram) (nodes : List Node) (groups : List Group) : Diagram :=
  { d with nodes := d.nodes ++ nodes ++ groups.map groupNode, groups := d.groups ++ groups }

lemma ids_extend (d : Diagram) (nodes : List Node) (groups : List Group) :
    (d.extend nodes groups).ids = d.ids ++ nodes.map (·.id) ++ groups.map (·.id) := by
  simp [ids, extend, groupNode, Function.comp_def]

@[simp] lemma extend_nil (d : Diagram) : d.extend [] [] = d := by
  simp [extend]

/-- An extension changes nothing only if it adds nothing. -/
lemma extend_eq_self_iff {d : Diagram} {nodes : List Node} {groups : List Group} :
    d.extend nodes groups = d ↔ nodes = [] ∧ groups = [] := by
  constructor
  · intro h
    have hgroups : groups = [] := by
      have := congrArg Diagram.groups h
      simpa [extend] using this
    have hnodes := congrArg Diagram.nodes h
    exact ⟨by simpa [extend, hgroups] using hnodes, hgroups⟩
  · rintro ⟨rfl, rfl⟩
    exact extend_nil d

/-! ## Adding several items -/

lemma addUntil_preserve {α : Type} {add : Diagram → α → Except DiagramError Diagram}
    {P : Diagram → Prop} (hadd : ∀ {d d' x}, add d x = .ok d' → P d → P d') {d : Diagram}
    (xs : List α) (hd : P d) : P (d.addUntil add xs).1 := by
  induction xs generalizing d with
  | nil => exact hd
  | cons x rest ih =>
    rw [addUntil]
    cases hx : add d x with
    | ok d' => exact ih (hadd hx hd)
    | error e => exact hd

/-- Nodes with new ids are added up to the first one of an unknown type. -/
lemma addUntil_addNode (d : Diagram) (ns : List Node) (hnodup : (ns.map (·.id)).Nodup)
    (hfresh : ∀ n ∈ ns, n.id ∉ d.ids) :
    (d.addUntil addNode ns).1 = d.extend (ns.takeWhile (isNodeType ·.type)) [] ∧
      ((d.addUntil addNode ns).2 = none ↔ ∀ n ∈ ns, isNodeType n.type = true) := by
  induction ns generalizing d with
  | nil => simp [addUntil]
  | cons n rest ih =>
    have hn : n.id ∉ d.ids := hfresh n (by simp)
    rw [List.map_cons, List.nodup_cons] at hnodup
    by_cases htype : isNodeType n.type = true
    · have hok : d.addNode n = .ok (d.extend [n] []) :=
        addNode_eq_ok_iff.mpr ⟨htype, hn, by simp [extend]⟩
      have hrest : ∀ m ∈ rest, m.id ∉ (d.extend [n] []).ids := by
        intro m hm hmem
        rw [ids_extend] at hmem
        have hne : m.id ≠ n.id := fun heq => hnodup.1 (heq ▸ List.mem_map_of_mem hm)
        exact hfresh m (by simp [hm]) (by simpa [hne] using hmem)
      obtain ⟨hdiagram, hnone⟩ := ih (d.extend [n] []) hnodup.2 hrest
      simp only [addUntil, hok]
      refine ⟨?_, ?_⟩
      · rw [hdiagram]
        simp [extend, htype]
      · rw [hnone]
        simp [htype]
    · have herr : d.addNode n = .error (.unknownType n.type n.id) := by
        simp [addNode, htype]
      simp [addUntil, herr, htype]

/-- Whether a group is refused: its parent is not there, or its id is taken. -/
def refusesGroup (d : Diagram) (g : Group) : Bool :=
  g.parent.any (fun p => (d.group? p).isNone) || d.contains g.id

lemma refusesGroup_eq_false_iff {d : Diagram} {g : Group} :
    d.refusesGroup g = false ↔ ∃ d', d.addGroup g = .ok d' := by
  have hparent : (g.parent.any fun p => (d.group? p).isNone) = false ↔
      ∀ p, g.parent = some p → p ∈ d.groupIds := by
    cases g.parent with
    | none => simp
    | some p => simp [← isSome_group?_iff, Option.isSome_iff_ne_none]
  simp only [refusesGroup, Bool.or_eq_false_iff, hparent, contains_eq_false_iff,
    addGroup_eq_ok_iff]
  exact ⟨fun ⟨hp, hid⟩ => ⟨_, hp, hid, rfl⟩, fun ⟨_, hp, hid, _⟩ => ⟨hp, hid⟩⟩

/-- Groups are added up to the first one that is refused. -/
lemma addUntil_addGroup (d : Diagram) (gs : List Group) :
    ∃ done rest, gs = done ++ rest ∧ (d.addUntil addGroup gs).1 = d.extend [] done ∧
      ((d.addUntil addGroup gs).2 = none ↔ rest = []) ∧
      (done = [] ↔ ∀ g ∈ gs.head?, d.refusesGroup g = true) := by
  induction gs generalizing d with
  | nil => exact ⟨[], [], by simp [addUntil]⟩
  | cons g rest ih =>
    cases hadd : d.addGroup g with
    | error e =>
      have hrefused : d.refusesGroup g = true := by
        rw [← Bool.not_eq_false, refusesGroup_eq_false_iff]
        simp [hadd]
      exact ⟨[], g :: rest, by simp [addUntil, hadd, hrefused]⟩
    | ok d' =>
      have hadded : d.refusesGroup g = false := refusesGroup_eq_false_iff.mpr ⟨d', hadd⟩
      obtain ⟨-, -, hd'⟩ := addGroup_eq_ok_iff.mp hadd
      obtain ⟨done, left, rfl, hdiagram, hnone, -⟩ := ih d'
      refine ⟨g :: done, left, rfl, ?_, ?_, by simp [hadded]⟩
      · simp only [addUntil, hadd, hdiagram]
        simp [extend, hd']
      · simpa only [addUntil, hadd] using hnone

/-- Edges between nodes that are there are never refused. -/
lemma addUntil_addEdge (d : Diagram) (es : List Edge)
    (hends : ∀ e ∈ es, e.source ∈ d.ids ∧ e.target ∈ d.ids) :
    d.addUntil addEdge es = ({ d with edges := d.edges ++ es }, none) := by
  induction es generalizing d with
  | nil => simp [addUntil]
  | cons e rest ih =>
    obtain ⟨hsource, htarget⟩ := hends e (by simp)
    have hok : d.addEdge e = .ok { d with edges := d.edges ++ [e] } :=
      addEdge_eq_ok_iff.mpr ⟨hsource, htarget, rfl⟩
    have hrest := ih { d with edges := d.edges ++ [e] } fun e' he' => hends e' (by simp [he'])
    simp only [addUntil, hok, hrest]
    simp

end Diagram

namespace Session

/-! ## What the checks ensure -/

lemma knows_iff {s : Session} {c : Contribution} {id : String} :
    s.knows c id = true ↔ id ∈ s.diagram.ids ∨ id ∈ c.nodes.map (·.id) := by
  simp [knows, Diagram.contains_iff]

lemma duplicate?_eq_none_iff {s : Session} {seen : List String} {ns : List Node} :
    s.duplicate? seen ns = none ↔
      (ns.map (·.id)).Nodup ∧ ∀ n ∈ ns, n.id ∉ s.diagram.ids ∧ n.id ∉ seen := by
  induction ns generalizing seen with
  | nil => simp [duplicate?]
  | cons n rest ih =>
    rw [duplicate?]
    by_cases htaken : n.id ∈ s.diagram.ids ∨ n.id ∈ seen
    · have hcond : (s.diagram.contains n.id || seen.contains n.id) = true := by
        simpa [Diagram.contains_iff] using htaken
      simp only [hcond, if_true, reduceCtorEq, false_iff]
      rintro ⟨-, hall⟩
      obtain ⟨hdiagram, hseen⟩ := hall n (by simp)
      exact htaken.elim hdiagram hseen
    · have hcond : (s.diagram.contains n.id || seen.contains n.id) = false := by
        rw [Bool.eq_false_iff]
        simpa [Diagram.contains_iff] using htaken
      simp only [hcond, Bool.false_eq_true, if_false]
      rw [ih, List.map_cons, List.nodup_cons]
      constructor
      · rintro ⟨hnodup, hall⟩
        refine ⟨⟨?_, hnodup⟩, ?_⟩
        · intro hmem
          obtain ⟨m, hm, heq⟩ := List.mem_map.mp hmem
          exact (hall m hm).2 (by simp [heq])
        · intro m hm
          obtain rfl | hm := List.mem_cons.mp hm
          · exact not_or.mp htaken
          · exact ⟨(hall m hm).1, fun h => (hall m hm).2 (by simp [h])⟩
      · rintro ⟨⟨hnot, hnodup⟩, hall⟩
        refine ⟨hnodup, fun m hm => ?_⟩
        obtain ⟨hdiagram, hseen⟩ := hall m (by simp [hm])
        refine ⟨hdiagram, fun hmem => ?_⟩
        obtain heq | hmem := List.mem_cons.mp hmem
        · exact hnot (heq ▸ List.mem_map_of_mem hm)
        · exact hseen hmem

/-- What a contribution that passes the checks is like. -/
structure Checked (s : Session) (c : Contribution) : Prop where
  nodup : (c.nodes.map (·.id)).Nodup
  fresh : ∀ n ∈ c.nodes, n.id ∉ s.diagram.ids
  ends : ∀ e ∈ c.edges, s.knows c e.source = true ∧ s.knows c e.target = true
  resources : ∀ r ∈ c.resources, s.knows c r.2 = true
  updates : ∀ u ∈ c.updates, u.1 ∈ s.diagram.ids

lemma check_eq_none_iff {s : Session} {c : Contribution} :
    s.check c = none ↔ s.Checked c := by
  constructor
  · intro h
    unfold check at h
    split at h
    · cases h
    rename_i hdup
    split at h
    · cases h
    rename_i hedges
    split at h
    · cases h
    rename_i hresources
    split at h
    · cases h
    rename_i hupdates
    obtain ⟨hnodup, hfresh⟩ := duplicate?_eq_none_iff.mp hdup
    refine ⟨hnodup, fun n hn => (hfresh n hn).1, ?_, ?_, ?_⟩
    · simpa using hedges
    · intro r hr
      simpa using List.find?_eq_none.mp hresources r hr
    · intro u hu
      exact Diagram.contains_iff.mp (by simpa using List.find?_eq_none.mp hupdates u hu)
  · intro h
    have hdup : s.duplicate? [] c.nodes = none :=
      duplicate?_eq_none_iff.mpr ⟨h.nodup, fun n hn => ⟨h.fresh n hn, by simp⟩⟩
    have hedges : (c.edges.find? fun e => !(s.knows c e.source && s.knows c e.target)) = none := by
      simpa using h.ends
    have hresources : (c.resources.find? fun r => !s.knows c r.2) = none :=
      List.find?_eq_none.mpr fun r hr => by simp [h.resources r hr]
    have hupdates : (c.updates.find? fun u => !s.diagram.contains u.1) = none :=
      List.find?_eq_none.mpr fun u hu => by simp [Diagram.contains_iff.mpr (h.updates u hu)]
    simp only [check, hdup, hedges, hresources, hupdates]

/-- The ends of its edges are there once its nodes are. -/
lemma Checked.ends_extend {s : Session} {c : Contribution} (h : s.Checked c)
    (groups : List Group) : ∀ e ∈ c.edges, e.source ∈ (s.diagram.extend c.nodes groups).ids ∧
      e.target ∈ (s.diagram.extend c.nodes groups).ids := by
  intro e he
  obtain ⟨hsource, htarget⟩ := h.ends e he
  rw [Diagram.ids_extend]
  exact ⟨List.mem_append_left _ (List.mem_append.mpr (knows_iff.mp hsource)),
    List.mem_append_left _ (List.mem_append.mpr (knows_iff.mp htarget))⟩

/-! ## What a commit leaves -/

/-- Whether the diagram refuses what a contribution adds first: a node of an unknown type or, if the
contribution has no nodes, a group that cannot be added. -/
def refusesFirst (s : Session) (c : Contribution) : Bool :=
  match c.nodes with
  | n :: _ => !isNodeType n.type
  | [] => c.groups.head?.any s.diagram.refusesGroup

/-- The session after a contribution is applied as a whole. -/
def applied (s : Session) (c : Contribution) : Session :=
  { s with
    diagram := c.updates.foldl applyUpdate
      { s.diagram.extend c.nodes c.groups with edges := s.diagram.edges ++ c.edges }
    resources := Assoc.insertAll s.resources c.resources }

/-- Updates change records only. -/
lemma updates_kept (d : Diagram) (updates : List (String × Metadata)) :
    (updates.foldl applyUpdate d).ids = d.ids ∧ (updates.foldl applyUpdate d).edges = d.edges ∧
      (updates.foldl applyUpdate d).groups = d.groups := by
  refine List.foldlRecOn updates applyUpdate (motive := fun d' : Diagram => d'.ids = d.ids ∧
    d'.edges = d.edges ∧ d'.groups = d.groups) ⟨rfl, rfl, rfl⟩ ?_
  rintro d' ⟨hids, hedges, hgroups⟩ u -
  refine ⟨?_, hedges, hgroups⟩
  rw [applyUpdate, Diagram.ids_modifyNode fun n => (n.patch_id_type u.2).1, hids]

lemma ids_applied (s : Session) (c : Contribution) :
    (s.applied c).diagram.ids = s.diagram.ids ++ c.nodes.map (·.id) ++ c.groups.map (·.id) :=
  (updates_kept _ c.updates).1.trans (Diagram.ids_extend s.diagram c.nodes c.groups)

lemma edges_applied (s : Session) (c : Contribution) :
    (s.applied c).diagram.edges = s.diagram.edges ++ c.edges :=
  (updates_kept _ c.updates).2.1

lemma groups_applied (s : Session) (c : Contribution) :
    (s.applied c).diagram.groups = s.diagram.groups ++ c.groups :=
  (updates_kept _ c.updates).2.2

lemma takeWhile_types {ns : List Node} (h : ∀ n ∈ ns, isNodeType n.type = true) :
    ns.takeWhile (isNodeType ·.type) = ns := by
  rw [← List.append_nil ns, List.takeWhile_append_of_pos h]
  simp

/-- A contribution that passes the checks is applied as a whole, or some of its first nodes and
groups are. -/
lemma apply_cases {s : Session} {c : Contribution} (h : s.Checked c) :
    (s.apply c = (s.applied c, none) ∧ ∀ n ∈ c.nodes, isNodeType n.type = true) ∨
      ∃ nodes groups e, nodes <+: c.nodes ∧ groups <+: c.groups ∧
        s.apply c = ({ s with diagram := s.diagram.extend nodes groups }, some e) ∧
        (nodes = [] ∧ groups = [] ↔ s.refusesFirst c = true) := by
  obtain ⟨hnodes, hknown⟩ := s.diagram.addUntil_addNode c.nodes h.nodup h.fresh
  cases hrefusal : (s.diagram.addUntil Diagram.addNode c.nodes).2 with
  | some e =>
    -- a node of an unknown type stands behind the ones that stay
    have hphase : s.diagram.addUntil Diagram.addNode c.nodes =
        (s.diagram.extend (c.nodes.takeWhile (isNodeType ·.type)) [], some e) :=
      Prod.ext hnodes hrefusal
    refine .inr ⟨c.nodes.takeWhile (isNodeType ·.type), [], e, List.takeWhile_prefix _,
      List.nil_prefix, by simp only [apply, hphase], ?_⟩
    cases hc : c.nodes with
    | nil => simp [hc, Diagram.addUntil] at hrefusal
    | cons n rest => by_cases htype : isNodeType n.type <;> simp [refusesFirst, hc, htype]
  | none =>
    have hall := hknown.mp hrefusal
    have hphase : s.diagram.addUntil Diagram.addNode c.nodes =
        (s.diagram.extend c.nodes [], none) :=
      Prod.ext (by rw [hnodes, takeWhile_types hall]) hrefusal
    obtain ⟨done, rest, hgroups, hdiagram, hnone, hfirst⟩ :=
      (s.diagram.extend c.nodes []).addUntil_addGroup c.groups
    have hextend : (s.diagram.extend c.nodes []).extend [] done =
        s.diagram.extend c.nodes done := by
      simp [Diagram.extend]
    rw [hextend] at hdiagram
    cases hrefusal' : ((s.diagram.extend c.nodes []).addUntil Diagram.addGroup c.groups).2 with
    | some e =>
      have hphase' : (s.diagram.extend c.nodes []).addUntil Diagram.addGroup c.groups =
          (s.diagram.extend c.nodes done, some e) :=
        Prod.ext hdiagram hrefusal'
      refine .inr ⟨c.nodes, done, e, List.prefix_rfl, ⟨rest, hgroups.symm⟩,
        by simp only [apply, hphase, hphase'], ?_⟩
      cases hc : c.nodes with
      | nil =>
        cases hg : c.groups with
        | nil => simp [hg, Diagram.addUntil] at hrefusal'
        | cons g gs => simpa [hc, hg, refusesFirst] using hfirst
      | cons n ns => simp [refusesFirst, hc, hall n (by simp [hc])]
    | none =>
      obtain rfl := hnone.mp hrefusal'
      rw [List.append_nil] at hgroups
      subst hgroups
      have hphase' : (s.diagram.extend c.nodes []).addUntil Diagram.addGroup c.groups =
          (s.diagram.extend c.nodes c.groups, none) :=
        Prod.ext hdiagram hrefusal'
      refine .inl ⟨?_, hall⟩
      simp only [apply, hphase, hphase', Diagram.addUntil_addEdge _ _ (h.ends_extend c.groups)]
      rfl

/-- A contribution without groups is applied as a whole if the types of its nodes are known. -/
lemma apply_eq_applied {s : Session} {c : Contribution} (h : s.Checked c)
    (htypes : ∀ n ∈ c.nodes, isNodeType n.type = true) (hgroups : c.groups = []) :
    s.apply c = (s.applied c, none) := by
  obtain ⟨hnodes, hknown⟩ := s.diagram.addUntil_addNode c.nodes h.nodup h.fresh
  have hphase : s.diagram.addUntil Diagram.addNode c.nodes = (s.diagram.extend c.nodes [], none) :=
    Prod.ext (by rw [hnodes, takeWhile_types htypes]) (hknown.mpr htypes)
  simp only [apply, hphase, hgroups, Diagram.addUntil,
    Diagram.addUntil_addEdge _ _ (h.ends_extend [])]
  rw [applied, hgroups]
  rfl

/-- A contribution fails the checks, or is applied as a whole, or is refused half-way. -/
lemma commit_cases (s : Session) (c : Contribution) :
    (∃ e, s.check c = some e ∧ s.commit c = (s, some e)) ∨
      (s.Checked c ∧ s.commit c = (s.applied c, none)) ∨
      (s.check c = none ∧ ∃ nodes groups e, nodes <+: c.nodes ∧ groups <+: c.groups ∧
        s.commit c = ({ s with diagram := s.diagram.extend nodes groups }, some e) ∧
        (nodes = [] ∧ groups = [] ↔ s.refusesFirst c = true)) := by
  cases hcheck : s.check c with
  | some e => exact .inl ⟨e, rfl, by simp only [commit, hcheck]⟩
  | none =>
    have hchecked := check_eq_none_iff.mp hcheck
    obtain ⟨happly, -⟩ | ⟨nodes, groups, e, hnodes, hgroups, happly, hfirst⟩ :=
      apply_cases hchecked
    · exact .inr (.inl ⟨hchecked, by simp only [commit, hcheck, happly, Option.map_none]⟩)
    · exact .inr (.inr ⟨rfl, nodes, groups, .refused e, hnodes, hgroups,
        by simp only [commit, hcheck, happly, Option.map_some], hfirst⟩)

/-- **Failed commits.** A commit that fails leaves the diagram and the resources as they were
exactly if the checks find the fault, or if the very first node or group is the one that is refused.
In any other case some of the first nodes and groups of the contribution stay in the diagram, and
nothing else changes. -/
theorem commit_unchanged_iff (s : Session) (c : Contribution) (e : CommitError)
    (h : (s.commit c).2 = some e) :
    ((s.commit c).1.diagram = s.diagram ∧ (s.commit c).1.resources = s.resources ↔
      (s.check c).isSome = true ∨ s.refusesFirst c = true) ∧
    ∃ nodes groups, nodes <+: c.nodes ∧ groups <+: c.groups ∧
      (s.commit c).1 = { s with diagram := s.diagram.extend nodes groups } := by
  obtain ⟨e', hcheck, hcommit⟩ | ⟨-, hcommit⟩ |
    ⟨hcheck, nodes, groups, e', hnodes, hgroups, hcommit, hfirst⟩ := s.commit_cases c
  · rw [hcommit]
    refine ⟨by simp [hcheck], [], [], List.nil_prefix, List.nil_prefix, ?_⟩
    rw [Diagram.extend_nil]
  · rw [hcommit] at h
    cases h
  · rw [hcommit]
    refine ⟨?_, nodes, groups, hnodes, hgroups, rfl⟩
    rw [← hfirst, ← Diagram.extend_eq_self_iff (d := s.diagram), hcheck]
    simp

/-- A contribution whose second node is of a type that is not known. -/
def halfKnown : Contribution :=
  { nodes := [{ id := "a", label := "a", type := NodeType.store.name },
              { id := "b", label := "b", type := "bogus" }] }

/-- The node before the refused one stays. -/
theorem commit_halfKnown :
    ((start { name := "S" } []).commit halfKnown).2 =
        some (.refused (.unknownType "bogus" "b")) ∧
      ((start { name := "S" } []).commit halfKnown).1.diagram.ids = ["a"] ∧
      ¬ (((start { name := "S" } []).commit halfKnown).1.diagram =
            (start { name := "S" } []).diagram ∧
          ((start { name := "S" } []).commit halfKnown).1.resources =
            (start { name := "S" } []).resources) := by
  have h : ((start { name := "S" } []).commit halfKnown).2 =
      some (.refused (.unknownType "bogus" "b")) := by decide
  refine ⟨h, by decide, fun hsame => ?_⟩
  have hearly := (commit_unchanged_iff _ _ _ h).1.mp hsame
  exact absurd hearly (by decide)

/-! ## Coherence under commits -/

/-- What every step of a commit preserves, a commit preserves, even if it is refused half-way. -/
lemma commit_preserve {P : Diagram → Prop}
    (node : ∀ {d d' n}, d.addNode n = .ok d' → P d → P d')
    (group : ∀ {d d' g}, d.addGroup g = .ok d' → P d → P d')
    (edge : ∀ {d d' e}, d.addEdge e = .ok d' → P d → P d')
    (update : ∀ {d u}, P d → P (applyUpdate d u))
    {s : Session} (c : Contribution) (hs : P s.diagram) : P (s.commit c).1.diagram := by
  have hnodes : P (s.diagram.addUntil Diagram.addNode c.nodes).1 :=
    Diagram.addUntil_preserve node c.nodes hs
  have happly : P (s.apply c).1.diagram → P (s.commit c).1.diagram := by
    intro h
    unfold commit
    split
    · exact hs
    · exact h
  refine happly ?_
  unfold apply
  split
  · rename_i hphase
    simpa [hphase] using hnodes
  rename_i d hphase
  rw [hphase] at hnodes
  have hgroups : P (d.addUntil Diagram.addGroup c.groups).1 :=
    Diagram.addUntil_preserve group c.groups hnodes
  split
  · rename_i hphase'
    simpa [hphase'] using hgroups
  rename_i d' hphase'
  rw [hphase'] at hgroups
  have hedges : P (d'.addUntil Diagram.addEdge c.edges).1 :=
    Diagram.addUntil_preserve edge c.edges hgroups
  split
  · rename_i hphase''
    simpa [hphase''] using hedges
  rename_i hphase''
  rw [hphase''] at hedges
  exact List.foldlRecOn c.updates applyUpdate hedges fun d hd u _ => update hd

lemma commit_coherent {s : Session} (c : Contribution) (hs : s.diagram.Coherent) :
    (s.commit c).1.diagram.Coherent :=
  commit_preserve (fun hok hd => hd.addNode hok) (fun hok hd => hd.addGroup hok)
    (fun hok hd => hd.addEdge hok) (fun hd => hd.modifyNode fun n => (n.patch_id_type _).1) c hs

lemma commit_nested {s : Session} (c : Contribution) (hs : Diagram.Nested s.diagram.groups) :
    Diagram.Nested (s.commit c).1.diagram.groups := by
  refine commit_preserve (P := fun d => Diagram.Nested d.groups) ?_ ?_ ?_ (fun hd => hd) c hs
  · intro d d' n hok hd
    obtain ⟨-, -, rfl⟩ := Diagram.addNode_eq_ok_iff.mp hok
    exact hd
  · intro d d' g hok hd
    exact hd.addGroup hok
  · intro d d' e hok hd
    obtain ⟨-, -, rfl⟩ := Diagram.addEdge_eq_ok_iff.mp hok
    exact hd

end Session

end ComponentFlow
