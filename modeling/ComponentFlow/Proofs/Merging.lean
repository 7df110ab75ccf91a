import ComponentFlow.Diagram.Merge
import ComponentFlow.Proofs.Trimming

/-!
# Merged edges

After edges are merged no two of them share their ends and their base label. That flows have
distinct keys follows from the way they are gathered (`nodup_flows`). But the edge of a flow carries
a label that is put together from the base and the sub-labels, and its base label is read off that
label again. So the point is that nothing is lost on the way: a base label holds no colon and no
blanks at its ends, hence the base of the label that is put together is the base it was made from
(`base_toEdge`).
-/

namespace ComponentFlow

/-! ## Texts before a separator -/

namespace Text

lemma before_eq_self {c : Char} {s : List Char} (h : c ∉ s) : before c s = s := by
  induction s with
  | nil => rfl
  | cons d rest ih =>
    rw [List.mem_cons, not_or] at h
    have hne : (d != c) = true := by simpa using Ne.symm h.1
    rw [before, List.takeWhile_cons, if_pos hne]
    exact congrArg (d :: ·) (ih h.2)

lemma before_append {c : Char} {s rest : List Char} (h : c ∉ s) :
    before c (s ++ c :: rest) = s := by
  induction s with
  | nil => simp [before]
  | cons d s ih =>
    rw [List.mem_cons, not_or] at h
    have hne : (d != c) = true := by simpa using Ne.symm h.1
    rw [before, List.cons_append, List.takeWhile_cons, if_pos hne]
    exact congrArg (d :: ·) (ih h.2)

lemma not_mem_before (c : Char) (s : List Char) : c ∉ before c s := by
  intro h
  have := List.all_takeWhile (p := (· != c)) (l := s)
  rw [List.all_eq_true] at this
  simpa using this c h

end Text

/-! ## Base labels -/

/-- A text that can be the base of a label: no colon, and no blanks at its ends. -/
def IsBase (base : String) : Prop :=
  ':' ∉ base.toList ∧ Text.trim base.toList = base.toList

lemma Edge.isBase_base (e : Edge) : IsBase e.base := by
  refine ⟨?_, ?_⟩
  · intro h
    rw [base, String.toList_ofList] at h
    exact Text.not_mem_before _ _ ((Text.trim_sublist _).subset h)
  · rw [base, String.toList_ofList]
    exact Text.trim_trim _

/-- A label that is a base label is its own. -/
lemma Edge.base_of_isBase {base : String} (h : IsBase base) (source target : String) :
    (Edge.mk source target base).base = base := by
  rw [Edge.base, Text.before_eq_self h.1, h.2, String.ofList_toList]

/-- The base of a label is what it was made from. -/
lemma Edge.base_of_subLabel {base : String} (h : IsBase base) (source target sub : String) :
    (Edge.mk source target (base ++ ": " ++ sub)).base = base := by
  have hbefore : Text.before ':' (base ++ ": " ++ sub).toList = base.toList := by
    rw [String.toList_append, String.toList_append, List.append_assoc]
    exact Text.before_append h.1
  rw [Edge.base, hbefore, h.2, String.ofList_toList]

namespace Flow

lemma addSubs_key (f : Flow) (subs : List String) : (f.addSubs subs).key = f.key := by
  induction subs generalizing f with
  | nil => rfl
  | cons sub rest ih =>
    have hsub : (f.addSub sub).key = f.key := by
      rw [addSub]
      split <;> rfl
    exact (ih _).trans hsub

lemma ofEdge_key (e : Edge) : (ofEdge e).key = (e.source, e.target, e.base) :=
  addSubs_key _ _

/-- The base label of a flow can be read off its edge. -/
lemma base_toEdge {f : Flow} (h : IsBase f.base) : f.toEdge.base = f.base := by
  rw [toEdge, label]
  split
  · exact Edge.base_of_isBase h _ _
  · exact Edge.base_of_subLabel h _ _ _

/-! ## Gathering flows -/

/-- A flow is joined with the one that has its key, or put at the end. -/
lemma map_key_gather (new : Flow) (fs : List Flow) :
    (gather new fs).map key =
      if new.key ∈ fs.map key then fs.map key else fs.map key ++ [new.key] := by
  induction fs with
  | nil => simp [gather]
  | cons f rest ih =>
    rw [gather]
    by_cases hkey : f.key = new.key
    · simp [hkey, addSubs_key]
    · have hbeq : (f.key == new.key) = false := by simpa using hkey
      simp only [hbeq, Bool.false_eq_true, if_false, List.map_cons, ih, List.mem_cons,
        Ne.symm hkey, false_or]
      split <;> simp

lemma nodup_gather {new : Flow} {fs : List Flow} (h : (fs.map key).Nodup) :
    ((gather new fs).map key).Nodup := by
  rw [map_key_gather]
  split
  · exact h
  · rename_i hnew
    refine List.nodup_append.mpr ⟨h, by simp, fun a ha b hb => ?_⟩
    rw [List.mem_singleton.mp hb]
    exact fun heq => hnew (heq ▸ ha)

lemma mem_map_key_gather {new : Flow} {fs : List Flow} {k : Key}
    (h : k ∈ (gather new fs).map key) : k = new.key ∨ k ∈ fs.map key := by
  rw [map_key_gather] at h
  split at h
  · exact .inr h
  · obtain h | h := List.mem_append.mp h
    · exact .inr h
    · exact .inl (List.mem_singleton.mp h)

end Flow

lemma nodup_flows (edges : List Edge) : ((flows edges).map Flow.key).Nodup := by
  refine List.foldlRecOn edges _ (motive := fun fs : List Flow => (fs.map Flow.key).Nodup) ?_ ?_
  · exact List.nodup_nil
  · intro fs hfs e _
    exact Flow.nodup_gather hfs

/-- Every flow comes from an edge. -/
lemma exists_edge_of_mem_flows {edges : List Edge} {f : Flow} (h : f ∈ flows edges) :
    ∃ e ∈ edges, f.key = (e.source, e.target, e.base) := by
  have hkeys : ∀ k ∈ (flows edges).map Flow.key,
      ∃ e ∈ edges, k = (e.source, e.target, e.base) := by
    refine List.foldlRecOn edges _
      (motive := fun fs : List Flow => ∀ k ∈ fs.map Flow.key,
        ∃ e ∈ edges, k = (e.source, e.target, e.base)) (by simp) ?_
    intro fs hfs e he k hk
    obtain rfl | hk := Flow.mem_map_key_gather hk
    · exact ⟨e, he, Flow.ofEdge_key e⟩
    · exact hfs k hk
  exact hkeys _ (List.mem_map_of_mem h)

/-- Every edge is in a flow. -/
lemma mem_map_key_flows {edges : List Edge} {e : Edge} (h : e ∈ edges) :
    (e.source, e.target, e.base) ∈ (flows edges).map Flow.key := by
  -- once the flow of an edge is there, it stays
  have hrun : ∀ (es : List Edge) (fs : List Flow),
      (e ∈ es ∨ (e.source, e.target, e.base) ∈ fs.map Flow.key) →
      (e.source, e.target, e.base) ∈
        (es.foldl (fun done e => Flow.gather (Flow.ofEdge e) done) fs).map Flow.key := by
    intro es
    induction es with
    | nil => exact fun fs hfs => hfs.resolve_left (by simp)
    | cons first rest ih =>
      intro fs hfs
      refine ih _ ?_
      rw [Flow.map_key_gather, Flow.ofEdge_key]
      obtain he | hkey := hfs
      · obtain rfl | he := List.mem_cons.mp he
        · refine .inr ?_
          split
          · assumption
          · simp
        · exact .inl he
      · refine .inr ?_
        split
        · exact hkey
        · exact List.mem_append_left _ hkey
  exact hrun edges [] (.inl h)

/-! ## Merged edges -/

/-- The merged edges are those of the flows, also by their base labels. -/
lemma map_key_mergeEdges (edges : List Edge) :
    ((mergeEdges edges).map fun e => (e.source, e.target, e.base)) =
      (flows edges).map Flow.key := by
  rw [mergeEdges, List.map_map]
  refine List.map_congr_left fun f hf => ?_
  obtain ⟨e, -, hkey⟩ := exists_edge_of_mem_flows hf
  simp only [Flow.key, Prod.mk.injEq] at hkey
  have hbase : f.toEdge.base = f.base := Flow.base_toEdge (hkey.2.2 ▸ e.isBase_base)
  simp only [Function.comp_apply, hbase]
  rfl

/-- Every merged edge comes from an edge with its ends and its base label. -/
lemma exists_of_mem_mergeEdges {edges : List Edge} {e : Edge} (h : e ∈ mergeEdges edges) :
    ∃ e' ∈ edges, e.source = e'.source ∧ e.target = e'.target ∧ e.base = e'.base := by
  have hkey : (e.source, e.target, e.base) ∈ (flows edges).map Flow.key :=
    map_key_mergeEdges edges ▸ List.mem_map_of_mem h
  obtain ⟨f, hf, hf'⟩ := List.mem_map.mp hkey
  obtain ⟨e', he', hkey'⟩ := exists_edge_of_mem_flows hf
  simp only [hf', Prod.mk.injEq] at hkey'
  exact ⟨e', he', hkey'⟩

/-- No edge is lost: there is a merged edge with its ends and its base label. -/
lemma exists_mem_mergeEdges {edges : List Edge} {e : Edge} (h : e ∈ edges) :
    ∃ e' ∈ mergeEdges edges, e'.source = e.source ∧ e'.target = e.target ∧ e'.base = e.base := by
  have hkey : (e.source, e.target, e.base) ∈ (flows edges).map Flow.key := mem_map_key_flows h
  rw [← map_key_mergeEdges] at hkey
  obtain ⟨e', he', heq⟩ := List.mem_map.mp hkey
  simp only [Prod.mk.injEq] at heq
  exact ⟨e', he', heq⟩

/-- No two merged edges share their ends and their base label. -/
lemma nodup_mergeEdges (edges : List Edge) :
    ((mergeEdges edges).map fun e => (e.source, e.target, e.base)).Nodup := by
  rw [map_key_mergeEdges]
  exact nodup_flows edges

end ComponentFlow
