import ComponentFlow.Proofs.Merging
import Mathlib.Data.List.Induction
import Mathlib.Data.List.Nodup

/-!
# Labels of merged edges

Merging edges reads labels, joins what it reads, and writes labels again. What is written reads back
as what it was written from (`Flow.subLabels_toEdge`): a base label has no colon, a sub-label has no
comma and no blanks at its ends, and none is empty. So nothing is lost by merging part of the edges
first.

Gathering flows one edge after the other comes to this (`flows_eq`): there is a flow for each key,
in the order in which the keys turn up, and its sub-labels are those of all edges with the key, in
the order in which they turn up. Both main results are read off this form. Edges may be merged in
parts (`mergeEdges_append`), and merging neither loses nor invents a sub-label
(`mergeEdges_faithful`).
-/

namespace ComponentFlow

/-! ## Cutting and putting together -/

namespace Text

variable {c : Char} {s rest : List Char}

lemma not_mem_of_mem_pieces {piece : List Char} (h : piece ∈ pieces c s) : c ∉ piece := by
  induction s generalizing piece with
  | nil =>
    rw [List.mem_singleton.mp h]
    exact List.not_mem_nil
  | cons d s ih =>
    rw [pieces] at h
    split at h
    · obtain rfl | h := List.mem_cons.mp h
      · exact List.not_mem_nil
      · exact ih h
    · rename_i hne
      have hd : c ≠ d := fun heq => hne (beq_iff_eq.mpr heq.symm)
      split at h
      · rw [List.mem_singleton.mp h]
        simpa using hd
      · rename_i first more hpieces
        obtain rfl | h := List.mem_cons.mp h
        · rw [List.mem_cons, not_or]
          exact ⟨hd, ih (hpieces ▸ List.mem_cons_self)⟩
        · exact ih (hpieces ▸ List.mem_cons_of_mem _ h)

/-- A list of texts without commas can be read off when it is written with commas. -/
lemma map_trim_pieces_intercalate {parts : List (List Char)} (hne : parts ≠ [])
    (hparts : ∀ part ∈ parts, ',' ∉ part ∧ trim part = part) :
    (pieces ',' (' ' :: [',', ' '].intercalate parts)).map trim = parts := by
  induction parts with
  | nil => exact absurd rfl hne
  | cons part more ih =>
    obtain ⟨hcomma, htrim⟩ := hparts part List.mem_cons_self
    have hcomma' : ',' ∉ ' ' :: part := by simpa using hcomma
    have htrim' : trim (' ' :: part) = part := (trim_cons_of_isBlank (by decide) part).trans htrim
    cases more with
    | nil => simp [List.intercalate, pieces_eq_single hcomma', htrim']
    | cons next more =>
      have hrest := ih (by simp) fun p hp => hparts p (List.mem_cons_of_mem _ hp)
      have hsplit : ' ' :: [',', ' '].intercalate (part :: next :: more) =
          (' ' :: part) ++ ',' :: ' ' :: [',', ' '].intercalate (next :: more) := by
        simp [List.intercalate_cons_cons]
      rw [hsplit, pieces_append_cons, pieces_eq_single hcomma', List.singleton_append,
        List.map_cons,
        hrest, htrim']

end Text

/-! ## Sub-labels -/

/-- A text that can be a sub-label: no comma, no blanks at its ends, and not empty. -/
def IsSubLabel (sub : String) : Prop :=
  ',' ∉ sub.toList ∧ Text.trim sub.toList = sub.toList ∧ sub ≠ ""

lemma Edge.isSubLabel_of_mem {e : Edge} {sub : String} (h : sub ∈ e.subLabels) :
    IsSubLabel sub := by
  unfold subLabels at h
  split at h
  · cases h
  · obtain ⟨part, hpart, rfl⟩ := List.mem_map.mp h
    obtain ⟨hpart, hne⟩ := List.mem_filter.mp hpart
    obtain ⟨piece, hpiece, rfl⟩ := List.mem_map.mp hpart
    rw [IsSubLabel, String.toList_ofList]
    refine ⟨fun hcomma => ?_, Text.trim_trim piece, fun hempty => ?_⟩
    · exact Text.not_mem_of_mem_pieces hpiece ((Text.trim_sublist piece).subset hcomma)
    · have hnil : Text.trim piece = [] := by simpa using congrArg String.toList hempty
      simp [hnil] at hne

namespace Flow

/-- What a flow is written as reads back as its sub-labels. -/
lemma subLabels_toEdge {f : Flow} (hbase : IsBase f.base) (hsubs : ∀ sub ∈ f.subs, IsSubLabel sub) :
    f.toEdge.subLabels = f.subs := by
  rw [toEdge, label]
  split
  · rename_i hempty
    rw [Edge.subLabels, Text.after?_eq_none hbase.1, List.isEmpty_iff.mp hempty]
  · rename_i hsome
    have hne : f.subs.map String.toList ≠ [] := by simpa using hsome
    have hafter : Text.after? ':' (f.base ++ ": " ++ ", ".intercalate f.subs).toList =
        some (' ' :: [',', ' '].intercalate (f.subs.map String.toList)) := by
      rw [String.toList_append, String.toList_append, String.toList_intercalate, List.append_assoc]
      exact Text.after?_append hbase.1
    have hread := Text.map_trim_pieces_intercalate hne fun part hpart => by
      obtain ⟨sub, hsub, rfl⟩ := List.mem_map.mp hpart
      exact ⟨(hsubs sub hsub).1, (hsubs sub hsub).2.1⟩
    -- no sub-label is empty, so none is dropped
    have hkept : (f.subs.map String.toList).filter (!·.isEmpty) = f.subs.map String.toList := by
      refine List.filter_eq_self.mpr fun part hpart => ?_
      obtain ⟨sub, hsub, rfl⟩ := List.mem_map.mp hpart
      simpa using (hsubs sub hsub).2.2
    simp only [Edge.subLabels, hafter, hread, hkept, List.map_map]
    exact (List.map_congr_left fun sub _ => String.ofList_toList).trans (List.map_id _)

end Flow

/-! ## First occurrences -/

section FirstOccurrences

variable {α : Type} [BEq α] [LawfulBEq α]

/-- Whether something stays does not depend on where it turned up first. -/
lemma filter_eraseDups (p : α → Bool) (as : List α) :
    as.eraseDups.filter p = (as.filter p).eraseDups := by
  match as with
  | [] => rfl
  | a :: as =>
    rw [List.eraseDups_cons, List.filter_cons, filter_eraseDups p (as.filter _), List.filter_cons]
    cases hp : p a with
    | true =>
      simp only [if_true, List.eraseDups_cons, List.filter_filter, Bool.and_comm]
    | false =>
      -- what is dropped for being equal to the first is dropped anyway
      have hsame : (as.filter fun b => !b == a).filter p = as.filter p := by
        rw [List.filter_filter]
        refine List.filter_congr fun b _ => ?_
        cases hb : b == a with
        | true => rw [beq_iff_eq.mp hb, hp, Bool.false_and]
        | false => simp
      simp [hsame]
termination_by as.length
decreasing_by exact Nat.lt_succ_of_le (List.length_filter_le _ as)

lemma eraseDups_concat (as : List α) (a : α) :
    (as ++ [a]).eraseDups = as.eraseDups ++ (if as.contains a then [] else [a]) := by
  rw [List.eraseDups_append, List.removeAll, List.filter_cons]
  by_cases h : a ∈ as
  · simp [h]
  · simp [h, List.eraseDups_cons]

lemma nodup_eraseDups (as : List α) : as.eraseDups.Nodup := by
  induction as using List.reverseRecOn with
  | nil => exact List.nodup_nil
  | append_singleton as a ih =>
    rw [eraseDups_concat]
    split
    · simpa using ih
    · rename_i hno
      refine List.nodup_append.mpr ⟨ih, by simp, fun b hb c hc heq => hno ?_⟩
      rw [List.mem_singleton.mp hc] at heq
      simpa using List.mem_eraseDups.mp (heq ▸ hb)

lemma eraseDups_eq_self {as : List α} (h : as.Nodup) : as.eraseDups = as := by
  induction as with
  | nil => rfl
  | cons a as ih =>
    obtain ⟨hno, h⟩ := List.nodup_cons.mp h
    have hsame : (as.filter fun b => !b == a) = as :=
      List.filter_eq_self.mpr fun b hb => by simpa using ne_of_mem_of_not_mem hb hno
    rw [List.eraseDups_cons, hsame, ih h]

lemma eraseDups_append_eraseDups (as bs : List α) :
    (as.eraseDups ++ bs.eraseDups).eraseDups = (as ++ bs).eraseDups := by
  have hrest : bs.eraseDups.removeAll as.eraseDups = (bs.removeAll as).eraseDups := by
    rw [List.removeAll, filter_eraseDups, List.removeAll]
    congr 2
    funext b
    simp [List.mem_eraseDups]
  rw [List.eraseDups_append, List.eraseDups_append, hrest, eraseDups_eq_self (nodup_eraseDups as),
    eraseDups_eq_self (nodup_eraseDups (bs.removeAll as))]

lemma eraseDups_append_of_subset {as bs : List α} (h : bs ⊆ as) :
    (as ++ bs).eraseDups = as.eraseDups := by
  have hnone : bs.removeAll as = [] :=
    List.filter_eq_nil_iff.mpr fun b hb => by simpa using h hb
  rw [List.eraseDups_append, hnone]
  exact List.append_nil _

end FirstOccurrences

/-! ## Flows by their keys -/

/-- The key of the flow that an edge belongs to. -/
def Edge.key (e : Edge) : Flow.Key := (e.source, e.target, e.base)

lemma Flow.key_toEdge {f : Flow} (h : IsBase f.base) : f.toEdge.key = f.key := by
  rw [Edge.key, Flow.base_toEdge h]
  rfl

/-- The sub-labels of all edges with a key. -/
def subLabelsAt (edges : List Edge) (k : Flow.Key) : List String :=
  (edges.filter (·.key == k)).flatMap Edge.subLabels

lemma subLabelsAt_append (a b : List Edge) (k : Flow.Key) :
    subLabelsAt (a ++ b) k = subLabelsAt a k ++ subLabelsAt b k := by
  rw [subLabelsAt, List.filter_append, List.flatMap_append, ← subLabelsAt, ← subLabelsAt]

lemma mem_subLabelsAt {edges : List Edge} {k : Flow.Key} {sub : String} :
    sub ∈ subLabelsAt edges k ↔ ∃ e ∈ edges, e.key = k ∧ sub ∈ e.subLabels := by
  simp [subLabelsAt, and_assoc]

lemma subLabelsAt_eq_nil {edges : List Edge} {k : Flow.Key} (h : k ∉ edges.map Edge.key) :
    subLabelsAt edges k = [] := by
  refine List.eq_nil_iff_forall_not_mem.mpr fun sub hsub => ?_
  obtain ⟨e, he, rfl, -⟩ := mem_subLabelsAt.mp hsub
  exact h (List.mem_map_of_mem he)

namespace Flow

/-- The flow with a key: its sub-labels are those of all edges with the key. -/
def among (edges : List Edge) (k : Key) : Flow :=
  ⟨k.1, k.2.1, k.2.2, (subLabelsAt edges k).eraseDups⟩

@[simp] lemma key_among (edges : List Edge) (k : Key) : (among edges k).key = k := rfl

/-- Adding a sub-label notes it where it turns up first. -/
lemma subs_addSub {f : Flow} {seen : List String} (h : f.subs = seen.eraseDups) (sub : String) :
    (f.addSub sub).subs = (seen ++ [sub]).eraseDups := by
  rw [addSub, eraseDups_concat, h]
  by_cases hsub : sub ∈ seen
  · simp [hsub, h]
  · simp [hsub]

lemma addSubs_eq {f : Flow} (seen : List String) (h : f.subs = seen.eraseDups)
    (subs : List String) : f.addSubs subs = { f with subs := (seen ++ subs).eraseDups } := by
  induction subs generalizing f seen with
  | nil =>
    rw [List.append_nil, ← h]
    rfl
  | cons sub rest ih =>
    have hends : (f.addSub sub).source = f.source ∧ (f.addSub sub).target = f.target ∧
        (f.addSub sub).base = f.base := by
      rw [addSub]
      split <;> exact ⟨rfl, rfl, rfl⟩
    have hrest := ih (seen ++ [sub]) (subs_addSub h sub)
    rw [List.append_assoc, List.singleton_append] at hrest
    exact hrest.trans (by rw [hends.1, hends.2.1, hends.2.2])

lemma ofEdge_eq (e : Edge) :
    ofEdge e = ⟨e.source, e.target, e.base, e.subLabels.eraseDups⟩ :=
  addSubs_eq [] rfl e.subLabels

/-- An edge adds its sub-labels to its flow. -/
lemma addSubs_among (edges : List Edge) (e : Edge) :
    (among edges e.key).addSubs (ofEdge e).subs = among (edges ++ [e]) e.key := by
  have hsubs : subLabelsAt [e] e.key = e.subLabels := by simp [subLabelsAt]
  have hjoined := eraseDups_append_eraseDups (subLabelsAt edges e.key) e.subLabels
  rw [addSubs_eq _ (eraseDups_eq_self (nodup_eraseDups _)).symm, ofEdge_eq, hjoined, among, among,
    subLabelsAt_append, hsubs]

/-- An edge leaves the other flows as they are. -/
lemma among_concat {edges : List Edge} {e : Edge} {k : Key} (h : e.key ≠ k) :
    among (edges ++ [e]) k = among edges k := by
  have hnone : subLabelsAt [e] k = [] := subLabelsAt_eq_nil (by simpa using h.symm)
  rw [among, subLabelsAt_append, hnone, List.append_nil, among]

/-- The step from the flows of some edges to those of one edge more. -/
lemma gather_among {edges : List Edge} {e : Edge} {keys : List Key} (hnodup : keys.Nodup)
    (hnew : e.key ∉ keys → e.key ∉ edges.map Edge.key) :
    gather (ofEdge e) (keys.map (among edges)) =
      (keys ++ if keys.contains e.key then [] else [e.key]).map (among (edges ++ [e])) := by
  induction keys with
  | nil =>
    have hnone : subLabelsAt edges e.key = [] := subLabelsAt_eq_nil (hnew List.not_mem_nil)
    have hfirst : among (edges ++ [e]) e.key = ofEdge e := by
      rw [← addSubs_among, addSubs_eq [] (by rw [among, hnone]), ofEdge_eq,
        List.nil_append, eraseDups_eq_self (nodup_eraseDups _)]
      rfl
    simp [gather, hfirst]
  | cons k rest ih =>
    obtain ⟨hk, hnodup⟩ := List.nodup_cons.mp hnodup
    rw [List.map_cons, gather, key_among, show (ofEdge e).key = e.key from ofEdge_key e]
    by_cases hkey : k = e.key
    · subst hkey
      have hrest : rest.map (among edges) = rest.map (among (edges ++ [e])) :=
        List.map_congr_left fun k hmem => (among_concat (ne_of_mem_of_not_mem hmem hk).symm).symm
      simp [hrest, addSubs_among]
    · have hother : e.key ≠ k := fun heq => hkey heq.symm
      have hrest := ih hnodup fun hno => hnew (by simpa [hother] using hno)
      simp [hkey, hrest, among_concat hother, hother]

end Flow

/-- **Flows by their keys.** There is one for each key, in the order in which the keys turn up, with
the sub-labels of all edges with the key. -/
lemma flows_eq (edges : List Edge) :
    flows edges = (edges.map Edge.key).eraseDups.map (Flow.among edges) := by
  induction edges using List.reverseRecOn with
  | nil => rfl
  | append_singleton edges e ih =>
    have hstep : flows (edges ++ [e]) = Flow.gather (Flow.ofEdge e) (flows edges) := by
      rw [flows, List.foldl_append]
      rfl
    have hkeys : (edges ++ [e]).map Edge.key = edges.map Edge.key ++ [e.key] := by simp
    rw [hstep, ih, Flow.gather_among (nodup_eraseDups _) fun hno => by
      rwa [List.mem_eraseDups] at hno, hkeys, eraseDups_concat]
    simp [List.mem_eraseDups]

/-! ## Merged edges read back -/

lemma mergeEdges_eq (edges : List Edge) :
    mergeEdges edges = (edges.map Edge.key).eraseDups.map fun k => (Flow.among edges k).toEdge := by
  rw [mergeEdges, flows_eq, List.map_map]
  rfl

/-- The keys of merged edges are those of the edges, each where it turns up first. -/
lemma keys_mergeEdges (edges : List Edge) :
    (mergeEdges edges).map Edge.key = (edges.map Edge.key).eraseDups := by
  have hkeys : (mergeEdges edges).map Edge.key = (flows edges).map Flow.key :=
    map_key_mergeEdges edges
  rw [hkeys, flows_eq, List.map_map]
  exact List.map_id _

/-- A merged edge carries the sub-labels of its flow. -/
lemma subLabels_of_mem_mergeEdges {edges : List Edge} {m : Edge} (h : m ∈ mergeEdges edges) :
    m.subLabels = (subLabelsAt edges m.key).eraseDups := by
  rw [mergeEdges_eq] at h
  obtain ⟨k, hk, rfl⟩ := List.mem_map.mp h
  obtain ⟨e, -, rfl⟩ := List.mem_map.mp (List.mem_eraseDups.mp hk)
  have hbase : IsBase (Flow.among edges e.key).base := e.isBase_base
  rw [Flow.key_toEdge hbase, Flow.key_among, Flow.subLabels_toEdge hbase fun sub hsub => ?_,
    Flow.among]
  obtain ⟨e', -, -, hsub⟩ := mem_subLabelsAt.mp (List.mem_eraseDups.mp hsub)
  exact e'.isSubLabel_of_mem hsub

/-- Edges that say the same are merged into what one of them says. -/
lemma toEdge_mem_mergeEdges {edges : List Edge} {e : Edge} (he : e ∈ edges)
    (halike : ∀ e' ∈ edges, e'.key = e.key → e'.subLabels = e.subLabels) :
    (Flow.ofEdge e).toEdge ∈ mergeEdges edges := by
  have hsubs : (subLabelsAt edges e.key).eraseDups = e.subLabels.eraseDups := by
    have hfound : e ∈ edges.filter (·.key == e.key) := List.mem_filter.mpr ⟨he, by simp⟩
    have hsame : ∀ e' ∈ edges.filter (·.key == e.key), e'.subLabels = e.subLabels := by
      intro e' he'
      obtain ⟨he', hkey⟩ := List.mem_filter.mp he'
      exact halike e' he' (beq_iff_eq.mp hkey)
    rw [subLabelsAt]
    obtain ⟨first, more, hmore⟩ := List.exists_cons_of_ne_nil (List.ne_nil_of_mem hfound)
    rw [hmore, List.forall_mem_cons] at hsame
    rw [hmore, List.flatMap_cons, hsame.1, eraseDups_append_of_subset]
    intro sub hsub
    obtain ⟨e', he', hsub⟩ := List.mem_flatMap.mp hsub
    exact hsame.2 e' he' ▸ hsub
  rw [mergeEdges_eq]
  refine List.mem_map.mpr ⟨e.key, List.mem_eraseDups.mpr (List.mem_map_of_mem he), ?_⟩
  rw [Flow.among, hsubs, Flow.ofEdge_eq]
  rfl

/-- Of all merged edges, one has the sub-labels of a key. -/
lemma subLabelsAt_mergeEdges (edges : List Edge) (k : Flow.Key) :
    subLabelsAt (mergeEdges edges) k = (subLabelsAt edges k).eraseDups := by
  by_cases hk : k ∈ edges.map Edge.key
  · have hmerged : k ∈ (mergeEdges edges).map Edge.key := by
      rwa [keys_mergeEdges, List.mem_eraseDups]
    obtain ⟨m, hm, rfl⟩ := List.mem_map.mp hmerged
    have hsole : (mergeEdges edges).filter (·.key == m.key) = [m] := by
      have hnodup : ((mergeEdges edges).map Edge.key).Nodup := nodup_mergeEdges edges
      obtain ⟨before, after, heq⟩ := List.append_of_mem hm
      rw [heq] at hnodup ⊢
      simp only [List.map_append, List.map_cons, List.nodup_append, List.nodup_cons] at hnodup
      obtain ⟨-, ⟨hafter, -⟩, hbefore⟩ := hnodup
      have hbefore' : before.filter (·.key == m.key) = [] :=
        List.filter_eq_nil_iff.mpr fun e he heq =>
          hbefore _ (List.mem_map_of_mem he) _ List.mem_cons_self (beq_iff_eq.mp heq)
      have hafter' : after.filter (·.key == m.key) = [] :=
        List.filter_eq_nil_iff.mpr fun e he heq =>
          hafter (beq_iff_eq.mp heq ▸ List.mem_map_of_mem he)
      simp [hbefore', hafter']
    rw [subLabelsAt, hsole, List.flatMap_singleton, subLabels_of_mem_mergeEdges hm]
  · have hmerged : k ∉ (mergeEdges edges).map Edge.key := by
      rwa [keys_mergeEdges, List.mem_eraseDups]
    rw [subLabelsAt_eq_nil hk, subLabelsAt_eq_nil hmerged]
    rfl

/-- Edges with the same keys and sub-labels, in the order in which these turn up, are merged alike.
-/
lemma mergeEdges_congr {a b : List Edge}
    (hkeys : (a.map Edge.key).eraseDups = (b.map Edge.key).eraseDups)
    (hsubs : ∀ k, (subLabelsAt a k).eraseDups = (subLabelsAt b k).eraseDups) :
    mergeEdges a = mergeEdges b := by
  rw [mergeEdges_eq, mergeEdges_eq, hkeys]
  refine List.map_congr_left fun k _ => ?_
  rw [Flow.among, hsubs, Flow.among]

/-- **Merging in parts.** Edges may be merged in two parts and then together. To merge merged edges
changes nothing. -/
theorem mergeEdges_append (a b : List Edge) :
    mergeEdges (mergeEdges a ++ mergeEdges b) = mergeEdges (a ++ b) ∧
      mergeEdges (mergeEdges a) = mergeEdges a := by
  have hparts : ∀ a b, mergeEdges (mergeEdges a ++ mergeEdges b) = mergeEdges (a ++ b) := by
    intro a b
    refine mergeEdges_congr ?_ fun k => ?_
    · rw [List.map_append, keys_mergeEdges, keys_mergeEdges, eraseDups_append_eraseDups,
        List.map_append]
    · rw [subLabelsAt_append, subLabelsAt_mergeEdges, subLabelsAt_mergeEdges,
        eraseDups_append_eraseDups, subLabelsAt_append]
  have hnil : mergeEdges [] = [] := rfl
  exact ⟨hparts a b, by simpa [hnil] using hparts a []⟩

/-- **Nothing lost and nothing invented.** Merged edges have distinct keys, which are the keys of
the edges in the order in which they turn up. For every key, the sub-labels of the merged edge are
those of all edges with the key. -/
theorem mergeEdges_faithful (edges : List Edge) :
    ((mergeEdges edges).map Edge.key).Nodup ∧
      (mergeEdges edges).map Edge.key = (edges.map Edge.key).eraseDups ∧
      ∀ (k : Flow.Key) (sub : String),
        (∃ m ∈ mergeEdges edges, m.key = k ∧ sub ∈ m.subLabels) ↔
          ∃ e ∈ edges, e.key = k ∧ sub ∈ e.subLabels := by
  refine ⟨nodup_mergeEdges edges, keys_mergeEdges edges, fun k sub => ?_⟩
  rw [← mem_subLabelsAt, subLabelsAt_mergeEdges, List.mem_eraseDups, mem_subLabelsAt]

end ComponentFlow
