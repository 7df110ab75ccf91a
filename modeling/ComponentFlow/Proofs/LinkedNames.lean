import ComponentFlow.Proofs.Diagrams
import ComponentFlow.Proofs.MergedValues
import Mathlib.Tactic.Tauto

/-!
# Names that share a list

In the records of a node, two names may stand for one list: the dispatchers of a reducer are its
writers. What the list gains under one of its names it gains under all of them. `LinksLists` says
that the links of a node lead between names of one list, and that none of them is missing.

A record is merged entry by entry. An entry either adds to a list under all names of it, or sets one
name, which stands for itself from then on (`patchEntry_cases`). Either way the links that are left
lead between names of one list (`LinksLists.patch`).
-/

namespace ComponentFlow

/-- A list under a name is what is seen there. -/
lemma Metadata.get_eq_list_iff {m : Metadata} {key : String} {items : List Value} :
    m.get key = .list items ↔ m.lookup key = some (.list items) := by
  rw [Metadata.get]
  cases m.lookup key <;> simp

lemma Metadata.lookup_setAll (m : Metadata) (keys : List String) (v : Value) (k : String) :
    (keys.foldl (fun m k => m.set k v) m).lookup k = if k ∈ keys then some v else m.lookup k := by
  induction keys generalizing m with
  | nil => simp
  | cons key rest ih =>
    rw [List.foldl_cons, ih, Metadata.lookup_set]
    by_cases hrest : k ∈ rest
    · simp [hrest]
    · by_cases hkey : k = key
      · simp [hkey]
      · simp [hrest, hkey]

/-! ## Names that share a list -/

namespace Node

open Metadata (get_eq_list_iff)

/-- Whether two names of a node stand for one list. -/
def Shares (n : Node) (a b : String) : Prop :=
  a = b ∨ (a, b) ∈ n.linked ∨ (b, a) ∈ n.linked

instance (n : Node) (a b : String) : Decidable (n.Shares a b) :=
  inferInstanceAs (Decidable (_ ∨ _))

/-- A node whose links lead between names of one list, and which has all of them. -/
structure LinksLists (n : Node) : Prop where
  lists : ∀ l ∈ n.linked, ∃ items,
    n.metadata.lookup l.1 = some (.list items) ∧ n.metadata.lookup l.2 = some (.list items)
  trans : ∀ {a b c}, n.Shares a b → n.Shares b c → n.Shares a c

lemma Shares.symm {n : Node} {a b : String} (h : n.Shares a b) : n.Shares b a :=
  h.imp Eq.symm Or.symm

lemma linksLists_of_unlinked {n : Node} (h : n.linked = []) : n.LinksLists where
  lists := by simp [h]
  trans := by
    intro a b c hab hbc
    simp only [Shares, h, List.not_mem_nil, or_false] at hab hbc ⊢
    exact hab.trans hbc

lemma linksLists_of_pair {n : Node} {a b : String} {items : List Value}
    (hlinked : n.linked = [(a, b)]) (ha : n.metadata.get a = .list items)
    (hb : n.metadata.get b = .list items) : n.LinksLists where
  lists := by
    intro l hl
    rw [hlinked, List.mem_singleton] at hl
    exact ⟨items, hl ▸ get_eq_list_iff.mp ha, hl ▸ get_eq_list_iff.mp hb⟩
  trans := by
    intro x y z hxy hyz
    simp only [Shares, hlinked, List.mem_singleton, Prod.mk.injEq] at hxy hyz ⊢
    grind

/-- A name that shares a list with another one has the same list. -/
lemma LinksLists.lookup_eq {n : Node} (h : n.LinksLists) {a b : String} {items : List Value}
    (hshares : n.Shares a b) (ha : n.metadata.lookup a = some (.list items)) :
    n.metadata.lookup b = some (.list items) := by
  obtain rfl | hl | hl := hshares
  · exact ha
  · obtain ⟨items', ha', hb'⟩ := h.lists _ hl
    rw [← ha, ha', hb']
  · obtain ⟨items', hb', ha'⟩ := h.lists _ hl
    rw [← ha, ha', hb']

lemma mem_synonyms {n : Node} {key x : String} : x ∈ n.synonyms key ↔ n.Shares key x := by
  rw [synonyms, List.mem_cons, List.mem_filterMap, Shares, eq_comm]
  refine or_congr_right' fun hne => ?_
  constructor
  · rintro ⟨l, hl, hx⟩
    split at hx
    · rename_i hkey
      rw [← Option.some.inj hx, ← eq_of_beq hkey]
      exact .inl hl
    split at hx
    · rename_i hkey
      rw [← Option.some.inj hx, ← eq_of_beq hkey]
      exact .inr hl
    · cases hx
  · rintro (hl | hl)
    · exact ⟨_, hl, by simp⟩
    · exact ⟨_, hl, by simp [Ne.symm hne]⟩

/-- A list with a list or a tuple: it gains items under all of its names. -/
lemma patchEntry_of_list {n : Node} {key : String} {value : Value} {items news : List Value}
    (hitems : n.metadata.get key = .list items) (hnews : value.sequence? = some news) :
    n.patchEntry key value = { n with
      metadata := (n.synonyms key).foldl
        (fun m k => m.set k (.list (Value.gain items news))) n.metadata } := by
  rw [← Value.merge_list hnews, ← hitems]
  cases value with
  | list _ => simp only [patchEntry, hitems, if_true]
  | tuple _ => simp only [patchEntry, hitems, if_true]
  | _ => cases hnews

/-- Anything else: the value under the name changes, and the name stands for itself. -/
lemma patchEntry_of_other {n : Node} {key : String} {value : Value}
    (h : ∀ items news, n.metadata.get key = .list items → value.sequence? ≠ some news) :
    n.patchEntry key value = { n with
      metadata := n.metadata.set key ((n.metadata.get key).merge value)
      linked := n.linked.filter fun l => l.1 != key && l.2 != key } := by
  cases hget : n.metadata.get key with
  | list items =>
    cases value with
    | list news => exact absurd rfl (h items news hget)
    | tuple news => exact absurd rfl (h items news hget)
    | _ => simp only [patchEntry, hget, Bool.false_eq_true, if_false]
  | _ => simp only [patchEntry, hget, Bool.false_eq_true, if_false]

/-! ## Merging one entry -/

/-- What merging one entry does: a list gains items under all of its names, or one name takes a
value and stands for itself from then on. -/
lemma patchEntry_cases (n : Node) (key : String) (value : Value) :
    (∃ items news, n.metadata.lookup key = some (.list items) ∧ value.sequence? = some news ∧
        (n.patchEntry key value).linked = n.linked ∧
        ∀ x, (n.patchEntry key value).metadata.lookup x =
          if n.Shares key x then some (.list (Value.gain items news)) else n.metadata.lookup x) ∨
      ((∀ items news, n.metadata.get key = .list items → value.sequence? ≠ some news) ∧
        (n.patchEntry key value).linked = n.linked.filter (fun l => l.1 != key && l.2 != key) ∧
        ∀ x, (n.patchEntry key value).metadata.lookup x =
          if x = key then some ((n.metadata.get key).merge value) else n.metadata.lookup x) := by
  by_cases h : ∃ items news, n.metadata.get key = .list items ∧ value.sequence? = some news
  · obtain ⟨items, news, hitems, hnews⟩ := h
    refine .inl ⟨items, news, get_eq_list_iff.mp hitems, hnews, ?_, fun x => ?_⟩
    · rw [patchEntry_of_list hitems hnews]
    · rw [patchEntry_of_list hitems hnews]
      simp only [Metadata.lookup_setAll, mem_synonyms]
  · have hother : ∀ items news, n.metadata.get key = .list items → value.sequence? ≠ some news :=
      fun items news hitems hnews => h ⟨items, news, hitems, hnews⟩
    refine .inr ⟨hother, ?_, fun x => ?_⟩
    · rw [patchEntry_of_other hother]
    · rw [patchEntry_of_other hother]
      simp only [Metadata.lookup_set, beq_iff_eq]

/-- Names that are linked without a name that stands for itself. -/
lemma shares_filter_iff {n n' : Node} {key : String}
    (h : n'.linked = n.linked.filter fun l => l.1 != key && l.2 != key) {a b : String} :
    n'.Shares a b ↔ a = b ∨ n.Shares a b ∧ a ≠ key ∧ b ≠ key := by
  simp only [Shares, h, List.mem_filter, Bool.and_eq_true, bne_iff_ne]
  tauto

lemma shares_congr {n n' : Node} (h : n'.linked = n.linked) {a b : String} :
    n'.Shares a b ↔ n.Shares a b := by
  rw [Shares, Shares, h]

/-- No new links come up. -/
lemma shares_of_patchEntry {n : Node} {key : String} {value : Value} {a b : String}
    (h : (n.patchEntry key value).Shares a b) : n.Shares a b := by
  obtain ⟨items, news, -, -, hlinked, -⟩ | ⟨-, hlinked, -⟩ := n.patchEntry_cases key value
  · exact (shares_congr hlinked).mp h
  · exact ((shares_filter_iff hlinked).mp h).elim .inl And.left

lemma lookup_patchEntry_of_not_shares {n : Node} {key : String} {x : String}
    (h : ¬ n.Shares key x) (value : Value) :
    (n.patchEntry key value).metadata.lookup x = n.metadata.lookup x := by
  obtain ⟨items, news, -, -, -, hlookup⟩ | ⟨-, -, hlookup⟩ := n.patchEntry_cases key value
  · rw [hlookup, if_neg h]
  · rw [hlookup, if_neg fun heq => h (.inl heq.symm)]

lemma LinksLists.patchEntry {n : Node} (h : n.LinksLists) (key : String) (value : Value) :
    (n.patchEntry key value).LinksLists := by
  obtain ⟨items, news, -, -, hlinked, hlookup⟩ | ⟨-, hlinked, hlookup⟩ :=
    n.patchEntry_cases key value
  · refine ⟨fun l hl => ?_, fun hab hbc => ?_⟩
    · rw [hlinked] at hl
      rw [hlookup, hlookup]
      have hlink : n.Shares l.1 l.2 := .inr (.inl hl)
      -- both ends of a link gain the items, or neither does
      by_cases hshares : n.Shares key l.1
      · rw [if_pos hshares, if_pos (h.trans hshares hlink)]
        exact ⟨_, rfl, rfl⟩
      · rw [if_neg hshares, if_neg fun hother => hshares (h.trans hother hlink.symm)]
        exact h.lists l hl
    · rw [shares_congr hlinked] at hab hbc ⊢
      exact h.trans hab hbc
  · refine ⟨fun l hl => ?_, fun hab hbc => ?_⟩
    · rw [hlinked, List.mem_filter, Bool.and_eq_true, bne_iff_ne, bne_iff_ne] at hl
      rw [hlookup, hlookup, if_neg hl.2.1, if_neg hl.2.2]
      exact h.lists l hl.1
    · rw [shares_filter_iff hlinked] at hab hbc ⊢
      obtain rfl | ⟨hab, ha, hb⟩ := hab
      · exact hbc
      obtain rfl | ⟨hbc, -, hc⟩ := hbc
      · exact .inr ⟨hab, ha, hb⟩
      · exact .inr ⟨h.trans hab hbc, ha, hc⟩

lemma LinksLists.patch {n : Node} (h : n.LinksLists) (entries : Metadata) :
    (n.patch entries).LinksLists :=
  List.foldlRecOn entries _ h fun _ h e _ => h.patchEntry e.1 e.2

/-- A name that shares no list may take any value. -/
lemma LinksLists.set {n : Node} (h : n.LinksLists) {key : String}
    (hkey : ∀ l ∈ n.linked, l.1 ≠ key ∧ l.2 ≠ key) (value : Value) :
    LinksLists { n with metadata := n.metadata.set key value } where
  lists := by
    intro l hl
    obtain ⟨hfirst, hsecond⟩ := hkey l hl
    rw [Metadata.lookup_set, Metadata.lookup_set, beq_false_of_ne hfirst, beq_false_of_ne hsecond]
    exact h.lists l hl
  trans := h.trans

end Node

end ComponentFlow
