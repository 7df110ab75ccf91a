import ComponentFlow.Proofs.Runs

/-!
# Records that are merged

A list that stands under several names of a node gains items under all of them, so a record that is
merged into a node can change what stands under a name that it does not have. What the whole record
comes to follows for each name from what one entry does (`lookup_patch_list`, `lookup_patch_other`),
and with it the main result (`patched_patch`): merging a record a second time changes nothing, and a
name that is not in the record keeps its value exactly if no list is reached that it shares.

The links of the node have to lead between names of one list. With built-in processors they always
do (`linksLists_dispatchAll`).
-/

namespace ComponentFlow

/-! ## Records -/

namespace Metadata

/-- A record in which no name comes twice, and neither does a key of one of its mappings. -/
structure Proper (m : Metadata) : Prop where
  names : (m.map Prod.fst).Nodup
  keys : ∀ key entries, (key, .map entries) ∈ m → Value.DistinctKeys entries

lemma set_eq_self {m : Metadata} {key : String} {value : Value} (h : m.lookup key = some value) :
    m.set key value = m := by
  induction m with
  | nil => cases h
  | cons e rest ih =>
    rw [List.lookup_cons] at h
    rw [set, Assoc.insert]
    by_cases hkey : e.1 = key
    · rw [hkey, beq_self_eq_true] at h
      rw [if_pos (beq_iff_eq.mpr hkey), ← Option.some.inj h]
    · rw [beq_false_of_ne (Ne.symm hkey)] at h
      rw [if_neg (by simpa using hkey), ← set, ih h]

end Metadata

/-! ## Merging a record -/

namespace Node

open Metadata (get_eq_list_iff)

/-- An entry that has been taken over already changes nothing. -/
lemma patchEntry_eq_self {n : Node} (h : n.LinksLists) {key : String} {value current : Value}
    (hcurrent : n.metadata.lookup key = some current) (hmerged : current.merge value = current)
    (hlist : ∀ items, current = .list items → ∃ news, value.sequence? = some news) :
    n.patchEntry key value = n := by
  have hget : n.metadata.get key = current := by rw [Metadata.get, hcurrent, Option.getD_some]
  by_cases hcase : ∃ items, current = .list items
  · obtain ⟨items, rfl⟩ := hcase
    obtain ⟨news, hnews⟩ := hlist items rfl
    rw [patchEntry_of_list hget hnews, ← Value.merge_list hnews, hmerged]
    have hkept : (n.synonyms key).foldl (fun m k => m.set k (.list items)) n.metadata =
        n.metadata := by
      refine List.foldlRecOn _ _ (motive := fun m => m = n.metadata) rfl fun m hm k hk => ?_
      rw [hm]
      exact Metadata.set_eq_self (h.lookup_eq (mem_synonyms.mp hk) hcurrent)
    rw [hkept]
  · have hother : ∀ items news, n.metadata.get key = .list items → value.sequence? ≠ some news :=
      fun items _ hitems => absurd ⟨items, hget.symm.trans hitems⟩ hcase
    have hunlinked : n.linked.filter (fun l => l.1 != key && l.2 != key) = n.linked := by
      refine List.filter_eq_self.mpr fun l hl => ?_
      obtain ⟨items, hfirst, hsecond⟩ := h.lists l hl
      rw [Bool.and_eq_true, bne_iff_ne, bne_iff_ne]
      refine ⟨fun heq => hcase ⟨items, ?_⟩, fun heq => hcase ⟨items, ?_⟩⟩
      · rw [heq, hcurrent] at hfirst
        exact Option.some.inj hfirst
      · rw [heq, hcurrent] at hsecond
        exact Option.some.inj hsecond
    rw [patchEntry_of_other hother, hunlinked, hget, hmerged, Metadata.set_eq_self hcurrent]

variable {n : Node} {entries : Metadata}

lemma patch_cons (n : Node) (e : String × Value) (rest : Metadata) :
    n.patch (e :: rest) = (n.patchEntry e.1 e.2).patch rest :=
  rfl

lemma patch_append (n : Node) (before after : Metadata) :
    n.patch (before ++ after) = (n.patch before).patch after :=
  List.foldl_append

/-- Names that share nothing with those of the record keep their values. -/
lemma lookup_patch_of_not_shares {x : String} (h : ∀ e ∈ entries, ¬ n.Shares e.1 x) :
    (n.patch entries).metadata.lookup x = n.metadata.lookup x := by
  induction entries generalizing n with
  | nil => rfl
  | cons e rest ih =>
    obtain ⟨hfirst, hrest⟩ := List.forall_mem_cons.mp h
    rw [patch_cons, ih fun g hg hshares => hrest g hg (shares_of_patchEntry hshares),
      lookup_patchEntry_of_not_shares hfirst]

/-- The items that a record has for a list, under whichever of its names. -/
def offered (n : Node) (entries : Metadata) (key : String) : List Value :=
  entries.flatMap fun e => if n.Shares e.1 key then e.2.sequence?.getD [] else []

lemma offered_cons (n : Node) (e : String × Value) (rest : Metadata) (key : String) :
    n.offered (e :: rest) key =
      (if n.Shares e.1 key then e.2.sequence?.getD [] else []) ++ n.offered rest key :=
  List.flatMap_cons

lemma offered_congr {n n' : Node} {key : String}
    (h : ∀ e ∈ entries, n'.Shares e.1 key ↔ n.Shares e.1 key) :
    n'.offered entries key = n.offered entries key := by
  refine List.flatMap_congr fun e he => ?_
  simp only [h e he]

/-- A list gains all items that the record has for it, in order, unless the record replaces it. -/
lemma lookup_patch_list (hn : n.LinksLists) (hnames : (entries.map Prod.fst).Nodup) {key : String}
    {items : List Value} (hitems : n.metadata.lookup key = some (.list items))
    (hkey : ∀ value, (key, value) ∈ entries → ∃ news, value.sequence? = some news) :
    (n.patch entries).metadata.lookup key =
      some (.list (Value.gain items (n.offered entries key))) := by
  induction entries generalizing n items with
  | nil => exact hitems
  | cons e rest ih =>
    obtain ⟨hfirst, hrest⟩ := List.nodup_cons.mp hnames
    have hlater : ∀ items', (n.patchEntry e.1 e.2).metadata.lookup key = some (.list items') →
        ((n.patchEntry e.1 e.2).patch rest).metadata.lookup key =
          some (.list (Value.gain items' ((n.patchEntry e.1 e.2).offered rest key))) :=
      fun items' hitems' => ih (hn.patchEntry e.1 e.2) hrest hitems' fun value hvalue =>
        hkey value (List.mem_cons_of_mem e hvalue)
    rw [patch_cons, offered_cons]
    obtain ⟨current, news, hcurrent, hnews, hlinked, hlookup⟩ | ⟨hother, hlinked, hlookup⟩ :=
      n.patchEntry_cases e.1 e.2
    · have hoffered : (n.patchEntry e.1 e.2).offered rest key = n.offered rest key :=
        offered_congr fun g _ => shares_congr hlinked
      by_cases hshares : n.Shares e.1 key
      · -- the list is the one that the entry is for
        obtain rfl : current = items := by
          have hsame := hn.lookup_eq hshares hcurrent
          rw [hitems] at hsame
          exact (Value.list.inj (Option.some.inj hsame)).symm
        rw [hlater (Value.gain current news) (by rw [hlookup, if_pos hshares]), hoffered,
          if_pos hshares, hnews, Option.getD_some, Value.gain_append]
      · rw [hlater items (by rw [hlookup, if_neg hshares, hitems]), hoffered, if_neg hshares,
          List.nil_append]
    · have hne : key ≠ e.1 := by
        rintro rfl
        obtain ⟨news, hnews⟩ := hkey e.2 List.mem_cons_self
        exact hother items news (get_eq_list_iff.mpr hitems) hnews
      have hoffered : (n.patchEntry e.1 e.2).offered rest key = n.offered rest key := by
        refine offered_congr fun g hg => (shares_filter_iff hlinked).trans ⟨?_, fun h => ?_⟩
        · exact fun h => h.elim .inl And.left
        · exact .inr ⟨h, fun heq => hfirst (heq ▸ List.mem_map_of_mem hg), hne⟩
      have hnone : (if n.Shares e.1 key then e.2.sequence?.getD [] else []) = [] := by
        split
        · rename_i hshares
          have hlist := get_eq_list_iff.mpr (hn.lookup_eq hshares.symm hitems)
          rw [Option.eq_none_iff_forall_ne_some.mpr fun news => hother items news hlist]
          rfl
        · rfl
      rw [hlater items (by rw [hlookup, if_neg hne, hitems]), hoffered, hnone, List.nil_append]

/-- A name that stands for something else than a list shares nothing. -/
lemma LinksLists.not_shares (hn : n.LinksLists) {key x : String} (hne : x ≠ key)
    (hkey : ∀ items, n.metadata.lookup key ≠ some (.list items)) : ¬ n.Shares x key := by
  rintro (heq | hl | hl)
  · exact hne heq
  · obtain ⟨items, -, hlist⟩ := hn.lists _ hl
    exact hkey items hlist
  · obtain ⟨items, hlist, -⟩ := hn.lists _ hl
    exact hkey items hlist

/-- A name of the record takes the merged value, unless it stands for a list that gains items. -/
lemma lookup_patch_other (hn : n.LinksLists) (hnames : (entries.map Prod.fst).Nodup) {key : String}
    {value : Value} (hmem : (key, value) ∈ entries)
    (hother : ∀ items news, n.metadata.get key = .list items → value.sequence? ≠ some news) :
    (n.patch entries).metadata.lookup key = some ((n.metadata.get key).merge value) := by
  obtain ⟨before, after, rfl⟩ := List.append_of_mem hmem
  rw [List.map_append, List.map_cons] at hnames
  obtain ⟨hbefore, hrest, hapart⟩ := List.nodup_append.mp hnames
  have hfresh : ∀ e ∈ before, e.1 ≠ key := fun e he =>
    hapart e.1 (List.mem_map_of_mem he) key List.mem_cons_self
  have hlater : ∀ e ∈ after, e.1 ≠ key := fun e he heq =>
    (List.nodup_cons.mp hrest).1 (List.mem_map.mpr ⟨e, he, heq⟩)
  -- what comes before leaves a list, or else the very value
  obtain ⟨hmerged, hreplaces⟩ : ((n.patch before).metadata.get key).merge value =
      (n.metadata.get key).merge value ∧
      ∀ items news, (n.patch before).metadata.get key = .list items →
        value.sequence? ≠ some news := by
    by_cases hlist : ∃ items, n.metadata.lookup key = some (.list items)
    · obtain ⟨items, hitems⟩ := hlist
      have hget := get_eq_list_iff.mpr hitems
      have hnone : ∀ news, value.sequence? ≠ some news := fun news => hother items news hget
      have hlists := lookup_patch_list hn hbefore hitems fun value hvalue =>
        absurd rfl (hfresh _ hvalue)
      rw [get_eq_list_iff.mpr hlists, hget]
      refine ⟨?_, fun _ news _ => hnone news⟩
      rw [Value.merge_replaced (fun _ news _ => hnone news) (by simp),
        Value.merge_replaced (fun _ news _ => hnone news) (by simp)]
    · have hkept : (n.patch before).metadata.lookup key = n.metadata.lookup key :=
        lookup_patch_of_not_shares fun e he =>
          hn.not_shares (hfresh e he) fun items hitems => hlist ⟨items, hitems⟩
      have hget : (n.patch before).metadata.get key = n.metadata.get key := by
        rw [Metadata.get, hkept, Metadata.get]
      rw [hget]
      exact ⟨rfl, hother⟩
  rw [patch_append, patch_cons]
  obtain ⟨items, news, hitems, hnews, -⟩ | ⟨-, hlinked, hlookup⟩ :=
    (n.patch before).patchEntry_cases key value
  · exact absurd hnews (hreplaces items news (get_eq_list_iff.mpr hitems))
  · have hapart : ∀ e ∈ after, ¬ ((n.patch before).patchEntry key value).Shares e.1 key := by
      intro e he hshares
      obtain heq | ⟨-, -, hkey⟩ := (shares_filter_iff hlinked).mp hshares
      · exact hlater e he heq
      · exact hkey rfl
    rw [lookup_patch_of_not_shares hapart, hlookup, if_pos rfl, hmerged]

/-- Without shared lists, merging into a node is merging into its record. -/
lemma metadata_patch_of_unlinked (h : n.linked = []) (entries : Metadata) :
    (n.patch entries).metadata = n.metadata.merge entries := by
  induction entries generalizing n with
  | nil => rfl
  | cons e rest ih =>
    have hstep : n.patchEntry e.1 e.2 =
        { n with metadata := n.metadata.mergeEntry e.1 e.2 } := by
      by_cases hlist : ∃ items news, n.metadata.get e.1 = .list items ∧ e.2.sequence? = some news
      · obtain ⟨items, news, hitems, hnews⟩ := hlist
        rw [patchEntry_of_list hitems hnews, Metadata.mergeEntry, hitems, Value.merge_list hnews,
          synonyms, h]
        rfl
      · have hother : ∀ items news, n.metadata.get e.1 = .list items →
            e.2.sequence? ≠ some news := fun items news hitems hnews =>
          hlist ⟨items, news, hitems, hnews⟩
        rw [patchEntry_of_other hother, h, Metadata.mergeEntry, List.filter_nil, ← h]
    rw [patch_cons, hstep, Metadata.merge, List.foldl_cons]
    exact ih (n := { n with metadata := n.metadata.mergeEntry e.1 e.2 }) h

lemma mem_offered {key : String} {v : Value} :
    v ∈ n.offered entries key ↔ ∃ e ∈ entries, n.Shares e.1 key ∧
      ∃ news, e.2.sequence? = some news ∧ v ∈ news := by
  rw [offered, List.mem_flatMap]
  refine exists_congr fun e => and_congr_right fun _ => ?_
  split
  · rename_i hshares
    cases e.2.sequence? <;> simp [hshares]
  · rename_i hshares
    simp [hshares]

/-- Whether a record reaches a name: for the list that the name stands for it has an item that is
not there yet, under this name or another one. -/
def Reaches (n : Node) (entries : Metadata) (key : String) : Prop :=
  ∃ e ∈ entries, n.Shares e.1 key ∧ ∃ items news, n.metadata.lookup key = some (.list items) ∧
    e.2.sequence? = some news ∧ ∃ v ∈ news, Value.isAmong items v = false

lemma reaches_iff {key : String} {items : List Value}
    (hitems : n.metadata.lookup key = some (.list items)) :
    n.Reaches entries key ↔ ∃ v ∈ n.offered entries key, Value.isAmong items v = false := by
  constructor
  · rintro ⟨e, he, hshares, items', news, hitems', hnews, v, hv, hnew⟩
    obtain rfl : items = items' := Value.list.inj (Option.some.inj (hitems.symm.trans hitems'))
    exact ⟨v, mem_offered.mpr ⟨e, he, hshares, news, hnews, hv⟩, hnew⟩
  · rintro ⟨v, hv, hnew⟩
    obtain ⟨e, he, hshares, news, hnews, hv⟩ := mem_offered.mp hv
    exact ⟨e, he, hshares, items, news, hitems, hnews, v, hv, hnew⟩

/-- A name that is not in the record keeps its value unless the record reaches it. -/
lemma lookup_patch_eq_iff (hn : n.LinksLists) (hnames : (entries.map Prod.fst).Nodup) {key : String}
    (hkey : key ∉ entries.map Prod.fst) :
    (n.patch entries).metadata.lookup key = n.metadata.lookup key ↔ ¬ n.Reaches entries key := by
  by_cases hlist : ∃ items, n.metadata.lookup key = some (.list items)
  · obtain ⟨items, hitems⟩ := hlist
    have hgained := lookup_patch_list hn hnames hitems fun value hvalue =>
      absurd (List.mem_map_of_mem hvalue) hkey
    rw [hgained, hitems, Option.some.injEq, Value.list.injEq, Value.gain_eq_self_iff,
      reaches_iff hitems]
    simp
  · have hkept : (n.patch entries).metadata.lookup key = n.metadata.lookup key := by
      refine lookup_patch_of_not_shares fun e he => hn.not_shares ?_ fun items hitems =>
        hlist ⟨items, hitems⟩
      exact fun heq => hkey (List.mem_map.mpr ⟨e, he, heq⟩)
    refine iff_of_true hkept ?_
    rintro ⟨-, -, -, items, -, hitems, -⟩
    exact hlist ⟨items, hitems⟩

/-- A list keeps its items in front and has all those that the record has for it. -/
lemma exists_lookup_patch_list (hn : n.LinksLists) (hnames : (entries.map Prod.fst).Nodup)
    {key : String} {value : Value} {items news : List Value}
    (hitems : n.metadata.get key = .list items) (he : (key, value) ∈ entries)
    (hnews : value.sequence? = some news) :
    ∃ items', (n.patch entries).metadata.lookup key = some (.list items') ∧ items <+: items' ∧
      ∀ v ∈ news, Value.isAmong items' v = true := by
  have honly : ∀ value', (key, value') ∈ entries → ∃ news, value'.sequence? = some news := by
    intro value' he'
    obtain ⟨-, rfl⟩ := Prod.mk.inj (List.inj_on_of_nodup_map hnames he he' rfl)
    exact ⟨news, hnews⟩
  refine ⟨_, lookup_patch_list hn hnames (get_eq_list_iff.mp hitems) honly,
    Value.prefix_gain items _, fun v hv => ?_⟩
  exact Value.isAmong_gain items (mem_offered.mpr ⟨_, he, .inl rfl, news, hnews, hv⟩)

/-- A record that has been merged has nothing left to change. -/
lemma patch_patch (hn : n.LinksLists) (hentries : entries.Proper) :
    (n.patch entries).patch entries = n.patch entries := by
  refine List.foldlRecOn entries _ (motive := fun m => m = n.patch entries) rfl ?_
  rintro m rfl ⟨key, value⟩ he
  by_cases hlist : ∃ items news, n.metadata.get key = .list items ∧ value.sequence? = some news
  · obtain ⟨items, news, hitems, hnews⟩ := hlist
    obtain ⟨items', hlookup, -, hall⟩ :=
      exists_lookup_patch_list hn hentries.names hitems he hnews
    refine patchEntry_eq_self (hn.patch entries) hlookup ?_ fun _ _ => ⟨news, hnews⟩
    rw [Value.merge_list hnews, Value.gain_eq_self_iff.mpr hall]
  · have hother : ∀ items news, n.metadata.get key = .list items → value.sequence? ≠ some news :=
      fun items news hitems hnews => hlist ⟨items, news, hitems, hnews⟩
    refine patchEntry_eq_self (hn.patch entries)
      (lookup_patch_other hn hentries.names he hother) ?_ ?_
    · exact Value.merge_merge _ fun olds hmap => hentries.keys key olds (hmap ▸ he)
    · exact fun items hitems => Value.sequence?_of_merge_eq_list hitems

/-- What comes of a node into which a record is merged. -/
structure Patched (n : Node) (entries : Metadata) (n' : Node) : Prop where
  /-- Merging the record again changes nothing. -/
  again : n'.patch entries = n'
  /-- Names that are not in the record keep their values unless the record reaches them. -/
  kept : ∀ key, key ∉ entries.map Prod.fst →
    (n'.metadata.lookup key = n.metadata.lookup key ↔ ¬ n.Reaches entries key)
  /-- A list keeps its items in front and then has all those of a list or a tuple. -/
  lists : ∀ key items value news, n.metadata.get key = .list items → (key, value) ∈ entries →
    value.sequence? = some news →
      ∃ items', n'.metadata.lookup key = some (.list items') ∧ items <+: items' ∧
        ∀ v ∈ news, Value.isAmong items' v = true
  /-- A mapping keeps the entries that another one does not name, and has all those that it names,
  with its values. -/
  maps : ∀ key olds news, n.metadata.get key = .map olds → (key, .map news) ∈ entries →
    ∃ merged, n'.metadata.lookup key = some (.map merged) ∧
      (∀ e ∈ olds, (∀ g ∈ news, e.1.same g.1 = false) → e ∈ merged) ∧
      ∀ g ∈ news, ∃ e ∈ merged, e.1.same g.1 = true ∧
        ∃ given ∈ news, e.1.same given.1 = true ∧ e.2 = given.2
  /-- In any other case the value is replaced. -/
  others : ∀ key value, (key, value) ∈ entries →
    (∀ items news, n.metadata.get key = .list items → value.sequence? ≠ some news) →
    (∀ olds news, n.metadata.get key = .map olds → value ≠ .map news) →
      n'.metadata.lookup key = some value

/-- **Merged records.** A record is merged into those of a node once and for all: merging it again
changes nothing. Lists keep their items in front and have all the new ones, mappings keep the
entries that the record does not name, and everything else is replaced. A name that is not in the
record keeps its value, unless it shares a list with a name for which the record has new items: the
list gains them under all of its names. Without shared lists no such name is reached, and the merge
is that of the records alone. -/
theorem patched_patch (n : Node) (entries : Metadata) (hn : n.LinksLists)
    (hentries : entries.Proper) :
    n.Patched entries (n.patch entries) ∧
      (n.linked = [] → (n.patch entries).metadata = n.metadata.merge entries ∧
        ∀ key, key ∉ entries.map Prod.fst → ¬ n.Reaches entries key) := by
  refine ⟨⟨patch_patch hn hentries, ?kept, ?lists, ?maps, ?others⟩, fun hunlinked =>
    ⟨metadata_patch_of_unlinked hunlinked entries, ?unreached⟩⟩
  case kept => exact fun key hkey => lookup_patch_eq_iff hn hentries.names hkey
  case lists =>
    exact fun key items value news hitems he hnews =>
      exists_lookup_patch_list hn hentries.names hitems he hnews
  case maps =>
    intro key olds news hget he
    have hlookup := lookup_patch_other hn hentries.names he (by simp [hget])
    rw [hget] at hlookup
    exact ⟨_, hlookup, fun e hold hnamed => Value.mem_update hold hnamed, fun g hg =>
      Value.exists_mem_update_given olds hg⟩
  case others =>
    intro key value he hlist hmap
    rw [lookup_patch_other hn hentries.names he hlist, Value.merge_replaced hlist hmap]
  case unreached =>
    rintro key hkey ⟨e, he, heq | hl | hl, -⟩
    · exact hkey (List.mem_map.mpr ⟨e, he, heq⟩)
    · rw [hunlinked] at hl
      cases hl
    · rw [hunlinked] at hl
      cases hl

/-- A call of a reducer that binds its state and its dispatcher. -/
def reducerCall : Invocation :=
  { hook := { name := "useReducer", bound := ["count", "dispatch"], binding := .array }
    classification := some
      { category := "reducer", roles := [("count", .data), ("dispatch", .function)] } }

/-- A new writer of a reducer becomes a dispatcher as well. -/
theorem patched_patch_reducer :
    ∃ n, (React.reducerNode (.start { name := "Counter" } []) reducerCall).1 = some n ∧
      n.LinksLists ∧ Metadata.Proper [("writers", .ofNames ["reset"])] ∧
      n.Patched [("writers", .ofNames ["reset"])] (n.patch [("writers", .ofNames ["reset"])]) ∧
      n.metadata.get "dispatchers" = .ofNames ["dispatch"] ∧
      (n.patch [("writers", .ofNames ["reset"])]).metadata.get "dispatchers" =
        .ofNames ["dispatch", "reset"] := by
  have hproper : Metadata.Proper [("writers", .ofNames ["reset"])] :=
    ⟨by decide, by simp [Value.ofNames]⟩
  have hoffers := React.offers_reducerNode (.start { name := "Counter" } []) reducerCall
  have hlinks := (hoffers.proper _ (List.mem_singleton_self _)).links
  exact ⟨_, rfl, hlinks, hproper, (patched_patch _ _ hlinks hproper).1, rfl, rfl⟩

end Node

/-! ## Runs -/

/-- With built-in processors the links of every node lead between names of one list, whatever calls
a session has seen. -/
lemma Analyzer.linksLists_dispatchAll {r : Registry} {s s' : Session} {is : List Invocation}
    {outcomes : List Outcome} (hr : ∀ p ∈ r.entries, p ∈ builtinProcessors) (hs : s.Sound)
    (h : dispatchAll r s is = (s', .ok outcomes)) : ∀ n ∈ s'.diagram.nodes, n.LinksLists :=
  fun n hn => ((sound_dispatchAll hr hs h).1.recorded n hn).links

end ComponentFlow
