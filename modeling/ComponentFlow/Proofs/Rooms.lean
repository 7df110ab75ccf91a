import ComponentFlow.Proofs.Occupancy
import ComponentFlow.Proofs.Visits

/-!
# Groups by place

All groups of a layout in one formula (`roomsOf`). There is a group for each place that opens one.
Its members are what stands at the places that are in it, in their order, and its notes are those of
its own place and of the loops that have joined it.
-/

namespace ComponentFlow

/-! ## What is put into groups -/

/-- The notes of a group that several loops have joined. -/
def Metadata.joined (m : Metadata) (collections : List String) : Metadata :=
  if collections = [] then m else m ++ [("merged", .list (collections.map .str))]

namespace Site

variable (γ : Option Nat → String) (ε : Nat → String)

/-- The id of what is put into a group at a place, given the ids of groups and elements. -/
def memberId? (s : Site) : Option String :=
  if s.opens then some (γ (some s.number)) else if s.placed then some (ε s.number) else none

lemma memberId?_of_placed {s : Site} (h : s.placed = true) :
    s.memberId? γ ε = some (ε s.number) := by
  obtain ⟨e, he⟩ := exists_element h
  simp [memberId?, opens, he, h]

/-- The collection of a loop that joins the group it is in. -/
def joins? (s : Site) : Option String :=
  match s.content with
  | .loop head => if s.opens then none else some head.collection
  | _ => none

/-- The label of the group of a place. -/
def label (s : Site) : String :=
  match s.content with
  | .branch c negated _ => conditionLabel c.expression negated
  | _ => "\x7bloop\x7d"

/-- The notes of the group of a place. -/
def notes (s : Site) : Metadata :=
  match s.content with
  | .element _ => []
  | .branch c negated _ => [("expression", .str c.expression), ("negated", .bool negated)]
  | .loop head => [("collection", .str head.collection)]

/-- The group of a place, as it is opened. -/
def room (s : Site) : Group :=
  { id := γ (some s.number), label := s.label, parent := some (γ s.home)
    kind := s.content.kind.name, metadata := s.notes }

/-- A group after what stands at a place is put into it. -/
def putInto (s : Site) (g : Group) : Group :=
  { g with
    members := g.members ++ (s.memberId? γ ε).toList
    metadata := (s.joins?).elim g.metadata g.metadata.join }

end Site

/-- The members of the group of a place. -/
def membersAt (γ : Option Nat → String) (ε : Nat → String) (sites : List Site)
    (home : Option Nat) : List String :=
  (sites.filter (·.home = home)).filterMap (Site.memberId? γ ε)

/-- The collections of the loops that have joined the group of a place. -/
def joinedAt (sites : List Site) (home : Option Nat) : List String :=
  (sites.filter (·.home = home)).filterMap Site.joins?

/-- A group with all that is put into it. -/
def furnish (γ : Option Nat → String) (ε : Nat → String) (sites : List Site)
    (room : Option Nat × Group) : Group :=
  { room.2 with
    members := membersAt γ ε sites room.1
    metadata := room.2.metadata.joined (joinedAt sites room.1) }

/-- The outermost group, as it is opened. -/
def outerRoom (γ : Option Nat → String) : Group :=
  { id := γ none, label := "JSX Output", kind := GroupKind.output.name }

/-- The groups of a layout as they are opened, each with the number of its place. -/
def rooms (γ : Option Nat → String) (sites : List Site) : List (Option Nat × Group) :=
  (none, outerRoom γ) :: (sites.filter Site.opens).map fun s => (some s.number, s.room γ)

/-- The groups of a layout. -/
def roomsOf (γ : Option Nat → String) (ε : Nat → String) (sites : List Site) : List Group :=
  (rooms γ sites).map (furnish γ ε sites)

section Concat

variable {γ : Option Nat → String} {ε : Nat → String}

lemma Metadata.set_of_lookup_eq_none {m : Metadata} {key : String} (h : m.lookup key = none)
    (value : Value) : m.set key value = m ++ [(key, value)] := by
  induction m with
  | nil => rfl
  | cons e rest ih =>
    rw [List.lookup_cons] at h
    split at h
    · cases h
    · rename_i hne
      have hne' : (e.1 == key) = false := by
        rw [BEq.comm]
        exact hne
      rw [Metadata.set, Assoc.insert, hne', ← Metadata.set, ih h]
      rfl

lemma Metadata.set_append_of_lookup_eq_none {m : Metadata} {key : String}
    (h : m.lookup key = none) (old value : Value) :
    Metadata.set (m ++ [(key, old)]) key value = m ++ [(key, value)] := by
  induction m with
  | nil => simp [Metadata.set, Assoc.insert]
  | cons e rest ih =>
    rw [List.lookup_cons] at h
    split at h
    · cases h
    · rename_i hne
      have hne' : (e.1 == key) = false := by
        rw [BEq.comm]
        exact hne
      rw [List.cons_append, Metadata.set, Assoc.insert, hne', ← Metadata.set, ih h]
      rfl

/-- One more loop joins. -/
lemma Metadata.join_joined {m : Metadata} (h : m.lookup "merged" = none) (collections : List String)
    (collection : String) :
    (m.joined collections).join collection = m.joined (collections ++ [collection]) := by
  have hne : collections ++ [collection] ≠ [] := by simp
  rw [Metadata.joined, Metadata.joined, if_neg hne]
  split
  · rename_i hempty
    have hget : m.get "merged" = .null := by rw [Metadata.get, h]; rfl
    rw [Metadata.join, hget, Metadata.set_of_lookup_eq_none h, hempty]
    rfl
  · have hget : Metadata.get (m ++ [("merged", .list (collections.map .str))]) "merged" =
        .list (collections.map .str) := by
      rw [Metadata.get, List.lookup_append, h]
      rfl
    rw [Metadata.join, hget, List.map_append]
    exact Metadata.set_append_of_lookup_eq_none h _ _

lemma Site.lookup_notes (s : Site) : s.notes.lookup "merged" = none := by
  unfold Site.notes
  split <;> rfl

lemma lookup_rooms {sites : List Site} {room : Option Nat × Group} (h : room ∈ rooms γ sites) :
    room.2.metadata.lookup "merged" = none := by
  obtain rfl | h := List.mem_cons.mp h
  · rfl
  · obtain ⟨s, -, rfl⟩ := List.mem_map.mp h
    exact s.lookup_notes

/-- One more place puts something into the group that it is in. -/
lemma furnish_concat {sites : List Site} {s : Site} {room : Option Nat × Group}
    (h : room.2.metadata.lookup "merged" = none) :
    furnish γ ε (sites ++ [s]) room =
      if s.home = room.1 then s.putInto γ ε (furnish γ ε sites room)
      else furnish γ ε sites room := by
  have hsingle : ∀ f : Site → Option String, [s].filterMap f = (f s).toList := fun f => by
    cases hf : f s <;> simp [hf]
  have hnotes : room.2.metadata.joined (joinedAt sites room.1 ++ s.joins?.toList) =
      s.joins?.elim (room.2.metadata.joined (joinedAt sites room.1))
        (room.2.metadata.joined (joinedAt sites room.1)).join := by
    cases s.joins? with
    | none => rw [Option.toList_none, List.append_nil, Option.elim_none]
    | some collection => exact (Metadata.join_joined h _ _).symm
  by_cases hhome : s.home = room.1
  · rw [if_pos hhome, Site.putInto]
    simp only [furnish]
    rw [← hnotes]
    simp [membersAt, joinedAt, hhome, hsingle]
  · rw [if_neg hhome]
    simp [furnish, membersAt, joinedAt, hhome]

end Concat

namespace Layout

open Build

variable {γ : Option Nat → String} {ε : Nat → String}

/-- A new group is put into its parent. -/
lemma groups_openGroup {b : Build} {label p kind : String} {metadata : Metadata}
    (hne : (b.newGroup label (some p) kind metadata).id ≠ p)
    (hlive : (b.openGroup label (some p) kind metadata).2.Live) :
    b.Live ∧ (b.openGroup label (some p) kind metadata).2.diagram.groups =
      (b.diagram.groups.map fun g => if g.id == p then
        { g with members := g.members ++ [(b.newGroup label (some p) kind metadata).id] } else g) ++
      [b.newGroup label (some p) kind metadata] := by
  obtain ⟨hb, -, -, heq⟩ := openGroup_of_live hlive
  refine ⟨hb, ?_⟩
  rw [heq, Diagram.enroll, Diagram.modifyGroup, List.map_append, List.map_singleton]
  rw [if_neg (by simpa using hne)]

/-- The groups after a place: the group that it is in gets what stands there, and a group may be
opened. -/
def groupsAfter (γ : Option Nat → String) (ε : Nat → String) (s : Site) (groups : List Group) :
    List Group :=
  (groups.map fun g => if g.id == γ s.home then s.putInto γ ε g else g) ++
    if s.opens then [s.room γ] else []

lemma groupsAfter_of_idle {s : Site} (hopens : s.opens = false) (hplaced : s.placed = false)
    (hjoins : s.joins? = none) (groups : List Group) : groupsAfter γ ε s groups = groups := by
  simp [groupsAfter, hopens, Site.putInto, Site.memberId?, hplaced, hjoins]

/-- A place that opens a group. -/
lemma groupsAfter_of_opens {s : Site} {b : Build} {label kind : String} {metadata : Metadata}
    (hopens : s.opens = true) (hjoins : s.joins? = none) (hne : γ (some s.number) ≠ γ s.home)
    (hroom : b.newGroup label (some (γ s.home)) kind metadata = s.room γ)
    (hlive : (b.openGroup label (some (γ s.home)) kind metadata).2.Live) :
    b.Live ∧ (b.openGroup label (some (γ s.home)) kind metadata).2.diagram.groups =
      groupsAfter γ ε s b.diagram.groups := by
  have hid : (b.newGroup label (some (γ s.home)) kind metadata).id = γ (some s.number) :=
    congrArg Group.id hroom
  obtain ⟨hb, hgroups⟩ := groups_openGroup (hid ▸ hne) hlive
  refine ⟨hb, hgroups.trans ?_⟩
  simp [groupsAfter, hopens, Site.putInto, Site.memberId?, hjoins, hroom, Site.room]

/-- A loop that joins the group it is in. -/
lemma groupsAfter_of_joins {s : Site} {b : Build} {head : LoopHead} (hopens : s.opens = false)
    (hplaced : s.placed = false) (hjoins : s.joins? = some head.collection)
    (hlive : (joinLoop b head (γ s.home)).Live) :
    b.Live ∧ (joinLoop b head (γ s.home)).diagram.groups =
      groupsAfter γ ε s b.diagram.groups := by
  obtain ⟨-, -, hdiagram, -, hrecord⟩ := record_kept (b.modifyGroup (γ s.home) fun g =>
    { g with metadata := g.metadata.join head.collection }) .debug origin
      ("Merged nested iteration over " ++ head.collection ++ " into " ++ γ s.home)
  have hb : b.Live := by
    refine ((grows_modifyGroup b (γ s.home) ?_).live.mp (hrecord.mp hlive)).1
    exact fun _ => ⟨rfl, rfl⟩
  refine ⟨hb, ?_⟩
  have hjoined : (joinLoop b head (γ s.home)).diagram = b.diagram.modifyGroup (γ s.home) fun g =>
      { g with metadata := g.metadata.join head.collection } :=
    hdiagram.trans (diagram_modifyGroup_of_live hb _ _)
  rw [hjoined]
  simp [groupsAfter, Diagram.modifyGroup, hopens, Site.putInto, Site.memberId?, hplaced, hjoins]

lemma groups_perform {l : Layout} {s : Site} (hγ : DrawsGroups γ l [s])
    (hε : DrawsElements ε l [s]) (hne : s.opens = true → γ (some s.number) ≠ γ s.home)
    (hlive : (l.perform γ s).build.Live) :
    l.build.Live ∧ (l.perform γ s).build.diagram.groups =
      groupsAfter γ ε s l.build.diagram.groups := by
  obtain ⟨⟨n, content⟩, around⟩ := s
  cases content with
  | element e =>
    simp only [perform] at hlive ⊢
    split at hlive
    · rename_i hplaced
      obtain ⟨hb, -, heq⟩ := place_of_live hlive
      have hid : ε n = (l.build.newNode (e.sketch (γ (homeOf around)))).id :=
        ((Drawn.cons_iff_of_pos hplaced).mp hε).1
      rw [if_pos hplaced, heq]
      refine ⟨hb, ?_⟩
      simp [groupsAfter, Diagram.enroll, Diagram.modifyGroup, Site.opens, Site.putInto,
        Site.memberId?, Site.joins?, hplaced, hid, Site.home]
    · rename_i hplain
      rw [if_neg hplain, groupsAfter_of_idle rfl (Bool.of_not_eq_true hplain) rfl]
      exact ⟨hlive, rfl⟩
  | branch c negated nodes =>
    cases nodes with
    | nil =>
      rw [groupsAfter_of_idle rfl rfl rfl]
      exact ⟨hlive, rfl⟩
    | cons node rest =>
      have hid := ((Drawn.cons_iff_of_pos rfl).mp hγ).1
      exact groupsAfter_of_opens rfl rfl (hne rfl) (by rw [newGroup, ← hid]; rfl) hlive
  | loop head =>
    by_cases hkind : kindOf around = .loop
    · have hopens : Site.opens ⟨⟨n, .loop head⟩, around⟩ = false := by simp [Site.opens, hkind]
      simp only [perform, Site.homeKind, hkind] at hlive ⊢
      exact groupsAfter_of_joins hopens rfl (by simp [Site.joins?, hopens]) hlive
    · have hopens : Site.opens ⟨⟨n, .loop head⟩, around⟩ = true := by simp [Site.opens, hkind]
      have hid := ((Drawn.cons_iff_of_pos hopens).mp hγ).1
      simp only [perform, Site.homeKind, enterLoop_of_ne hkind] at hlive ⊢
      exact groupsAfter_of_opens hopens (by simp [Site.joins?, hopens]) (hne hopens)
        (by rw [newGroup, ← hid]; rfl) hlive

end Layout

/-! ## All places -/

/-- Places in order: numbered from zero, and each in the outermost group or in the group of a place
before it. -/
structure Ordered (sites : List Site) : Prop where
  number : sites.map (·.number) = List.range' 0 sites.length
  home : ∀ s ∈ sites, s.home = none ∨
    ∃ t ∈ sites, t.opens = true ∧ s.home = some t.number ∧ t.number < s.number

lemma ordered_sitesIn (output : List RenderNode) : Ordered (sitesIn [] 0 output) where
  number := number_sitesIn [] 0 output
  home := by
    intro s hs
    obtain ⟨hnone, -⟩ | ⟨t, ht, hopens, hhome, -, haround⟩ := exists_home (under_of_mem hs)
    · exact .inl hnone
    · have hlt := (number_around_lt hs _ haround).resolve_left List.not_mem_nil
      exact .inr ⟨t, ht, hopens, hhome, hlt⟩

namespace Ordered

variable {sites : List Site} {s : Site}

/-- The last place. -/
lemma concat (h : Ordered (sites ++ [s])) : Ordered sites ∧
    (s.home = none ∨ ∃ t ∈ sites, t.opens = true ∧ s.home = some t.number) ∧
    ∀ t ∈ sites ++ [s], t.home ≠ some s.number := by
  have hnumber := h.number
  rw [List.map_append, List.length_append, List.length_singleton, List.range'_concat,
    List.map_singleton] at hnumber
  obtain ⟨hsites, hs⟩ := List.append_inj' hnumber rfl
  have hs : s.number = sites.length := by simpa using hs
  have hlt : ∀ t ∈ sites, t.number < s.number := by
    intro t ht
    have hmem : t.number ∈ sites.map (·.number) := List.mem_map_of_mem ht
    rw [hsites] at hmem
    have := (List.mem_range'_1.mp hmem).2
    omega
  have hle : ∀ t ∈ sites ++ [s], t.number ≤ s.number :=
    List.forall_mem_append.mpr ⟨fun t ht => (hlt t ht).le, by simp⟩
  have hearlier : ∀ t ∈ sites ++ [s], t.number < s.number → t ∈ sites := by
    intro t ht hlt
    obtain ht | ht := List.mem_append.mp ht
    · exact ht
    · rw [List.mem_singleton.mp ht] at hlt
      exact absurd hlt (lt_irrefl _)
  refine ⟨⟨hsites, fun t ht => ?_⟩, ?_, fun t ht hhome => ?_⟩
  · obtain hnone | ⟨u, hu, hopens, hhome, hut⟩ := h.home t (List.mem_append_left _ ht)
    · exact .inl hnone
    · exact .inr ⟨u, hearlier u hu (hut.trans (hlt t ht)), hopens, hhome, hut⟩
  · obtain hnone | ⟨u, hu, hopens, hhome, hus⟩ := h.home s (by simp)
    · exact .inl hnone
    · exact .inr ⟨u, hearlier u hu hus, hopens, hhome⟩
  · obtain hnone | ⟨u, hu, -, hhome', hut⟩ := h.home t ht
    · rw [hnone] at hhome
      cases hhome
    · have hsame : u.number = s.number := Option.some.inj (hhome'.symm.trans hhome)
      have := hle t ht
      omega

end Ordered

section Rooms

variable {γ : Option Nat → String} {ε : Nat → String} {sites : List Site} {s : Site}

lemma id_of_mem_rooms {room : Option Nat × Group} (h : room ∈ rooms γ sites) :
    room.2.id = γ room.1 := by
  obtain rfl | h := List.mem_cons.mp h
  · rfl
  · obtain ⟨s, -, rfl⟩ := List.mem_map.mp h
    rfl

lemma rooms_concat (sites : List Site) (s : Site) : rooms γ (sites ++ [s]) =
    rooms γ sites ++ if s.opens then [(some s.number, s.room γ)] else [] := by
  cases hopens : s.opens <;> simp [rooms, hopens]

/-- Whether different groups have different ids. -/
def Apart (γ : Option Nat → String) (sites : List Site) : Prop :=
  ∀ room ∈ rooms γ sites, ∀ other ∈ rooms γ sites, γ room.1 = γ other.1 → room.1 = other.1

/-- The last place is in one of the groups before it. -/
lemma Ordered.exists_room (h : Ordered (sites ++ [s])) (γ : Option Nat → String) :
    ∃ home ∈ rooms γ sites, s.home = home.1 := by
  obtain ⟨-, hnone | ⟨t, ht, hopens, hhome⟩, -⟩ := h.concat
  · exact ⟨_, List.mem_cons_self, hnone⟩
  · exact ⟨_, List.mem_cons_of_mem _ (List.mem_map_of_mem
      (List.mem_filter.mpr ⟨ht, hopens⟩)), hhome⟩

lemma mem_rooms_concat {room : Option Nat × Group} (h : room ∈ rooms γ sites) :
    room ∈ rooms γ (sites ++ [s]) := by
  rw [rooms_concat]
  exact List.mem_append_left _ h

/-- The groups after one more place. -/
lemma roomsOf_concat (h : Ordered (sites ++ [s])) (hapart : Apart γ (sites ++ [s])) :
    roomsOf γ ε (sites ++ [s]) = Layout.groupsAfter γ ε s (roomsOf γ ε sites) := by
  obtain ⟨-, -, hnew⟩ := h.concat
  obtain ⟨home, hroom, hkey⟩ := h.exists_room γ
  rw [roomsOf, rooms_concat, List.map_append, Layout.groupsAfter, roomsOf, List.map_map]
  congr 1
  · refine List.map_congr_left fun room hin => ?_
    have hsame : (γ room.1 == γ s.home) = decide (s.home = room.1) := by
      rw [hkey, beq_eq_decide, decide_eq_decide]
      exact ⟨fun heq => (hapart room (mem_rooms_concat hin) home (mem_rooms_concat hroom) heq).symm,
        fun heq => by rw [heq]⟩
    rw [furnish_concat (lookup_rooms hin), Function.comp_apply,
      show (furnish γ ε sites room).id = γ room.1 from id_of_mem_rooms hin, hsame]
    simp
  · -- nothing is in the new group yet
    have hnone : (sites ++ [s]).filter (·.home = some s.number) = [] :=
      List.filter_eq_nil_iff.mpr fun t ht => by simpa using hnew t ht
    split
    · simp only [List.map_singleton, furnish, membersAt, joinedAt, hnone, List.filterMap_nil]
      rfl
    · rfl

end Rooms

namespace Layout

open Build

variable {γ : Option Nat → String} {ε : Nat → String} {sites : List Site}

/-- The groups of a layout, from place to place. -/
lemma groups_foldl_perform {l : Layout} {old : List Group} (hsites : Ordered sites)
    (hapart : Apart γ sites) (hγ : DrawsGroups γ l sites) (hε : DrawsElements ε l sites)
    (hold : ∀ g ∈ old, ∀ room ∈ rooms γ sites, g.id ≠ γ room.1)
    (hgroups : l.build.Live → l.build.diagram.groups = old ++ roomsOf γ ε [])
    (hlive : (sites.foldl (perform γ) l).build.Live) :
    (sites.foldl (perform γ) l).build.diagram.groups = old ++ roomsOf γ ε sites := by
  induction sites using List.reverseRecOn with
  | nil => exact hgroups hlive
  | append_singleton sites s ih =>
    obtain ⟨hsites', -, hnew⟩ := hsites.concat
    obtain ⟨home, hroom, hkey⟩ := hsites.exists_room γ
    obtain ⟨hγ, hγ'⟩ := DrawsGroups.append_iff.mp hγ
    obtain ⟨hε, hε'⟩ := (DrawsElements.append_iff γ).mp hε
    have hne : s.opens = true → γ (some s.number) ≠ γ s.home := by
      intro hopens heq
      have hown : (some s.number, s.room γ) ∈ rooms γ (sites ++ [s]) := by
        rw [rooms_concat, if_pos hopens]
        exact List.mem_append_right _ List.mem_cons_self
      rw [hkey] at heq
      exact hnew s (by simp) (hkey.trans (hapart _ hown home (mem_rooms_concat hroom) heq).symm)
    rw [List.foldl_append] at hlive ⊢
    obtain ⟨hb, hafter⟩ := groups_perform hγ' hε' hne hlive
    have hearlier := ih hsites' (fun room hin other hin' => hapart room (mem_rooms_concat hin) other
      (mem_rooms_concat hin')) hγ hε (fun g hg room hin => hold g hg room (mem_rooms_concat hin)) hb
    -- the groups that were there before are not changed
    have hkept : (old.map fun g => if g.id == γ s.home then s.putInto γ ε g else g) = old := by
      refine (List.map_congr_left fun g hg => ?_).trans (List.map_id old)
      have hother : g.id ≠ γ s.home := by
        rw [hkey]
        exact hold g hg home (mem_rooms_concat hroom)
      simp [hother]
    rw [roomsOf_concat hsites hapart]
    refine hafter.trans ?_
    rw [hearlier, groupsAfter, List.map_append, hkept, List.append_assoc, ← groupsAfter]

/-! ## The whole layout -/

variable (b : Build) (output : List RenderNode)

/-- A group of the layout is the outermost one, or that of a place. -/
lemma groupId_cases {room : Option Nat × Group}
    (h : room ∈ rooms (groupId b output) (sitesIn [] 0 output)) :
    room.1 = none ∨ ∃ s ∈ sitesIn [] 0 output, s.opens = true ∧ room.1 = some s.number := by
  obtain rfl | h := List.mem_cons.mp h
  · exact .inl rfl
  · obtain ⟨s, hs, rfl⟩ := List.mem_map.mp h
    exact .inr ⟨s, (List.mem_filter.mp hs).1, (List.mem_filter.mp hs).2, rfl⟩

/-- The ids of groups by place, as they are drawn. -/
lemma drawn_groupId : Drawn "subgraph" Site.opens (fun s => groupId b output (some s.number))
    (b.session.count "subgraph" + 1) (sitesIn [] 0 output) :=
  drawn_drawnId _ _ _ (number_sitesIn [] 0 output)

lemma apart_groupId : Apart (groupId b output) (sitesIn [] 0 output) := by
  have hdrawn := drawn_groupId b output
  have hroot : ∀ s ∈ sitesIn [] 0 output, s.opens = true →
      groupId b output none ≠ groupId b output (some s.number) := by
    intro s hs hopens heq
    obtain ⟨m, hm, -, hid⟩ := hdrawn.exists_eq_idOf hs hopens
    have hsame := (Session.idOf_inj.mp (heq.trans hid)).2
    omega
  intro room hroom other hother heq
  obtain hnone | ⟨s, hs, hopens, hkey⟩ := groupId_cases b output hroom
  · obtain hnone' | ⟨t, ht, hopens', hkey'⟩ := groupId_cases b output hother
    · rw [hnone, hnone']
    · rw [hnone, hkey'] at heq
      exact absurd heq (hroot t ht hopens')
  · obtain hnone' | ⟨t, ht, hopens', hkey'⟩ := groupId_cases b output hother
    · rw [hnone', hkey] at heq
      exact absurd heq.symm (hroot s hs hopens)
    · rw [hkey, hkey'] at heq
      rw [hkey, hkey', hdrawn.inj hs ht hopens hopens' heq]

/-- The ids of the groups of a layout are drawn by it. -/
lemma draws_groupId {room : Option Nat × Group}
    (h : room ∈ rooms (groupId b output) (sitesIn [] 0 output)) :
    b.session.Draws ((sitesIn [] 0 output).foldl (perform (groupId b output))
      (root b)).build.session (groupId b output room.1) := by
  have hcount := (count_foldl_perform (groupId b output) (root b) (sitesIn [] 0 output)).1
  rw [root, count_openGroup, if_pos rfl, ← root] at hcount
  obtain hnone | ⟨s, hs, hopens, hkey⟩ := groupId_cases b output h
  · refine ⟨"subgraph", _, le_rfl, ?_, by rw [hnone, groupId]⟩
    omega
  · obtain ⟨m, hlow, hhigh, hid⟩ := (drawn_groupId b output).exists_eq_idOf hs hopens
    refine ⟨"subgraph", m, by omega, by omega, by rw [hkey]; exact hid⟩

lemma groups_root (hlive : (root b).build.Live) :
    (root b).build.diagram.groups =
      b.diagram.groups ++ roomsOf (groupId b output) (elementId b output) [] := by
  obtain ⟨hstopped, -⟩ | ⟨-, d, hok, heq⟩ :=
    b.openGroup_cases "JSX Output" none GroupKind.output.name []
  · exact absurd hlive hstopped
  · obtain ⟨-, -, rfl⟩ := Diagram.addGroup_eq_ok_iff.mp hok
    rw [root, heq]
    rfl

variable {b} {output}

/-- The groups of a layout without exported handlers. -/
lemma groups_lay_nil (hb : b.diagram.Coherent) (hlive : (lay b output []).build.Live) :
    (lay b output []).build.diagram.groups = b.diagram.groups ++
      roomsOf (groupId b output) (elementId b output) (sitesIn [] 0 output) := by
  have hlay : lay b output [] =
      (sitesIn [] 0 output).foldl (perform (groupId b output)) (root b) := walk_eq_foldl b output
  obtain ⟨-, hfree, -⟩ := (inv_lay hb output []).laying.grows.live.mp hlive
  rw [hlay] at hlive hfree ⊢
  refine groups_foldl_perform (ordered_sitesIn output) (apart_groupId b output)
    (drawsGroups_root b output) (drawsElements_root b output) (fun g hg room hroom heq => ?_)
    (groups_root b output) hlive
  -- the ids that are drawn are not those of groups that were there before
  have hold : g.id ∈ b.diagram.ids := hb.groups_sublist.subset (List.mem_map_of_mem hg)
  exact hfree _ (draws_groupId b output hroom) (heq ▸ hold)

/-- Handlers are put into a group. -/
lemma groups_addHandlers {b : Build} {group : String} {handlers : List String}
    (hlive : (handlers.foldl (addHandlerTo group) b).Live) :
    b.Live ∧ (handlers.foldl (addHandlerTo group) b).diagram.groups =
      b.diagram.groups.map fun g =>
        if g.id == group then { g with members := g.members ++ handlers } else g := by
  induction handlers generalizing b with
  | nil => simpa using hlive
  | cons id rest ih =>
    obtain ⟨hadded, hgroups⟩ := ih hlive
    obtain ⟨hb, heq⟩ := addHandlerTo_of_live hadded
    refine ⟨hb, hgroups.trans ?_⟩
    rw [heq, Diagram.enroll, Diagram.modifyGroup, List.map_map]
    refine List.map_congr_left fun g _ => ?_
    by_cases hg : g.id = group <;> simp [hg]

/-- Exported handlers are put into a group of their own, which is put into the outermost one. -/
lemma groups_addExported {l : Layout} {group : String} {handlers : List String}
    (hl : l.build.diagram.Coherent) (hlive : (l.addExported group handlers).build.Live) :
    l.build.Live ∧ ∃ (added : List String) (more : List Group),
      (l.addExported group handlers).build.diagram.groups =
        (l.build.diagram.groups.map fun g =>
          if g.id == group then { g with members := g.members ++ added } else g) ++ more ∧
      ∀ g ∈ more, g.parent = some group ∧ g.kind = GroupKind.exported.name := by
  unfold addExported at hlive ⊢
  split at hlive
  · rename_i hempty
    rw [if_pos hempty]
    exact ⟨hlive, [], [], by simp, by simp⟩
  · rename_i hsome
    rw [if_neg hsome]
    obtain ⟨hopened, hhandlers⟩ := groups_addHandlers hlive
    obtain ⟨-, hfree, hparent, -⟩ := openGroup_of_live hopened
    have hknown : ∀ id ∈ l.build.diagram.groupIds,
        id ≠ (l.build.newGroup "exported handlers" (some group) GroupKind.exported.name []).id := by
      rintro id hid rfl
      exact hfree (hl.groups_sublist.subset hid)
    obtain ⟨hb, hgroups⟩ := groups_openGroup (hknown group hparent).symm hopened
    refine ⟨hb, [(l.build.newGroup "exported handlers" (some group) GroupKind.exported.name []).id],
      [{ l.build.newGroup "exported handlers" (some group) GroupKind.exported.name [] with
         members := handlers }], hhandlers.trans ?_, by simp [newGroup]⟩
    rw [hgroups, openGroup_fst, List.map_append, List.map_map]
    congr 1
    · refine List.map_congr_left fun g hg => ?_
      have hne := hknown g.id (List.mem_map_of_mem hg)
      rw [newGroup] at hne
      by_cases hroot : g.id = group
      · simp [hroot, hroot ▸ hne]
      · simp [hroot, hne]
    · simp [newGroup]

/-- The groups of a layout other than the outermost one, by place. -/
def innerRooms (γ : Option Nat → String) (ε : Nat → String) (sites : List Site) : List Group :=
  (sites.filter Site.opens).map fun s => furnish γ ε sites (some s.number, s.room γ)

/-- **The groups of a layout.** They come after those that were there before: the outermost one,
those of the places in their order, and the one of exported handlers. -/
lemma exists_groups_lay (hb : b.diagram.Coherent) {exported : List String}
    (hlive : (lay b output exported).build.Live) :
    ∃ (first : Group) (more : List Group), (lay b output exported).build.diagram.groups =
        b.diagram.groups ++ first ::
          (innerRooms (groupId b output) (elementId b output) (sitesIn [] 0 output) ++ more) ∧
      first.id = groupId b output none ∧ first.parent = none ∧
      first.kind = GroupKind.output.name ∧
      membersAt (groupId b output) (elementId b output) (sitesIn [] 0 output) none ⊆
        first.members ∧
      ∀ g ∈ more, g.parent = some (groupId b output none) ∧ g.kind = GroupKind.exported.name := by
  have hcoherent := (inv_lay hb output []).laying.grows.edits.coherent hb
  have hroot : (b.openGroup "JSX Output" none GroupKind.output.name []).1 = groupId b output none :=
    openGroup_fst _ _ _ _ _
  have hlay : lay b output exported =
      (lay b output []).addExported (groupId b output none) exported := by
    rw [← hroot]
    rfl
  rw [hlay] at hlive ⊢
  obtain ⟨hwalk, added, more, hgroups, hmore⟩ := groups_addExported hcoherent hlive
  have hinner : ∀ g ∈ innerRooms (groupId b output) (elementId b output) (sitesIn [] 0 output),
      g.id ≠ groupId b output none := by
    intro g hg heq
    obtain ⟨s, hs, rfl⟩ := List.mem_map.mp hg
    exact absurd (apart_groupId b output _ (List.mem_cons_of_mem _ (List.mem_map_of_mem hs)) _
      List.mem_cons_self heq) (by simp)
  have hold : ∀ g ∈ b.diagram.groups, g.id ≠ groupId b output none := by
    intro g hg heq
    obtain ⟨-, hfree, -⟩ := (inv_lay hb output []).laying.grows.live.mp hwalk
    rw [show lay b output [] = _ from walk_eq_foldl b output] at hfree
    exact hfree _ (draws_groupId b output List.mem_cons_self)
      (heq ▸ hb.groups_sublist.subset (List.mem_map_of_mem hg))
  have hkept : ∀ groups : List Group, (∀ g ∈ groups, g.id ≠ groupId b output none) →
      (groups.map fun g => if g.id == groupId b output none
        then { g with members := g.members ++ added } else g) = groups := by
    intro groups hne
    refine (List.map_congr_left fun g hg => ?_).trans (List.map_id groups)
    simp [hne g hg]
  refine ⟨{ furnish (groupId b output) (elementId b output) (sitesIn [] 0 output)
      (none, outerRoom (groupId b output)) with
    members := membersAt (groupId b output) (elementId b output) (sitesIn [] 0 output) none ++
      added }, more, ?_, rfl, rfl, rfl, List.subset_append_left _ _, hmore⟩
  have hrooms : roomsOf (groupId b output) (elementId b output) (sitesIn [] 0 output) =
      furnish (groupId b output) (elementId b output) (sitesIn [] 0 output)
        (none, outerRoom (groupId b output)) ::
          innerRooms (groupId b output) (elementId b output) (sitesIn [] 0 output) := by
    rw [roomsOf, rooms, List.map_cons, List.map_map]
    rfl
  have houter : (furnish (groupId b output) (elementId b output) (sitesIn [] 0 output)
      (none, outerRoom (groupId b output))).id == groupId b output none := beq_self_eq_true _
  rw [hgroups, groups_lay_nil hb hwalk, hrooms, List.map_append, List.map_cons, hkept _ hold,
    hkept _ hinner, if_pos houter, List.append_assoc, List.cons_append]
  rfl

section Members

variable {exported : List String} (hb : b.diagram.Coherent)
  (hlive : (lay b output exported).build.Live)

include hb hlive

/-- The group of a place that opens one is in the layout, with the members of the place. -/
lemma mem_groups_lay {s : Site} (hs : s ∈ sitesIn [] 0 output) (hopens : s.opens = true) :
    furnish (groupId b output) (elementId b output) (sitesIn [] 0 output)
        (some s.number, s.room (groupId b output)) ∈
      (lay b output exported).build.diagram.groups := by
  obtain ⟨first, more, hgroups, -⟩ := exists_groups_lay hb hlive
  rw [hgroups]
  refine List.mem_append_right _ (List.mem_cons_of_mem _ (List.mem_append_left _ ?_))
  exact List.mem_map_of_mem (List.mem_filter.mpr ⟨hs, hopens⟩)

/-- What stands at a place is a member of the group that the place is in. -/
lemma hasMember_home {t : Site} (ht : t ∈ sitesIn [] 0 output) {id : String}
    (hid : t.memberId? (groupId b output) (elementId b output) = some id) :
    (lay b output exported).build.diagram.HasMember (groupId b output t.home) id := by
  have hmember : id ∈ membersAt (groupId b output) (elementId b output) (sitesIn [] 0 output)
      t.home := List.mem_filterMap.mpr ⟨t, List.mem_filter.mpr ⟨ht, by simp⟩, hid⟩
  obtain hnone | ⟨s, hs, hopens, hhome, -⟩ := (ordered_sitesIn output).home t ht
  · obtain ⟨first, more, hgroups, hfirst, -, -, hmembers, -⟩ := exists_groups_lay hb hlive
    rw [hnone] at hmember ⊢
    exact ⟨first, by simp [hgroups], hfirst, hmembers hmember⟩
  · rw [hhome] at hmember ⊢
    exact ⟨_, mem_groups_lay hb hlive hs hopens, rfl, hmember⟩

end Members

end Layout

end ComponentFlow
