import ComponentFlow.Proofs.Layouts
import ComponentFlow.Proofs.Sites
import Mathlib.Data.List.Induction

/-!
# From place to place

The walk over markup goes from place to place (`walk_eq_foldl`), and what it does at a place only
depends on the place and on the ids of the groups (`Layout.perform`). Groups and elements get the
ids that are drawn on the way (`Drawn`), so all ids are known from the places before the walk
begins. This gives the elements and the control flows of a layout in one formula each
(`elements_lay`, `controls_lay`).
-/

namespace ComponentFlow

/-! ## Ids by place -/

/-- Whether the ids of some of the places are drawn one after the other. -/
def Drawn (stem : String) (p : Site → Bool) (id : Site → String) (k : Nat) (sites : List Site) :
    Prop :=
  (sites.filter p).map id = (List.range' k (sites.countP p)).map (Session.idOf stem)

namespace Drawn

variable {stem : String} {p : Site → Bool} {id : Site → String} {k : Nat} {sites later : List Site}
  {s t : Site}

lemma append_iff : Drawn stem p id k (sites ++ later) ↔
    Drawn stem p id k sites ∧ Drawn stem p id (k + sites.countP p) later := by
  unfold Drawn
  rw [List.filter_append, List.map_append, List.countP_append, ← List.range'_append_1,
    List.map_append]
  refine ⟨fun h => List.append_inj h ?_, fun ⟨h, h'⟩ => by rw [h, h']⟩
  rw [List.length_map, List.length_map, List.length_range', List.countP_eq_length_filter]

lemma cons_iff_of_pos (hp : p s = true) : Drawn stem p id k (s :: later) ↔
    id s = Session.idOf stem k ∧ Drawn stem p id (k + 1) later := by
  unfold Drawn
  rw [List.filter_cons_of_pos hp, List.map_cons, List.countP_cons_of_pos hp, List.range'_succ,
    List.map_cons, List.cons.injEq]

lemma cons_iff_of_neg (hp : p s = false) :
    Drawn stem p id k (s :: later) ↔ Drawn stem p id k later := by
  have hneg : ¬ p s = true := by simp [hp]
  unfold Drawn
  rw [List.filter_cons_of_neg hneg, List.countP_cons_of_neg hneg]

lemma nodup (h : Drawn stem p id k sites) : ((sites.filter p).map id).Nodup := by
  rw [h]
  exact List.Nodup.map (fun _ _ heq => (Session.idOf_inj.mp heq).2) List.nodup_range'

/-- Different places have different ids. -/
lemma inj (h : Drawn stem p id k sites) (hs : s ∈ sites) (ht : t ∈ sites) (hps : p s = true)
    (hpt : p t = true) (heq : id s = id t) : s = t :=
  List.inj_on_of_nodup_map h.nodup (List.mem_filter.mpr ⟨hs, hps⟩) (List.mem_filter.mpr ⟨ht, hpt⟩)
    heq

lemma exists_eq_idOf (h : Drawn stem p id k sites) (hs : s ∈ sites) (hp : p s = true) :
    ∃ m, k ≤ m ∧ m < k + sites.countP p ∧ id s = Session.idOf stem m := by
  have hid : id s ∈ (sites.filter p).map id := List.mem_map_of_mem (List.mem_filter.mpr ⟨hs, hp⟩)
  rw [h] at hid
  obtain ⟨m, hm, heq⟩ := List.mem_map.mp hid
  exact ⟨m, (List.mem_range'_1.mp hm).1, (List.mem_range'_1.mp hm).2, heq.symm⟩

end Drawn

/-- The id that is drawn at a place, by the number of the place. -/
def drawnId (stem : String) (p : Site → Bool) (k : Nat) (sites : List Site) (n : Nat) : String :=
  Session.idOf stem (k + (sites.take n).countP p)

/-- Places that are numbered from zero have such ids. -/
lemma drawn_drawnId (stem : String) (p : Site → Bool) (k : Nat) {sites : List Site}
    (hnumber : sites.map (·.number) = List.range' 0 sites.length) :
    Drawn stem p (fun s => drawnId stem p k sites s.number) k sites := by
  have hlater : ∀ later earlier : List Site, sites = earlier ++ later →
      Drawn stem p (fun s => drawnId stem p k sites s.number) (k + earlier.countP p) later := by
    intro later
    induction later with
    | nil => exact fun _ _ => rfl
    | cons s rest ih =>
      intro earlier hsites
      have hrest := ih (earlier ++ [s]) (by simp [hsites])
      have hs : s.number = earlier.length := by
        have hget := congrArg (·[earlier.length]?) hnumber
        simpa [hsites] using hget
      have htake : sites.take s.number = earlier := by simp [hsites, hs]
      rw [List.countP_append, List.countP_singleton] at hrest
      cases hp : p s with
      | true =>
        rw [Drawn.cons_iff_of_pos hp, drawnId, htake]
        rw [hp, if_pos rfl, ← Nat.add_assoc] at hrest
        exact ⟨rfl, hrest⟩
      | false =>
        rw [Drawn.cons_iff_of_neg hp]
        rw [hp] at hrest
        exact hrest
  simpa using hlater sites [] rfl

namespace Build

/-! ## Counts -/

lemma counters_change (b : Build) (f : Diagram → Except DiagramError Diagram) :
    (b.change f).session.counters = b.session.counters := by
  obtain ⟨-, heq⟩ | ⟨-, d, -, heq⟩ | ⟨-, e, -, heq⟩ := b.change_cases f <;> rw [heq]

lemma count_change (b : Build) (f : Diagram → Except DiagramError Diagram) (stem : String) :
    (b.change f).session.count stem = b.session.count stem := by
  simp only [Session.count, counters_change]

lemma count_record (b : Build) (level : Level) (origin message stem : String) :
    (b.record level origin message).session.count stem = b.session.count stem := by
  simp only [Session.count, (b.record_kept level origin message).1]

lemma count_addNode (b : Build) (sketch : Sketch) (other : String) :
    (b.addNode sketch).2.session.count other =
      if other = sketch.stem then b.session.count sketch.stem + 1 else b.session.count other :=
  (count_change _ _ _).trans (b.session.count_nextId sketch.stem other)

lemma count_openGroup (b : Build) (label : String) (parent : Option String) (kind : String)
    (metadata : Metadata) (other : String) :
    (b.openGroup label parent kind metadata).2.session.count other =
      if other = "subgraph" then b.session.count "subgraph" + 1 else b.session.count other := by
  rw [← b.session.count_nextId "subgraph" other]
  cases parent with
  | none => exact count_change _ _ _
  | some p => exact (count_change _ _ _).trans (count_change _ _ _)

end Build

/-! ## From place to place -/

namespace Site

/-- The kind of the group that a place is in. -/
def homeKind (s : Site) : GroupKind := kindOf s.around

/-- The loop items in scope at a place. -/
def scope (s : Site) : Scope := scopeOf s.around

end Site

namespace Layout

open Build

/-- What the walk does at a place, given the ids of groups. -/
def perform (γ : Option Nat → String) (l : Layout) (s : Site) : Layout :=
  match s.content with
  | .element e => if s.placed then l.place e (γ s.home) s.scope else l
  | .branch c negated nodes => (l.openNonempty c negated (γ s.home) s.scope nodes).2
  | .loop head => (l.enterLoop head (γ s.home) s.homeKind s.scope).2

/-- The ids of the groups that the places open, if they are drawn by the walk. -/
def DrawsGroups (γ : Option Nat → String) (l : Layout) (sites : List Site) : Prop :=
  Drawn "subgraph" Site.opens (fun s => γ (some s.number)) (l.build.session.count "subgraph") sites

/-- The ids of the elements at the places, if they are drawn by the walk. -/
def DrawsElements (ε : Nat → String) (l : Layout) (sites : List Site) : Prop :=
  Drawn "jsx" Site.placed (fun s => ε s.number) (l.build.session.count "jsx") sites

variable {γ : Option Nat → String}

/-- A loop that is not directly inside a loop opens a group. -/
lemma enterLoop_of_ne {kind : GroupKind} (hkind : kind ≠ .loop) (l : Layout) (head : LoopHead)
    (group : String) (scope : Scope) :
    let opened := l.build.openGroup "\x7bloop\x7d" (some group) GroupKind.loop.name
      [("collection", .str head.collection)]
    l.enterLoop head group kind scope = (opened.1, { l with
      build := opened.2
      controls := l.controls ++ [⟨opened.1, loopVariables head scope, "iterates over"⟩] }) := by
  cases kind with
  | loop => exact absurd rfl hkind
  | output => rfl
  | conditional => rfl
  | exported => rfl

lemma count_perform (γ : Option Nat → String) (l : Layout) (s : Site) :
    (l.perform γ s).build.session.count "subgraph" =
        l.build.session.count "subgraph" + [s].countP Site.opens ∧
      (l.perform γ s).build.session.count "jsx" =
        l.build.session.count "jsx" + [s].countP Site.placed := by
  obtain ⟨⟨n, content⟩, around⟩ := s
  have hopened : ∀ label group kind metadata,
      (l.build.openGroup label group kind metadata).2.session.count "subgraph" =
          l.build.session.count "subgraph" + 1 ∧
        (l.build.openGroup label group kind metadata).2.session.count "jsx" =
          l.build.session.count "jsx" := fun _ _ _ _ =>
    ⟨count_openGroup _ _ _ _ _ _, count_openGroup _ _ _ _ _ _⟩
  cases content with
  | element e =>
    cases hplaced : Site.placed ⟨⟨n, .element e⟩, around⟩ with
    | true =>
      simp only [perform, List.countP_singleton, hplaced]
      exact ⟨(count_change _ _ _).trans (count_addNode _ _ _),
        (count_change _ _ _).trans (count_addNode _ _ _)⟩
    | false =>
      simp only [perform, List.countP_singleton, hplaced]
      exact ⟨rfl, rfl⟩
  | branch c negated nodes =>
    cases nodes with
    | nil => exact ⟨rfl, rfl⟩
    | cons node rest =>
      simp only [perform, openNonempty, openBranch, List.countP_singleton, Site.opens]
      exact hopened _ _ _ _
  | loop head =>
    by_cases hkind : kindOf around = .loop
    · simp only [perform, Site.homeKind, List.countP_singleton, Site.opens, hkind, enterLoop,
        joinLoop, count_record]
      exact ⟨count_change _ _ _, count_change _ _ _⟩
    · have hopens : (kindOf around != .loop) = true := by simpa using hkind
      simp only [perform, Site.homeKind, List.countP_singleton, Site.opens, hopens,
        enterLoop_of_ne hkind]
      exact hopened _ _ _ _

lemma count_foldl_perform (γ : Option Nat → String) (l : Layout) (sites : List Site) :
    (sites.foldl (perform γ) l).build.session.count "subgraph" =
        l.build.session.count "subgraph" + sites.countP Site.opens ∧
      (sites.foldl (perform γ) l).build.session.count "jsx" =
        l.build.session.count "jsx" + sites.countP Site.placed := by
  induction sites generalizing l with
  | nil => exact ⟨rfl, rfl⟩
  | cons s rest ih =>
    obtain ⟨hgroups, helements⟩ := count_perform γ l s
    obtain ⟨hgroups', helements'⟩ := ih (l.perform γ s)
    rw [List.foldl_cons, hgroups', helements', hgroups, helements, Nat.add_assoc, Nat.add_assoc,
      ← List.countP_append, ← List.countP_append, List.singleton_append]
    exact ⟨rfl, rfl⟩

lemma DrawsGroups.append_iff {l : Layout} {sites later : List Site} :
    DrawsGroups γ l (sites ++ later) ↔
      DrawsGroups γ l sites ∧ DrawsGroups γ (sites.foldl (perform γ) l) later := by
  rw [DrawsGroups, Drawn.append_iff, DrawsGroups, DrawsGroups, (count_foldl_perform γ l sites).1]

lemma DrawsElements.append_iff (γ : Option Nat → String) {ε : Nat → String} {l : Layout}
    {sites later : List Site} :
    DrawsElements ε l (sites ++ later) ↔
      DrawsElements ε l sites ∧ DrawsElements ε (sites.foldl (perform γ) l) later := by
  rw [DrawsElements, Drawn.append_iff, DrawsElements, DrawsElements,
    (count_foldl_perform γ l sites).2]

lemma DrawsGroups.cons_iff {l : Layout} {s : Site} {later : List Site} :
    DrawsGroups γ l (s :: later) ↔ DrawsGroups γ l [s] ∧ DrawsGroups γ (l.perform γ s) later :=
  (append_iff : DrawsGroups γ l ([s] ++ later) ↔ _)

/-- What is in a branch is laid out in the group of the branch. -/
lemma layNodes_openNonempty {l : Layout} {n : Nat} {c : Condition} {negated : Bool}
    {nodes : List RenderNode} {around : List Spot}
    (h : DrawsGroups γ l [⟨⟨n, .branch c negated nodes⟩, around⟩]) (group : String) (scope : Scope)
    (kind : GroupKind) (forced : Bool) (l' : Layout) :
    layNodes (l.openNonempty c negated group scope nodes).1 kind forced scope nodes l' =
      layNodes (γ (some n)) kind forced scope nodes l' := by
  cases nodes with
  | nil => rfl
  | cons node rest =>
    have hid := ((Drawn.cons_iff_of_pos rfl).mp h).1
    rw [hid]
    rfl

/-- What is in a loop is laid out in the group that the loop opens or joins. -/
lemma enterLoop_fst {l : Layout} {n : Nat} {head : LoopHead} {around : List Spot}
    (h : DrawsGroups γ l [⟨⟨n, .loop head⟩, around⟩]) (scope : Scope) :
    (l.enterLoop head (γ (homeOf around)) (kindOf around) scope).1 =
      γ (homeOf (⟨n, .loop head⟩ :: around)) := by
  rw [homeOf]
  by_cases hkind : kindOf around = .loop
  · rw [if_pos hkind, hkind]
    rfl
  · have hopens : (kindOf around != .loop) = true := by simpa using hkind
    rw [if_neg hkind, enterLoop_of_ne hkind, ((Drawn.cons_iff_of_pos hopens).mp h).1]
    exact openGroup_fst _ _ _ _ _

mutual

lemma layNode_eq_foldl {around : List Spot} {n : Nat} {node : RenderNode} {l : Layout}
    (h : DrawsGroups γ l (node.sites around n)) :
    layNode (γ (homeOf around)) (kindOf around) (forcedBy around) (scopeOf around) node l =
      (node.sites around n).foldl (perform γ) l := by
  cases node with
  | element e children =>
    simp only [RenderNode.sites] at h ⊢
    rw [DrawsGroups.cons_iff] at h
    exact layNodes_eq_foldl h.2
  | conditional c whenTrue whenFalse =>
    simp only [RenderNode.sites] at h ⊢
    rw [DrawsGroups.cons_iff] at h
    obtain ⟨htrue, h⟩ := h
    rw [DrawsGroups.cons_iff] at h
    obtain ⟨hfalse, h⟩ := h
    rw [DrawsGroups.append_iff] at h
    obtain ⟨hinTrue, hinFalse⟩ := h
    have hlaid := layNodes_eq_foldl hinTrue
    rw [← hlaid] at hinFalse
    rw [List.foldl_cons, List.foldl_cons, List.foldl_append]
    simp only [layNode]
    rw [layNodes_openNonempty htrue, ← hlaid, ← layNodes_eq_foldl hinFalse]
    exact layNodes_openNonempty hfalse _ _ _ _ _
  | loop head body =>
    simp only [RenderNode.sites] at h ⊢
    rw [DrawsGroups.cons_iff] at h
    obtain ⟨hhere, h⟩ := h
    rw [List.foldl_cons, ← layNodes_eq_foldl h]
    simp only [layNode]
    rw [enterLoop_fst hhere]
    rfl

lemma layNodes_eq_foldl {around : List Spot} {n : Nat} {nodes : List RenderNode} {l : Layout}
    (h : DrawsGroups γ l (sitesIn around n nodes)) :
    layNodes (γ (homeOf around)) (kindOf around) (forcedBy around) (scopeOf around) nodes l =
      (sitesIn around n nodes).foldl (perform γ) l := by
  cases nodes with
  | nil => rfl
  | cons node rest =>
    rw [sitesIn, DrawsGroups.append_iff] at h
    rw [sitesIn, List.foldl_append, ← layNode_eq_foldl h.1, layNodes]
    rw [← layNode_eq_foldl h.1] at h
    exact layNodes_eq_foldl h.2

end

end Layout

namespace Site

/-- The place whose group has what is inside of a place. -/
def own (s : Site) : Option Nat := homeOf (s.toSpot :: s.around)

/-- What is inside of a place with a group is put into this group. -/
lemma own_of_opens {s : Site} (h : s.opens = true) : s.own = some s.number := by
  obtain ⟨⟨n, content⟩, around⟩ := s
  cases content with
  | element e => cases h
  | branch c negated nodes => rfl
  | loop head => exact if_neg (by simpa [opens] using h)

/-- What is inside of a place without a group is put into the group that the place is in. -/
lemma own_of_not_opens {s : Site} (h : s.opens = false) (hholds : s.content.Holds) :
    s.own = s.home := by
  obtain ⟨⟨n, content⟩, around⟩ := s
  cases content with
  | element e => rfl
  | branch c negated nodes => exact absurd (by simpa [opens] using h) hholds
  | loop head => exact if_pos (by simpa [opens] using h)

lemma exists_element {s : Site} (h : s.placed = true) : ∃ e, s.content = .element e := by
  rw [placed] at h
  split at h
  · exact ⟨_, by assumption⟩
  · cases h

/-- The element at a place that has a node. -/
def placed? (ε : Nat → String) (s : Site) : Option PlacedElement :=
  match s.content with
  | .element e => if s.placed then some ⟨e, ε s.number, s.scope⟩ else none
  | _ => none

/-- The control flow of a place. -/
def control? (γ : Option Nat → String) (s : Site) : Option ControlFlow :=
  match s.content with
  | .element _ => none
  | .branch c _ _ =>
    if s.opens then some ⟨γ s.own, c.references.map (resolveScope s.scope), "controls visibility"⟩
    else none
  | .loop head => some ⟨γ s.own, Layout.loopVariables head s.scope, "iterates over"⟩

/-- The flows with one label, by place. -/
lemma filter_control? {γ : Option Nat → String} {label : String} {p : Site → Bool}
    {flow : Site → ControlFlow}
    (h : ∀ s : Site, (s.control? γ).filter (·.label == label) = if p s then some (flow s) else none)
    (sites : List Site) :
    (sites.filterMap (control? γ)).filter (·.label == label) = (sites.filter p).map flow := by
  rw [List.filter_filterMap, ← List.filterMap_eq_map, List.filterMap_filter]
  exact List.filterMap_congr fun s _ => h s

end Site

namespace Layout

open Build

variable {γ : Option Nat → String} {ε : Nat → String} {sites : List Site}

lemma elements_perform {l : Layout} {s : Site} (hε : DrawsElements ε l [s]) :
    (l.perform γ s).elements = l.elements ++ (s.placed? ε).toList := by
  obtain ⟨⟨n, content⟩, around⟩ := s
  cases content with
  | element e =>
    simp only [perform, Site.placed?]
    split
    · rename_i hplaced
      have hid : ε n = Session.idOf "jsx" (l.build.session.count "jsx") :=
        ((Drawn.cons_iff_of_pos hplaced).mp hε).1
      rw [hid]
      rfl
    · exact (List.append_nil _).symm
  | branch c negated nodes => cases nodes <;> exact (List.append_nil _).symm
  | loop head => exact (List.append_nil _).symm

lemma controls_perform {l : Layout} {s : Site} (hγ : DrawsGroups γ l [s]) :
    (l.perform γ s).controls = l.controls ++ (s.control? γ).toList := by
  obtain ⟨⟨n, content⟩, around⟩ := s
  cases content with
  | element e =>
    simp only [perform]
    split <;> exact (List.append_nil _).symm
  | branch c negated nodes =>
    cases nodes with
    | nil => exact (List.append_nil _).symm
    | cons node rest =>
      have hid : γ (some n) = Session.idOf "subgraph" (l.build.session.count "subgraph") :=
        ((Drawn.cons_iff_of_pos rfl).mp hγ).1
      simp only [perform, openNonempty, openBranch, Site.control?, Site.own, homeOf, hid]
      rfl
  | loop head =>
    have hid := enterLoop_fst hγ (scopeOf around)
    simp only [perform, Site.control?, Site.own, ← hid]
    rfl

/-- The elements and the control flows of a layout, from place to place. -/
lemma foldl_perform {l : Layout} (hγ : DrawsGroups γ l sites) (hε : DrawsElements ε l sites) :
    (sites.foldl (perform γ) l).elements = l.elements ++ sites.filterMap (Site.placed? ε) ∧
      (sites.foldl (perform γ) l).controls = l.controls ++ sites.filterMap (Site.control? γ) := by
  induction sites using List.reverseRecOn with
  | nil => exact ⟨(List.append_nil _).symm, (List.append_nil _).symm⟩
  | append_singleton sites s ih =>
    obtain ⟨hγ, hγ'⟩ := DrawsGroups.append_iff.mp hγ
    obtain ⟨hε, hε'⟩ := (DrawsElements.append_iff γ).mp hε
    obtain ⟨helements, hcontrols⟩ := ih hγ hε
    rw [List.foldl_append, List.filterMap_append, List.filterMap_append, ← List.append_assoc,
      ← List.append_assoc, ← helements, ← hcontrols]
    refine ⟨(elements_perform hε').trans ?_, (controls_perform hγ').trans ?_⟩
    · cases hplaced : s.placed? ε <;> simp [hplaced]
    · cases hcontrol : s.control? γ <;> simp [hcontrol]

/-! ## The whole layout -/

/-- The ids of the groups of a layout, by the numbers of their places. -/
def groupId (b : Build) (output : List RenderNode) : Option Nat → String
  | none => Session.idOf "subgraph" (b.session.count "subgraph")
  | some n =>
    drawnId "subgraph" Site.opens (b.session.count "subgraph" + 1) (sitesIn [] 0 output) n

/-- The ids of the elements of a layout, by the numbers of their places. -/
def elementId (b : Build) (output : List RenderNode) (n : Nat) : String :=
  drawnId "jsx" Site.placed (b.session.count "jsx") (sitesIn [] 0 output) n

/-- The outermost group alone. -/
def root (b : Build) : Layout :=
  { build := (b.openGroup "JSX Output" none GroupKind.output.name []).2 }

variable (b : Build) (output : List RenderNode)

lemma drawsGroups_root : DrawsGroups (groupId b output) (root b) (sitesIn [] 0 output) := by
  rw [DrawsGroups, root, count_openGroup, if_pos rfl]
  exact drawn_drawnId _ _ _ (number_sitesIn [] 0 output)

lemma drawsElements_root : DrawsElements (elementId b output) (root b) (sitesIn [] 0 output) := by
  rw [DrawsElements, root, count_openGroup, if_neg (by decide)]
  exact drawn_drawnId _ _ _ (number_sitesIn [] 0 output)

/-- **From place to place.** The walk over markup goes from place to place. -/
lemma walk_eq_foldl : (root b).walk
    (frames (b.openGroup "JSX Output" none GroupKind.output.name []).1 .output false [] output) =
      (sitesIn [] 0 output).foldl (perform (groupId b output)) (root b) := by
  rw [← layNodes_eq_foldl (drawsGroups_root b output), ← List.append_nil (frames _ _ _ _ output),
    walk_frames_append, walk, openGroup_fst]
  rfl

lemma addExported_kept (l : Layout) (group : String) (handlers : List String) :
    (l.addExported group handlers).elements = l.elements ∧
      (l.addExported group handlers).controls = l.controls := by
  unfold addExported
  split <;> exact ⟨rfl, rfl⟩

lemma elements_lay (exported : List String) : (lay b output exported).elements =
    (sitesIn [] 0 output).filterMap (Site.placed? (elementId b output)) := by
  refine (addExported_kept _ _ _).1.trans ?_
  refine (congrArg Layout.elements (walk_eq_foldl b output)).trans ?_
  rw [(foldl_perform (drawsGroups_root b output) (drawsElements_root b output)).1]
  rfl

variable {output} in
/-- Each element with a node is in the layout, with the loop items that are in scope. -/
lemma mem_elements_lay (exported : List String) {s : Site} (hs : s ∈ sitesIn [] 0 output)
    (hplaced : s.placed = true) {e : Element} (he : s.content = .element e) :
    ⟨e, elementId b output s.number, s.scope⟩ ∈ (lay b output exported).elements := by
  rw [elements_lay]
  refine List.mem_filterMap.mpr ⟨s, hs, ?_⟩
  rw [Site.placed?, he]
  exact if_pos hplaced

lemma controls_lay (exported : List String) : (lay b output exported).controls =
    (sitesIn [] 0 output).filterMap (Site.control? (groupId b output)) := by
  refine (addExported_kept _ _ _).2.trans ?_
  refine (congrArg Layout.controls (walk_eq_foldl b output)).trans ?_
  rw [(foldl_perform (drawsGroups_root b output) (drawsElements_root b output)).2]
  rfl

end Layout

end ComponentFlow
