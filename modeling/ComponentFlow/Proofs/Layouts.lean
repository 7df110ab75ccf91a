import ComponentFlow.Assembly.Layout
import ComponentFlow.Proofs.Builds
import Mathlib.Tactic.Set

/-!
# The layout of markup in a build

Laying out markup adds a node for each element that needs one and a group for each branch and loop.
Both only need free ids, for a group is only ever opened inside another group of the layout. This is
the invariant of the walk over the markup (`Layout.Inv`): the group of every frame still to be
visited is there and belongs to the layout.

The walk also keeps the groups of the layout apart from those that were there before (`Laid`): they
come later, they have ids of their own, and each of them is a member of its parent, which is a group
of the layout, too. This is what makes it safe to take out the empty ones.
-/

namespace ComponentFlow

/-! ## Groups of a layout -/

/-- Groups that a layout has added to a diagram. -/
structure Laid (old : Diagram) (new : List Group) : Prop where
  apart : ∀ g ∈ new, g.id ∉ old.ids
  stem : ∀ g ∈ new, ∃ k, g.id = Session.idOf "subgraph" k
  listed : ∀ g ∈ new, ∀ p, g.parent = some p → ∃ q ∈ new, q.id = p ∧ g.id ∈ q.members

/-- A diagram whose groups are those of another one and those of a layout. -/
def Diagram.LaidOver (old d : Diagram) : Prop :=
  ∃ new, d.groups = old.groups ++ new ∧ Laid old new

namespace Diagram

variable {old d d' : Diagram}

lemma LaidOver.of_groups_eq (h : LaidOver old d) (hgroups : d'.groups = d.groups) :
    LaidOver old d' := by
  obtain ⟨new, heq, hlaid⟩ := h
  exact ⟨new, hgroups.trans heq, hlaid⟩

/-- A group of the layout may change, as long as it keeps its id, its parent and its members. -/
lemma LaidOver.modifyGroup {id : String} {f : Group → Group} (h : LaidOver old d)
    (hid : id ∉ old.groupIds) (hf : ∀ g, (f g).id = g.id ∧ (f g).parent = g.parent)
    (hmembers : ∀ g, g.members ⊆ (f g).members) : LaidOver old (d.modifyGroup id f) := by
  obtain ⟨new, heq, hlaid⟩ := h
  have hkept : ∀ g : Group, (if g.id == id then f g else g).id = g.id ∧
      (if g.id == id then f g else g).parent = g.parent ∧
      g.members ⊆ (if g.id == id then f g else g).members := by
    intro g
    split
    · exact ⟨(hf g).1, (hf g).2, hmembers g⟩
    · exact ⟨rfl, rfl, List.Subset.refl _⟩
  refine ⟨new.map fun g => if g.id == id then f g else g, ?_, ?_, ?_, ?_⟩
  · have hold : (old.groups.map fun g => if g.id == id then f g else g) = old.groups := by
      refine (List.map_congr_left fun g hg => ?_).trans (List.map_id old.groups)
      have hne : g.id ≠ id := fun heq => hid (heq ▸ List.mem_map_of_mem hg)
      simp [hne]
    rw [Diagram.modifyGroup, heq, List.map_append, hold]
  · intro g hg
    obtain ⟨g, hmem, rfl⟩ := List.mem_map.mp hg
    rw [(hkept g).1]
    exact hlaid.apart g hmem
  · intro g hg
    obtain ⟨g, hmem, rfl⟩ := List.mem_map.mp hg
    rw [(hkept g).1]
    exact hlaid.stem g hmem
  · intro g hg p hp
    obtain ⟨g, hmem, rfl⟩ := List.mem_map.mp hg
    rw [(hkept g).2.1] at hp
    obtain ⟨q, hq, rfl, hlisted⟩ := hlaid.listed g hmem p hp
    refine ⟨_, List.mem_map_of_mem hq, (hkept q).1, ?_⟩
    rw [(hkept g).1]
    exact (hkept q).2.2 hlisted

/-- A group may be added under a new id, if its parent is a group of the layout that has it as a
member. -/
lemma LaidOver.append {g : Group} (h : LaidOver old d) (hd' : d'.groups = d.groups ++ [g])
    (hid : g.id ∉ old.ids) (hstem : ∃ k, g.id = Session.idOf "subgraph" k)
    (hparent : ∀ p, g.parent = some p →
      p ∉ old.groupIds ∧ ∃ q ∈ d.groups, q.id = p ∧ g.id ∈ q.members) : LaidOver old d' := by
  obtain ⟨new, heq, hlaid⟩ := h
  refine ⟨new ++ [g], by rw [hd', heq, List.append_assoc], ?_, ?_, ?_⟩
  · exact List.forall_mem_append.mpr ⟨hlaid.apart, List.forall_mem_singleton.mpr hid⟩
  · exact List.forall_mem_append.mpr ⟨hlaid.stem, List.forall_mem_singleton.mpr hstem⟩
  · refine List.forall_mem_append.mpr ⟨fun g' hg' p hp => ?_, List.forall_mem_singleton.mpr ?_⟩
    · obtain ⟨q, hq, hqp⟩ := hlaid.listed g' hg' p hp
      exact ⟨q, List.mem_append_left _ hq, hqp⟩
    · intro p hp
      obtain ⟨hapart, q, hq, rfl, hlisted⟩ := hparent p hp
      rw [heq] at hq
      obtain hq | hq := List.mem_append.mp hq
      · exact absurd (List.mem_map_of_mem hq) hapart
      · exact ⟨q, List.mem_append_left _ hq, rfl, hlisted⟩

end Diagram

/-! ## Steps of a layout -/

namespace Build

/-- A build while markup is laid out, from the one before. -/
structure Laying (b₀ b : Build) : Prop where
  coherent : b₀.diagram.Coherent
  grows : Grows true True [] b₀ b
  laid : Diagram.LaidOver b₀.diagram b.diagram

/-- Whether a group is one of the layout. -/
def Inside (b₀ b : Build) (group : String) : Prop :=
  b.Live → group ∈ b.diagram.groupIds ∧ group ∉ b₀.diagram.groupIds

variable {b₀ b b' : Build}

lemma laying_refl (h : b.diagram.Coherent) : Laying b b where
  coherent := h
  grows := Grows.refl true b
  laid := ⟨[], by simp, by simp, by simp, by simp⟩

lemma Inside.mono {group : String} (h : Inside b₀ b group) (hgrows : Grows true True [] b b') :
    Inside b₀ b' group := by
  intro hlive
  obtain ⟨hgroup, hapart⟩ := h (hgrows.live.mp hlive).1
  exact ⟨hgrows.edits.mem_groupIds hgroup, hapart⟩

/-- A group of the layout has an id that no node had before. -/
lemma Inside.not_mem_ids {group : String} (h : Inside b₀ b group) (hlaying : Laying b₀ b)
    (hlive : b.Live) : group ∉ b₀.diagram.ids := by
  obtain ⟨new, hgroups, hlaid⟩ := hlaying.laid
  obtain ⟨hgroup, hold⟩ := h hlive
  obtain ⟨g, hg, rfl⟩ := List.mem_map.mp hgroup
  obtain hg | hg := List.mem_append.mp (hgroups ▸ hg)
  · exact absurd (List.mem_map_of_mem hg) hold
  · exact hlaid.apart g hg

/-- A step that leaves the groups as they are. -/
lemma Laying.of_grows (h : Laying b₀ b) (hgrows : Grows false True [] b b') : Laying b₀ b' where
  coherent := h.coherent
  grows := h.grows.append hgrows.laying
  laid := h.laid.of_groups_eq hgrows.edits.groups_eq

lemma diagram_modifyGroup_of_live (hlive : b.Live) (group : String) (f : Group → Group) :
    (b.modifyGroup group f).diagram = b.diagram.modifyGroup group f := by
  rw [Build.modifyGroup, change]
  rw [Live] at hlive
  rw [hlive]
  rfl

lemma diagram_annotate_of_live (hlive : b.Live) (id key : String) (value : Value) :
    (b.annotate id key value).diagram = b.diagram.modifyNode id fun n =>
      { n with metadata := n.metadata.set key value } := by
  rw [annotate, Build.modifyNode, change]
  rw [Live] at hlive
  rw [hlive]
  rfl

lemma modifyGroup_of_not_live (hlive : ¬ b.Live) (group : String) (f : Group → Group) :
    b.modifyGroup group f = b := by
  obtain ⟨-, heq⟩ | ⟨hlive', -⟩ | ⟨hlive', -⟩ :=
    b.change_cases fun d => .ok (d.modifyGroup group f)
  · exact heq
  · exact absurd hlive' hlive
  · exact absurd hlive' hlive

/-- A change of a group of the layout. -/
lemma Laying.modifyGroup {group : String} {f : Group → Group} (h : Laying b₀ b)
    (hgroup : Inside b₀ b group) (hf : ∀ g, (f g).id = g.id ∧ (f g).parent = g.parent)
    (hmembers : ∀ g, g.members ⊆ (f g).members) : Laying b₀ (b.modifyGroup group f) where
  coherent := h.coherent
  grows := h.grows.append (grows_modifyGroup b group hf)
  laid := by
    by_cases hlive : b.Live
    · rw [diagram_modifyGroup_of_live hlive]
      exact h.laid.modifyGroup (hgroup hlive).2 hf hmembers
    · rw [modifyGroup_of_not_live hlive]
      exact h.laid

lemma Laying.addMember {group : String} (h : Laying b₀ b) (hgroup : Inside b₀ b group)
    (id : String) : Laying b₀ (b.addMember group id) :=
  h.modifyGroup hgroup (fun _ => ⟨rfl, rfl⟩) fun g => List.subset_append_left g.members [id]

lemma openGroup_fst (b : Build) (label : String) (parent : Option String) (kind : String)
    (metadata : Metadata) : (b.openGroup label parent kind metadata).1 =
      Session.idOf "subgraph" (b.session.count "subgraph") := by
  cases parent <;> rfl

/-- The group that is opened next. -/
def newGroup (b : Build) (label : String) (parent : Option String) (kind : String)
    (metadata : Metadata) : Group :=
  { id := Session.idOf "subgraph" (b.session.count "subgraph"), label, parent, kind, metadata }

/-- What opening a group can come to. -/
lemma openGroup_cases (b : Build) (label : String) (parent : Option String) (kind : String)
    (metadata : Metadata) :
    (¬ (b.openGroup label parent kind metadata).2.Live ∧
        (b.openGroup label parent kind metadata).2.diagram = b.diagram) ∨
      b.Live ∧ ∃ d', b.diagram.addGroup (b.newGroup label parent kind metadata) = .ok d' ∧
        (b.openGroup label parent kind metadata).2.diagram = parent.elim d' fun p =>
          d'.modifyGroup p fun q =>
            { q with members := q.members ++ [(b.newGroup label parent kind metadata).id] } := by
  set g : Group := b.newGroup label parent kind metadata with hg
  have hstopped : ∀ b' : Build, ¬ b'.Live → ∀ p, b'.addMember p g.id = b' :=
    fun b' hlive p => modifyGroup_of_not_live hlive p _
  have hopen : b.openGroup label parent kind metadata =
      (g.id, parent.elim ((b.nextId "subgraph").2.change (·.addGroup g)) fun p =>
        ((b.nextId "subgraph").2.change (·.addGroup g)).addMember p g.id) := by
    cases parent <;> rfl
  rw [hopen]
  obtain ⟨hlive, heq⟩ | ⟨hlive, d', hok, heq⟩ | ⟨hlive, e, -, heq⟩ :=
    (b.nextId "subgraph").2.change_cases (·.addGroup g)
  · left
    rw [heq]
    cases parent with
    | none => exact ⟨hlive, rfl⟩
    | some p => simpa [hstopped _ hlive] using ⟨hlive, rfl⟩
  · right
    refine ⟨hlive, d', hok, ?_⟩
    rw [heq]
    cases parent with
    | none => rfl
    | some p => exact diagram_modifyGroup_of_live (by exact hlive) p _
  · left
    rw [heq]
    have hlive : ¬ Live { (b.nextId "subgraph").2 with refusal := some e } := by simp [Live]
    cases parent with
    | none => exact ⟨hlive, rfl⟩
    | some p => simpa [hstopped _ hlive] using ⟨hlive, rfl⟩

/-- A new group, inside a group of the layout or outside of all. -/
lemma Laying.openGroup (h : Laying b₀ b) (label : String) {parent : Option String} (kind : String)
    (metadata : Metadata) (hparent : ∀ p, parent = some p → Inside b₀ b p) :
    Laying b₀ (b.openGroup label parent kind metadata).2 ∧
      Grows true True [] b (b.openGroup label parent kind metadata).2 ∧
      Inside b₀ (b.openGroup label parent kind metadata).2
        (b.openGroup label parent kind metadata).1 := by
  have hgrows : Grows true True [] b (b.openGroup label parent kind metadata).2 :=
    (grows_openGroup b label parent kind metadata).congr fun hlive _ =>
      ⟨fun _ => trivial, fun _ p hp => (hparent p hp hlive).1⟩
  have hid : (b.newGroup label parent kind metadata).id =
      (b.openGroup label parent kind metadata).1 :=
    (b.openGroup_fst label parent kind metadata).symm
  have hgparent : (b.newGroup label parent kind metadata).parent = parent := rfl
  obtain ⟨hstopped, heq⟩ | ⟨hlive, d', hok, heq⟩ := b.openGroup_cases label parent kind metadata
  · exact ⟨⟨h.coherent, h.grows.append hgrows, by rw [heq]; exact h.laid⟩, hgrows,
      fun hlive => absurd hlive hstopped⟩
  generalize b.newGroup label parent kind metadata = g at hid hgparent hok heq
  -- the new id is not taken, so no group has it
  have hcoherent := h.grows.edits.coherent h.coherent
  obtain ⟨hknown, hfree, rfl⟩ := Diagram.addGroup_eq_ok_iff.mp hok
  have hgroup : g.id ∉ b.diagram.groupIds := fun hmem =>
    hfree (hcoherent.groups_sublist.subset hmem)
  have hold : g.id ∉ b₀.diagram.ids := fun hmem => hfree (h.grows.edits.mem_ids hmem)
  have hstem : ∃ k, g.id = Session.idOf "subgraph" k :=
    ⟨_, hid.trans (b.openGroup_fst label parent kind metadata)⟩
  have hlaid : Diagram.LaidOver b₀.diagram (b.openGroup label parent kind metadata).2.diagram ∧
      g.id ∈ (b.openGroup label parent kind metadata).2.diagram.groupIds := by
    rw [heq]
    cases parent with
    | none =>
      refine ⟨h.laid.append rfl hold hstem ?_, by simp [Diagram.groupIds]⟩
      intro p hp
      rw [hgparent] at hp
      cases hp
    | some p =>
      obtain ⟨hmem, hapart⟩ := hparent p rfl hlive
      have hne : g.id ≠ p := fun heq => hgroup (heq ▸ hmem)
      have henrolled : Diagram.LaidOver b₀.diagram
          (b.diagram.modifyGroup p fun q => { q with members := q.members ++ [g.id] }) :=
        h.laid.modifyGroup hapart (fun _ => ⟨rfl, rfl⟩)
          fun q => List.subset_append_left q.members [g.id]
      refine ⟨henrolled.append ?_ hold hstem ?_, ?_⟩
      · simp [Diagram.modifyGroup, hne]
      · intro p' hp'
        obtain rfl : p = p' := Option.some.inj (hgparent.symm.trans hp')
        obtain ⟨q, hq, rfl⟩ := List.mem_map.mp hmem
        exact ⟨hapart, _, List.mem_map_of_mem hq, by simp, by simp⟩
      · rw [Option.elim_some, Diagram.groupIds_modifyGroup]
        · simp [Diagram.groupIds]
        · exact fun _ => rfl
  refine ⟨⟨h.coherent, h.grows.append hgrows, hlaid.1⟩, hgrows, fun _ => ?_⟩
  rw [← hid]
  exact ⟨hlaid.2, fun hmem => hold (h.coherent.groups_sublist.subset hmem)⟩

end Build

/-! ## The walk over the markup -/

namespace Layout

open Build

/-- The invariant of the walk, with the groups that are still in use. -/
structure Inv (b₀ : Build) (l : Layout) (groups : List String) : Prop where
  laying : Laying b₀ l.build
  elements : ∀ p ∈ l.elements,
    (∃ k, p.id = Session.idOf "jsx" k) ∧ b₀.session.Draws l.build.session p.id
  controls : ∀ c ∈ l.controls, Inside b₀ l.build c.group
  inside : ∀ group ∈ groups, Inside b₀ l.build group

variable {b₀ : Build} {l : Layout} {groups : List String}

/-- The build may go on while nothing is noted about it. -/
lemma Inv.goOn {b : Build} (h : Inv b₀ l groups) (hlaying : Laying b₀ b)
    (hgrows : Grows true True [] l.build b) : Inv b₀ { l with build := b } groups where
  laying := hlaying
  elements := fun p hp => ⟨(h.elements p hp).1, (h.elements p hp).2.mono hgrows.counts⟩
  controls := fun c hc => (h.controls c hc).mono hgrows
  inside := fun g hg => (h.inside g hg).mono hgrows

lemma Inv.control {group : String} (h : Inv b₀ l groups) (hgroup : Inside b₀ l.build group)
    (references : List String) (label : String) :
    Inv b₀ { l with controls := l.controls ++ [⟨group, references, label⟩] } groups where
  laying := h.laying
  elements := h.elements
  controls := List.forall_mem_append.mpr ⟨h.controls, List.forall_mem_singleton.mpr hgroup⟩
  inside := h.inside

/-- Further frames in a group of the layout. -/
lemma Inv.descend {group : String} (h : Inv b₀ l groups) (hgroup : Inside b₀ l.build group)
    (kind : GroupKind) (forced : Bool) (scope : Scope) (nodes : List RenderNode) :
    Inv b₀ l ((frames group kind forced scope nodes).map (·.group) ++ groups) where
  laying := h.laying
  elements := h.elements
  controls := h.controls
  inside := by
    refine List.forall_mem_append.mpr ⟨fun g hg => ?_, h.inside⟩
    obtain ⟨f, hf, rfl⟩ := List.mem_map.mp hg
    obtain ⟨node, -, rfl⟩ := List.mem_map.mp hf
    exact hgroup

lemma Inv.place (h : Inv b₀ l groups) {group : String} (hgroup : Inside b₀ l.build group)
    (e : Element)
    (scope : Scope) : Inv b₀ (l.place e group scope) groups := by
  simp only [Layout.place]
  have hnode := grows_addNode false l.build (e.sketch group)
  have hid := draws_addNode l.build (e.sketch group)
  have hlaying := h.laying.of_grows hnode
  have hmember := grows_addMember (l.build.addNode (e.sketch group)).2 group
    (l.build.addNode (e.sketch group)).1
  have hon := (h.goOn hlaying hnode.laying).goOn
    (hlaying.addMember (hgroup.mono hnode.laying) _) hmember
  refine ⟨hon.laying, List.forall_mem_append.mpr ⟨hon.elements, ?_⟩, hon.controls, hon.inside⟩
  refine List.forall_mem_singleton.mpr ⟨⟨_, rfl⟩, ?_⟩
  exact (hid.of_le h.laying.grows.counts).mono hmember.counts

lemma Inv.openBranch (h : Inv b₀ l groups) {group : String} (hgroup : Inside b₀ l.build group)
    (c : Condition) (negated : Bool) (scope : Scope) :
    Inv b₀ (l.openBranch c negated group scope).2 groups ∧
      Grows true True [] l.build (l.openBranch c negated group scope).2.build ∧
      Inside b₀ (l.openBranch c negated group scope).2.build
        (l.openBranch c negated group scope).1 := by
  have hparent : ∀ p, some group = some p → Inside b₀ l.build p := fun p hp =>
    Option.some.inj hp ▸ hgroup
  obtain ⟨hlaying, hgrows, hinside⟩ := h.laying.openGroup (conditionLabel c.expression negated)
    GroupKind.conditional.name
    [("expression", .str c.expression), ("negated", .bool negated)] hparent
  exact ⟨(h.goOn hlaying hgrows).control hinside _ _, hgrows, hinside⟩

lemma Inv.enterBranch (h : Inv b₀ l groups) {group : String} (hgroup : Inside b₀ l.build group)
    (c : Condition) (negated : Bool) (scope : Scope) (nodes : List RenderNode) :
    Inv b₀ (l.enterBranch c negated group scope nodes).1
        ((l.enterBranch c negated group scope nodes).2.map (·.group) ++ groups) ∧
      Grows true True [] l.build (l.enterBranch c negated group scope nodes).1.build := by
  cases nodes with
  | nil => exact ⟨h, Grows.refl true l.build⟩
  | cons n rest =>
    obtain ⟨hinv, hgrows, hinside⟩ := h.openBranch hgroup c negated scope
    exact ⟨hinv.descend hinside _ _ _ _, hgrows⟩

lemma Inv.enterLoop (h : Inv b₀ l groups) {group : String} (hgroup : Inside b₀ l.build group)
    (head : LoopHead) (kind : GroupKind) (scope : Scope) :
    Inv b₀ (l.enterLoop head group kind scope).2 groups ∧
      Inside b₀ (l.enterLoop head group kind scope).2.build
        (l.enterLoop head group kind scope).1 := by
  have hparent : ∀ p, some group = some p → Inside b₀ l.build p := fun p hp =>
    Option.some.inj hp ▸ hgroup
  have hopen := h.laying.openGroup "\x7bloop\x7d" GroupKind.loop.name
    [("collection", .str head.collection)] hparent
  obtain ⟨hlaying, hgrows, hinside⟩ := hopen
  have hopened := (h.goOn hlaying hgrows).control hinside (loopVariables head scope) "iterates over"
  cases kind with
  | loop =>
    -- the loop joins the group around it, of which only a further record is made
    have hnoted : Laying b₀ (joinLoop l.build head group) := by
      refine Laying.of_grows ?_ (grows_record false _ _ _ _)
      exact h.laying.modifyGroup hgroup (fun _ => ⟨rfl, rfl⟩) fun g => List.Subset.refl g.members
    have hgrows : Grows true True [] l.build (joinLoop l.build head group) := by
      refine Grows.append ?_ (grows_record true _ _ _ _)
      exact grows_modifyGroup l.build group fun _ => ⟨rfl, rfl⟩
    have hinside := hgroup.mono hgrows
    exact ⟨(h.goOn hnoted hgrows).control hinside (loopVariables head scope) "iterates over",
      hinside⟩
  | output => exact ⟨hopened, hinside⟩
  | conditional => exact ⟨hopened, hinside⟩
  | exported => exact ⟨hopened, hinside⟩

/-- A visit keeps the invariant, and the frames below the visited one take its place. -/
lemma Inv.visit {f : Frame} (h : Inv b₀ l (f.group :: groups)) :
    Inv b₀ (l.visit f).1 ((l.visit f).2.map (·.group) ++ groups) := by
  have hgroup := h.inside f.group (by simp)
  have hrest : Inv b₀ l groups :=
    ⟨h.laying, h.elements, h.controls, fun g hg => h.inside g (List.mem_cons_of_mem _ hg)⟩
  unfold Layout.visit
  split
  · rename_i e children _
    have hbelow := hrest.descend hgroup f.kind false f.scope children
    split
    · exact hbelow.place hgroup e f.scope
    · exact hbelow
  · rename_i c whenTrue whenFalse _
    obtain ⟨htrue, hgrows⟩ := hrest.enterBranch hgroup c false f.scope whenTrue
    obtain ⟨hfalse, -⟩ := htrue.enterBranch (hgroup.mono hgrows) c true f.scope whenFalse
    refine ⟨hfalse.laying, hfalse.elements, hfalse.controls, fun g hg => hfalse.inside g ?_⟩
    simp only [List.map_append, List.mem_append] at hg ⊢
    rcases hg with (hg | hg) | hg
    · exact .inr (.inl hg)
    · exact .inl hg
    · exact .inr (.inr hg)
  · rename_i head body _
    obtain ⟨hinv, hinside⟩ := hrest.enterLoop hgroup head f.kind f.scope
    exact hinv.descend hinside _ _ _ _

lemma Inv.walk {fs : List Frame} (h : Inv b₀ l (fs.map (·.group) ++ groups)) :
    Inv b₀ (l.walk fs) groups := by
  fun_induction Layout.walk l fs with
  | case1 l => exact h
  | case2 l f rest ih =>
    refine ih ?_
    rw [List.map_append, List.append_assoc]
    exact h.visit

lemma laying_addHandlers {b : Build} {group : String} (h : Laying b₀ b) (hgroup : Inside b₀ b group)
    (handlers : List String) :
    Laying b₀ (handlers.foldl (addHandlerTo group) b) ∧
      Grows true True [] b (handlers.foldl (addHandlerTo group) b) := by
  induction handlers generalizing b with
  | nil => exact ⟨h, Grows.refl true b⟩
  | cons id rest ih =>
    have hmember := grows_addMember b group id
    have hnote := grows_annotate false (b.addMember group id) id (.str group)
      (by simp [noteKeys] : "subgraph" ∈ noteKeys)
    have hgrows : Grows true True [] b (addHandlerTo group b id) := hmember.append hnote.laying
    obtain ⟨hlaying, hrest⟩ :=
      ih ((h.addMember hgroup id).of_grows hnote) (hgroup.mono hgrows)
    exact ⟨hlaying, hgrows.append hrest⟩

lemma Inv.addExported {root : String} (h : Inv b₀ l groups) (hroot : Inside b₀ l.build root)
    (handlers : List String) : Inv b₀ (l.addExported root handlers) groups := by
  rw [Layout.addExported]
  split
  · exact h
  have hparent : ∀ p, some root = some p → Inside b₀ l.build p := fun p hp =>
    Option.some.inj hp ▸ hroot
  obtain ⟨hlaying, hgrows, hinside⟩ :=
    h.laying.openGroup "exported handlers" GroupKind.exported.name [] hparent
  obtain ⟨hlaying', hgrows'⟩ := laying_addHandlers hlaying hinside handlers
  exact h.goOn hlaying' (hgrows.append hgrows')

/-- **The layout of markup.** It only needs free ids. Its elements and groups have ids drawn on the
way, and its groups are kept apart from those that were there before. -/
lemma inv_lay {b : Build} (h : b.diagram.Coherent) (output : List RenderNode)
    (exported : List String) : Inv b (Layout.lay b output exported) [] := by
  have hnone : ∀ p, none = some p → Inside b b p := by
    intro p hp
    cases hp
  obtain ⟨hlaying, hgrows, hroot⟩ :=
    (laying_refl h).openGroup "JSX Output" GroupKind.output.name [] hnone
  -- the root stays in use, for the exported handlers are put into it after the walk
  have hstart : Inv b { build := (b.openGroup "JSX Output" none GroupKind.output.name []).2 }
      [(b.openGroup "JSX Output" none GroupKind.output.name []).1] :=
    ⟨hlaying, by simp, by simp, by simpa using hroot⟩
  have hwalk := (hstart.descend hroot .output false [] output).walk
  have hlay := hwalk.addExported (hwalk.inside _ (List.mem_singleton_self _)) exported
  exact ⟨hlay.laying, hlay.elements, hlay.controls, by simp⟩

end Layout

end ComponentFlow
