import ComponentFlow.Proofs.Traversal
import Mathlib.Data.List.Nodup

/-!
# Places of the markup

Every place of the markup, with all that it is inside of (`sitesIn`), in the order in which markup
is laid out: an element before its children, both branches of a conditional before what is in them,
and a loop before its body. A place is known by its number in this order.

What the walk over the markup carries along from frame to frame is a function of what a place is
inside of: the kind of group, the group itself, the loop items in scope, and whether an element is
shown in any case. The group is that of the nearest branch or loop around, except that a loop in a
loop, elements apart, has no group of its own (`homeOf`).
-/

namespace ComponentFlow

/-- What stands at a place of the markup. -/
inductive Content where
  | element (e : Element)
  | branch (c : Condition) (negated : Bool) (nodes : List RenderNode)
  | loop (head : LoopHead)

namespace Content

/-- Whether it is an element. -/
def isElement : Content → Bool
  | .element _ => true
  | _ => false

/-- Whether it is a branch. -/
def isBranch : Content → Bool
  | .branch _ _ _ => true
  | _ => false

/-- Whether it is a loop. -/
def isLoop : Content → Bool
  | .loop _ => true
  | _ => false

end Content

/-- A place of the markup by its number. -/
structure Spot where
  number : Nat
  content : Content

/-- A place of the markup, with all that it is inside of, the innermost first. -/
structure Site extends Spot where
  around : List Spot

mutual

/-- The places of a render node, numbered from `n` on. -/
def RenderNode.sites (around : List Spot) (n : Nat) : RenderNode → List Site
  | .element e children =>
    ⟨⟨n, .element e⟩, around⟩ :: sitesIn (⟨n, .element e⟩ :: around) (n + 1) children
  | .conditional c whenTrue whenFalse =>
    let inTrue := sitesIn (⟨n, .branch c false whenTrue⟩ :: around) (n + 2) whenTrue
    ⟨⟨n, .branch c false whenTrue⟩, around⟩ :: ⟨⟨n + 1, .branch c true whenFalse⟩, around⟩ ::
      (inTrue ++ sitesIn (⟨n + 1, .branch c true whenFalse⟩ :: around) (n + 2 + inTrue.length)
        whenFalse)
  | .loop head body =>
    ⟨⟨n, .loop head⟩, around⟩ :: sitesIn (⟨n, .loop head⟩ :: around) (n + 1) body
termination_by structural node => node

/-- The places of several render nodes. -/
def sitesIn (around : List Spot) (n : Nat) : List RenderNode → List Site
  | [] => []
  | node :: rest =>
    node.sites around n ++ sitesIn around (n + (node.sites around n).length) rest
termination_by structural nodes => nodes

end

/-! ## What follows from what is around -/

/-- The kind of group that a place is in. -/
def kindOf : List Spot → GroupKind
  | [] => .output
  | ⟨_, .element _⟩ :: outer => kindOf outer
  | ⟨_, .branch _ _ _⟩ :: _ => .conditional
  | ⟨_, .loop _⟩ :: _ => .loop

/-- The number of the place whose group a place is in. There is none for the outermost group. -/
def homeOf : List Spot → Option Nat
  | [] => none
  | ⟨_, .element _⟩ :: outer => homeOf outer
  | ⟨n, .branch _ _ _⟩ :: _ => some n
  | ⟨n, .loop _⟩ :: outer => if kindOf outer = .loop then homeOf outer else some n

/-- The loop items in scope. -/
def scopeOf : List Spot → Scope
  | [] => []
  | ⟨_, .element _⟩ :: outer => scopeOf outer
  | ⟨_, .branch _ _ _⟩ :: outer => scopeOf outer
  | ⟨_, .loop head⟩ :: outer => Layout.bodyScope head (scopeOf outer)

/-- Whether an element is shown in any case. -/
def forcedBy : List Spot → Bool
  | ⟨_, .branch _ _ nodes⟩ :: _ => Layout.isBare nodes
  | _ => false

namespace Site

/-- The place whose group a place is in. -/
def home (s : Site) : Option Nat := homeOf s.around

/-- Whether a group is opened for a place. -/
def opens (s : Site) : Bool :=
  match s.content with
  | .element _ => false
  | .branch _ _ nodes => !nodes.isEmpty
  | .loop _ => kindOf s.around != .loop

/-- Whether the place is that of an element with a node. -/
def placed (s : Site) : Bool :=
  match s.content with
  | .element e => e.hasBindings || forcedBy s.around
  | _ => false

end Site

/-! ## Numbers -/

mutual

lemma RenderNode.number_sites (around : List Spot) (n : Nat) (node : RenderNode) :
    (node.sites around n).map (·.number) = List.range' n (node.sites around n).length := by
  cases node with
  | element e children =>
    simp only [RenderNode.sites, List.map_cons, List.length_cons, List.range'_succ]
    rw [number_sitesIn]
  | conditional c whenTrue whenFalse =>
    simp only [RenderNode.sites, List.map_cons, List.map_append, List.length_cons,
      List.length_append, List.range'_succ]
    rw [number_sitesIn, number_sitesIn, List.range'_append_1]
  | loop head body =>
    simp only [RenderNode.sites, List.map_cons, List.length_cons, List.range'_succ]
    rw [number_sitesIn]

/-- Places are numbered without a gap. -/
lemma number_sitesIn (around : List Spot) (n : Nat) (nodes : List RenderNode) :
    (sitesIn around n nodes).map (·.number) =
      List.range' n (sitesIn around n nodes).length := by
  cases nodes with
  | nil => rfl
  | cons node rest =>
    rw [sitesIn, List.map_append, List.length_append, RenderNode.number_sites, number_sitesIn,
      List.range'_append_1]

end

lemma le_number_of_mem {around : List Spot} {n : Nat} {nodes : List RenderNode} {s : Site}
    (hs : s ∈ sitesIn around n nodes) : n ≤ s.number := by
  have hnumber : s.number ∈ (sitesIn around n nodes).map (·.number) :=
    List.mem_map_of_mem hs
  rw [number_sitesIn] at hnumber
  exact (List.mem_range'_1.mp hnumber).1

lemma ne_nil_of_mem_sitesIn {around : List Spot} {n : Nat} {nodes : List RenderNode} {s : Site}
    (hs : s ∈ sitesIn around n nodes) : nodes ≠ [] := by
  rintro rfl
  cases hs

/-- A place is known by its number. -/
lemma site_ext_of_mem {around : List Spot} {n : Nat} {nodes : List RenderNode} {s t : Site}
    (hs : s ∈ sitesIn around n nodes) (ht : t ∈ sitesIn around n nodes)
    (h : s.number = t.number) : s = t := by
  refine List.inj_on_of_nodup_map (f := fun s : Site => s.number) ?_ hs ht h
  rw [number_sitesIn]
  exact List.nodup_range'

/-! ## What is around -/

/-- Whether something can be inside: all but an empty branch. -/
def Content.Holds : Content → Prop
  | .branch _ _ nodes => nodes ≠ []
  | _ => True

/-- What holds of the places of markup by induction on its depth: `top` is the case of the places
that are not inside of others, and `inner` leads one level further out. -/
structure Hereditary (P : List Spot → List Site → Site → Prop) : Prop where
  top : ∀ {around sites s}, s ∈ sites → s.around = around →
    (∀ c negated nodes, s.content = .branch c negated nodes →
      ∃ m, sitesIn (s.toSpot :: around) m nodes ⊆ sites) → P around sites s
  inner : ∀ {around sites inside s} {spot : Spot}, ⟨spot, around⟩ ∈ sites → spot.content.Holds →
    (∀ t ∈ inside, spot.number < t.number) → inside ⊆ sites → s ∈ inside →
      P (spot :: around) inside s → P around sites s

mutual

lemma RenderNode.site_induction {P : List Spot → List Site → Site → Prop} (h : Hereditary P)
    {around : List Spot} {n : Nat} {node : RenderNode} {sites : List Site}
    (hsites : node.sites around n ⊆ sites) {s : Site} (hs : s ∈ node.sites around n) :
    P around sites s := by
  cases node with
  | element e children =>
    simp only [RenderNode.sites] at hs hsites
    obtain ⟨hhere, hinside⟩ := List.cons_subset.mp hsites
    obtain rfl | hs := List.mem_cons.mp hs
    · exact h.top hhere rfl (by simp)
    · exact h.inner hhere trivial (fun t ht => le_number_of_mem ht) hinside hs
        (site_induction h (List.Subset.refl _) hs)
  | conditional c whenTrue whenFalse =>
    simp only [RenderNode.sites] at hs hsites
    obtain ⟨htrue, hsites⟩ := List.cons_subset.mp hsites
    obtain ⟨hfalse, hsites⟩ := List.cons_subset.mp hsites
    obtain ⟨hinTrue, hinFalse⟩ := List.append_subset.mp hsites
    obtain rfl | hs := List.mem_cons.mp hs
    · refine h.top htrue rfl fun c negated nodes hcontent => ?_
      cases hcontent
      exact ⟨_, hinTrue⟩
    obtain rfl | hs := List.mem_cons.mp hs
    · refine h.top hfalse rfl fun c negated nodes hcontent => ?_
      cases hcontent
      exact ⟨_, hinFalse⟩
    obtain hs | hs := List.mem_append.mp hs
    · refine h.inner htrue (ne_nil_of_mem_sitesIn hs) (fun t ht => ?_) hinTrue hs
        (site_induction h (List.Subset.refl _) hs)
      exact Nat.lt_of_lt_of_le (Nat.lt_succ_of_lt (Nat.lt_succ_self n)) (le_number_of_mem ht)
    · refine h.inner hfalse (ne_nil_of_mem_sitesIn hs) (fun t ht => ?_) hinFalse hs
        (site_induction h (List.Subset.refl _) hs)
      exact Nat.lt_of_lt_of_le (Nat.lt_of_lt_of_le (Nat.lt_succ_self (n + 1))
        (Nat.le_add_right _ _)) (le_number_of_mem ht)
  | loop head body =>
    simp only [RenderNode.sites] at hs hsites
    obtain ⟨hhere, hinside⟩ := List.cons_subset.mp hsites
    obtain rfl | hs := List.mem_cons.mp hs
    · exact h.top hhere rfl (by simp)
    · exact h.inner hhere trivial (fun t ht => le_number_of_mem ht) hinside hs
        (site_induction h (List.Subset.refl _) hs)

/-- Induction over the places of markup. -/
lemma site_induction {P : List Spot → List Site → Site → Prop} (h : Hereditary P)
    {around : List Spot} {n : Nat} {nodes : List RenderNode} {sites : List Site}
    (hsites : sitesIn around n nodes ⊆ sites) {s : Site} (hs : s ∈ sitesIn around n nodes) :
    P around sites s := by
  cases nodes with
  | nil => cases hs
  | cons node rest =>
    rw [sitesIn] at hs hsites
    obtain ⟨hfirst, hrest⟩ := List.append_subset.mp hsites
    obtain hs | hs := List.mem_append.mp hs
    · exact RenderNode.site_induction h hfirst hs
    · exact site_induction h hrest hs

end

/-- Whether something is inside of places alone, down from a base. -/
inductive Under (sites : List Site) (base : List Spot) : List Spot → Prop
  | base : Under sites base base
  | inner {spot : Spot} {outer : List Spot} (h : Under sites base outer)
      (hmem : ⟨spot, outer⟩ ∈ sites) (hholds : spot.content.Holds) :
      Under sites base (spot :: outer)

namespace Under

variable {sites sites' : List Site} {base around : List Spot}

/-- One level further out. -/
lemma enter {spot : Spot} (h : Under sites (spot :: base) around) (hmem : ⟨spot, base⟩ ∈ sites')
    (hholds : spot.content.Holds) (hsites : sites ⊆ sites') : Under sites' base around := by
  induction h with
  | base => exact .inner .base hmem hholds
  | inner _ hmem' hholds' ih => exact .inner ih (hsites hmem') hholds'

/-- What a place is inside of is a place. -/
lemma mem {inner outer : List Spot} {spot : Spot} (h : Under sites [] (inner ++ spot :: outer)) :
    ⟨spot, outer⟩ ∈ sites := by
  induction inner with
  | nil =>
    cases h with
    | inner _ hmem _ => exact hmem
  | cons _ _ ih =>
    cases h with
    | inner h _ _ => exact ih h

end Under

section Markup

variable {around : List Spot} {n : Nat} {nodes : List RenderNode} {s : Site}
  (hs : s ∈ sitesIn around n nodes)

include hs

/-- A place is inside of places alone. -/
lemma under_of_mem : Under (sitesIn around n nodes) around s.around := by
  refine site_induction (P := fun around sites s => Under sites around s.around) ⟨?_, ?_⟩
    (List.Subset.refl _) hs
  · rintro around sites s - rfl -
    exact .base
  · intro around sites inside s spot hmem hholds _ hinside _ h
    exact h.enter hmem hholds hinside

/-- What a place is inside of has a lower number. -/
lemma number_around_lt : ∀ spot ∈ s.around, spot ∈ around ∨ spot.number < s.number := by
  refine site_induction (P := fun around _ s =>
    ∀ spot ∈ s.around, spot ∈ around ∨ spot.number < s.number) ⟨?_, ?_⟩
    (List.Subset.refl (sitesIn around n nodes)) hs
  · rintro around sites s - rfl - spot hspot
    exact .inl hspot
  · intro around sites inside s spot _ _ hnumber _ hs h other hother
    obtain hmem | hlt := h other hother
    · obtain rfl | hmem := List.mem_cons.mp hmem
      · exact .inr (hnumber s hs)
      · exact .inl hmem
    · exact .inr hlt

/-- What is in a branch has its places among all others. -/
lemma subset_of_branch {c : Condition} {negated : Bool} {inside : List RenderNode}
    (hcontent : s.content = .branch c negated inside) :
    ∃ m, sitesIn (s.toSpot :: s.around) m inside ⊆ sitesIn around n nodes := by
  refine site_induction (P := fun _ sites s => ∀ c negated inside,
    s.content = .branch c negated inside → ∃ m, sitesIn (s.toSpot :: s.around) m inside ⊆ sites)
    ⟨?_, ?_⟩ (List.Subset.refl _) hs c negated inside hcontent
  · rintro around sites s - rfl hbranch
    exact hbranch
  · intro around sites inside s spot _ _ _ hinside _ h c negated nodes hcontent
    obtain ⟨m, hm⟩ := h c negated nodes hcontent
    exact ⟨m, List.Subset.trans hm hinside⟩

end Markup

namespace Content

/-- The kind of group that is opened for a place. -/
def kind : Content → GroupKind
  | .element _ => .output
  | .branch _ _ _ => .conditional
  | .loop _ => .loop

lemma kind_eq_conditional_iff {c : Content} : c.kind = .conditional ↔ c.isBranch = true := by
  cases c <;> simp [kind, isBranch]

lemma kind_eq_loop_iff {c : Content} : c.kind = .loop ↔ c.isLoop = true := by
  cases c <;> simp [kind, isLoop]

end Content

/-- A place is in the outermost group, or in the group of a place that it is inside of. -/
lemma exists_home {sites : List Site} {around : List Spot} (h : Under sites [] around) :
    homeOf around = none ∧ kindOf around = .output ∨
      ∃ s ∈ sites, s.opens = true ∧ homeOf around = some s.number ∧
        kindOf around = s.content.kind ∧ s.toSpot ∈ around := by
  induction h with
  | base => exact .inl ⟨rfl, rfl⟩
  | @inner spot outer _ hmem hholds ih =>
    obtain ⟨n, content⟩ := spot
    cases content with
    | element e =>
      refine ih.imp_right ?_
      rintro ⟨s, hs, hopens, hhome, hkind, haround⟩
      exact ⟨s, hs, hopens, hhome, hkind, List.mem_cons_of_mem _ haround⟩
    | branch c negated nodes =>
      have hfull : nodes ≠ [] := hholds
      exact .inr ⟨_, hmem, by simp [Site.opens, hfull], rfl, rfl, List.mem_cons_self⟩
    | loop head =>
      by_cases hloop : kindOf outer = .loop
      · -- a loop in a loop is in the group of the outer one
        obtain ⟨-, hkind⟩ | ⟨s, hs, hopens, hhome, hkind, haround⟩ := ih
        · rw [hkind] at hloop
          cases hloop
        · refine .inr ⟨s, hs, hopens, ?_, hloop.symm.trans hkind, List.mem_cons_of_mem _ haround⟩
          rw [homeOf, if_pos hloop, hhome]
      · exact .inr ⟨_, hmem, by simp [Site.opens, hloop], if_neg hloop, rfl, List.mem_cons_self⟩

/-! ## Branches without bound content -/

mutual

lemma RenderNode.all_reached {around : List Spot} {n : Nat} {node : RenderNode}
    (h : ∀ s ∈ node.sites around n, ∃ e, s.content = .element e ∧ e.hasBindings = false) :
    node.reached.all (!·.isBound) = true := by
  cases node with
  | element e children =>
    simp only [RenderNode.sites, List.forall_mem_cons] at h
    obtain ⟨⟨e', heq, hbound⟩, hinside⟩ := h
    cases heq
    rw [RenderNode.reached, List.all_cons, RenderNode.isBound, hbound, Bool.not_false,
      Bool.true_and]
    exact all_reachedIn hinside
  | conditional c whenTrue whenFalse =>
    obtain ⟨e, heq, -⟩ := h _ List.mem_cons_self
    cases heq
  | loop head body =>
    obtain ⟨e, heq, -⟩ := h _ List.mem_cons_self
    cases heq

/-- Nothing bound is reached where there is nothing but elements without bindings. -/
lemma all_reachedIn {around : List Spot} {n : Nat} {nodes : List RenderNode}
    (h : ∀ s ∈ sitesIn around n nodes, ∃ e, s.content = .element e ∧ e.hasBindings = false) :
    (reachedIn nodes).all (!·.isBound) = true := by
  cases nodes with
  | nil => rfl
  | cons node rest =>
    rw [sitesIn, List.forall_mem_append] at h
    rw [reachedIn, List.all_append, RenderNode.all_reached h.1, all_reachedIn h.2, Bool.true_and]

end

end ComponentFlow
