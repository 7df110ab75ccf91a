import ComponentFlow.Proofs.Names
import ComponentFlow.Assembly.Assemble

/-!
# Links of the markup in a build

What elements ask for is a list of requests, met one after the other. A request for a handler draws
an id, so what the later ones ask for depends on how many handlers there are. `linksFrom` gives all
the links of a list of requests, each with the number of handlers at that time, and meeting the
requests goes through exactly if each link can be followed among the nodes there are by then
(`grows_meetAll`).
-/

namespace ComponentFlow.Assembly

open Build

variable {x : NameIndex}

/-! ## Control of groups -/

lemma controlEdges_known {c : ControlFlow} {e : Edge} (he : e ∈ controlEdges x c) :
    x.Names e.source ∧ e.target = c.group := by
  obtain ⟨name, -, he⟩ := List.mem_filterMap.mp he
  obtain ⟨b, hb, rfl⟩ := Option.map_eq_some_iff.mp he
  exact ⟨NameIndex.names_of_resolve hb, rfl⟩

lemma linkControl_kept (b : Build) (c : ControlFlow) :
    (linkControl x b c).session.counters = b.session.counters ∧
      (linkControl x b c).diagram.nodes = b.diagram.nodes := by
  rw [linkControl]
  split
  · rw [linkAll_eq_followAll]
    exact followAll_kept b _
  · exact ⟨rfl, rfl⟩

lemma linkControls_kept (b : Build) (controls : List ControlFlow) :
    (controls.foldl (linkControl x) b).session.counters = b.session.counters ∧
      (controls.foldl (linkControl x) b).diagram.nodes = b.diagram.nodes := by
  induction controls generalizing b with
  | nil => exact ⟨rfl, rfl⟩
  | cons c rest ih =>
    obtain ⟨hcounters, hnodes⟩ := ih (linkControl x b c)
    obtain ⟨hcounters', hnodes'⟩ := linkControl_kept (x := x) b c
    exact ⟨hcounters.trans hcounters', hnodes.trans hnodes'⟩

/-- Groups that are there can be linked if what controls them is there. -/
lemma grows_linkControls {b : Build} (controls : List ControlFlow)
    (hb : b.Knows fun id => ∃ c ∈ controls, c.group = id) :
    Grows false (∀ c ∈ controls, ∀ e ∈ controlEdges x c, e.source ∈ b.diagram.ids) [] b
      (controls.foldl (linkControl x) b) := by
  induction controls generalizing b with
  | nil => exact (Grows.refl false b).congr fun _ _ => by simp
  | cons c rest ih =>
    have hstep : Grows false (∀ e ∈ controlEdges x c, e.source ∈ b.diagram.ids) [] b
        (linkControl x b c) := by
      rw [linkControl]
      split
      · rename_i hgroup
        refine (grows_linkAll false b (controlEdges x c)).congr fun _ _ => ?_
        refine forall₂_congr fun e he => ?_
        have htarget : e.target ∈ b.diagram.ids :=
          (controlEdges_known he).2 ▸ Diagram.contains_iff.mp hgroup
        rw [Link.Fits]
        exact ⟨fun h => h.elim (fun heq => heq ▸ htarget) fun h => h.1, fun h => .inr ⟨h, htarget⟩⟩
      · rename_i hgroup
        refine (Grows.refl false b).congr fun hlive _ => absurd ?_ hgroup
        exact Diagram.contains_iff.mpr (hb hlive c.group ⟨c, by simp, rfl⟩)
    have hids : (linkControl x b c).diagram.ids = b.diagram.ids := by
      rw [Diagram.ids, (linkControl_kept b c).2, Diagram.ids]
    have hlater : ∀ id, (∃ c' ∈ rest, c'.group = id) → ∃ c' ∈ c :: rest, c'.group = id := by
      rintro id ⟨c', hc', hid⟩
      exact ⟨c', List.mem_cons_of_mem _ hc', hid⟩
    have hrest := ih ((hstep.knows hb).mono hlater)
    rw [hids] at hrest
    exact (hstep.trans hrest fun _ => Iff.rfl).congr fun _ _ => by simp

/-! ## Requests -/

/-- Whether a request draws an id for a handler. -/
def Request.draws : Request → Nat
  | handle .. => 1
  | _ => 0

/-- The links that a request asks for, if the id of the handler is this one. -/
def Request.links (x : NameIndex) (handler : String) : Request → List Link
  | follow l => [l]
  | note _ => []
  | handle element a calls assigns =>
    .edge ⟨element, handler, a.name⟩ :: carriedLinks x handler calls ++
      (assignEdges x handler assigns).map .edge

/-- The links that requests ask for, each with the number of the next handler at that time. -/
def linksFrom (x : NameIndex) : Nat → List Request → List (Nat × Link)
  | _, [] => []
  | number, r :: rest =>
    (r.links x (Session.idOf "handler" number)).map (number + r.draws, ·) ++
      linksFrom x (number + r.draws) rest

/-- The handlers that there are once the next number is the second one, if it was the first before.
-/
def IsHandler (first next : Nat) (id : String) : Prop :=
  ∃ j, first ≤ j ∧ j < next ∧ id = Session.idOf "handler" j

lemma not_isHandler_self (n : Nat) (id : String) : ¬ IsHandler n (n + 0) id := by
  rintro ⟨j, hlow, hhigh, -⟩
  omega

lemma isHandler_succ {n : Nat} {id : String} :
    IsHandler n (n + 1) id ↔ id = Session.idOf "handler" n := by
  constructor
  · rintro ⟨j, hlow, hhigh, rfl⟩
    rw [show j = n by omega]
  · rintro rfl
    exact ⟨n, Nat.le_refl n, Nat.lt_succ_self n, rfl⟩

lemma isHandler_trans {n m k : Nat} (hnm : n ≤ m) (hmk : m ≤ k) {id : String} :
    IsHandler n k id ↔ IsHandler n m id ∨ IsHandler m k id := by
  constructor
  · rintro ⟨j, hlow, hhigh, rfl⟩
    by_cases hj : j < m
    · exact .inl ⟨j, hlow, hj, rfl⟩
    · exact .inr ⟨j, by omega, hhigh, rfl⟩
  · rintro (⟨j, hlow, hhigh, rfl⟩ | ⟨j, hlow, hhigh, rfl⟩)
    · exact ⟨j, hlow, by omega, rfl⟩
    · exact ⟨j, by omega, hhigh, rfl⟩

lemma addHandler_eq (b : Build) (element : String) (a : Attribute) (calls assigns : List String) :
    addHandler x b element a calls assigns =
      (b.addNode (handlerSketch element a)).2.followAll
        ((Request.handle element a calls assigns).links x
          (Session.idOf "handler" (b.session.count "handler"))) := by
  simp only [addHandler, Request.links, linkAll_eq_followAll, followAll, List.cons_append,
    List.foldl_append, List.foldl_cons]
  rfl

/-- Meeting a request draws the id of its handler, if it has one, and no other. -/
lemma count_meet (b : Build) (r : Request) :
    (meet x b r).session.count "handler" = b.session.count "handler" + r.draws ∧
      ∀ id, b.session.Draws (meet x b r).session id ↔
        IsHandler (b.session.count "handler") (b.session.count "handler" + r.draws) id := by
  -- requests without a handler leave the counters as they are
  have hnone : ∀ {s : Session}, s.counters = b.session.counters →
      s.count "handler" = b.session.count "handler" + 0 ∧ ∀ id, b.session.Draws s id ↔
        IsHandler (b.session.count "handler") (b.session.count "handler" + 0) id := by
    intro s hs
    refine ⟨by rw [Session.count, hs, Session.count, Nat.add_zero], fun id => ?_⟩
    exact iff_of_false (Session.not_draws_of_counters_eq hs id) (not_isHandler_self _ id)
  cases r with
  | follow l => exact hnone (follow_kept b l).1
  | note message => exact hnone (record_kept b _ _ _).1
  | handle element a calls assigns =>
    have heq := addHandler_eq (x := x) b element a calls assigns
    have hcounters : (meet x b (.handle element a calls assigns)).session.counters =
        (b.session.nextId "handler").2.counters := by
      rw [meet, heq, (followAll_kept _ _).1]
      exact counters_addNode b (handlerSketch element a)
    refine ⟨?_, fun id => ?_⟩
    · rw [Session.count, hcounters, ← Session.count, Session.count_nextId, if_pos rfl]
      rfl
    · rw [Request.draws, isHandler_succ, ← Session.draws_nextId]
      simp only [Session.Draws, Session.count, hcounters]

/-- A request can be met if its links can be followed, among them those to its own handler. -/
lemma grows_meet (b : Build) (r : Request) :
    Grows false (∀ l ∈ r.links x (Session.idOf "handler" (b.session.count "handler")),
        l.Fits fun id => id ∈ b.diagram.ids ∨
          IsHandler (b.session.count "handler") (b.session.count "handler" + r.draws) id)
      ((r.links x (Session.idOf "handler" (b.session.count "handler"))).flatMap Link.leaves)
      b (meet x b r) := by
  cases r with
  | follow l =>
    have hknown : (fun id => id ∈ b.diagram.ids ∨ IsHandler (b.session.count "handler")
        (b.session.count "handler" + 0) id) = (· ∈ b.diagram.ids) := by
      funext id
      exact propext (or_iff_left (not_isHandler_self _ id))
    refine (show Grows false _ (([l] : List Link).flatMap Link.leaves) b (b.follow l) from ?_)
    rw [List.flatMap_singleton]
    refine (grows_follow false b l).congr fun _ _ => ?_
    simp only [Request.links, Request.draws, hknown, List.forall_mem_singleton]
  | note message =>
    exact (grows_record false b _ _ _).congr fun _ _ => by simp [Request.links]
  | handle element a calls assigns =>
    rw [meet, addHandler_eq]
    have hnode := grows_addNode false b (handlerSketch element a)
    have hcounters : (b.addNode (handlerSketch element a)).2.session.counters =
        (b.session.nextId "handler").2.counters := counters_addNode b (handlerSketch element a)
    generalize (b.addNode (handlerSketch element a)).2 = b₁ at hnode hcounters ⊢
    generalize hlinks : (Request.handle element a calls assigns).links x
      (Session.idOf "handler" (b.session.count "handler")) = links
    have hknown : b₁.Live → (· ∈ b₁.diagram.ids) = fun id => id ∈ b.diagram.ids ∨
        IsHandler (b.session.count "handler") (b.session.count "handler" + 1) id := by
      intro hlive
      funext id
      refine propext ((hnode.ids hlive id).trans (or_congr_right ?_))
      rw [isHandler_succ, ← Session.draws_nextId]
      simp only [Session.Draws, Session.count, hcounters]
    have hall : Grows false (True ∧ ∀ l ∈ links, l.Fits fun id => id ∈ b.diagram.ids ∨
        IsHandler (b.session.count "handler") (b.session.count "handler" + 1) id)
        ([] ++ links.flatMap Link.leaves) b (b₁.followAll links) :=
      hnode.trans (grows_followAll false b₁ links) fun hlive => by rw [hknown hlive]
    exact hall.congr fun _ _ => by simp [Request.draws]

lemma le_of_mem_linksFrom {number : Nat} {rs : List Request} {p : Nat × Link}
    (h : p ∈ linksFrom x number rs) : number ≤ p.1 := by
  induction rs generalizing number with
  | nil => cases h
  | cons r rest ih =>
    obtain h | h := List.mem_append.mp h
    · obtain ⟨l, -, rfl⟩ := List.mem_map.mp h
      exact Nat.le_add_right _ _
    · exact Nat.le_trans (Nat.le_add_right _ _) (ih h)

/-- **Requests.** They can be met exactly if each of their links can be followed among the nodes
there are at the start and the handlers there are by then. -/
lemma grows_meetAll (b : Build) (rs : List Request) :
    Grows false (∀ p ∈ linksFrom x (b.session.count "handler") rs, p.2.Fits fun id =>
        id ∈ b.diagram.ids ∨ IsHandler (b.session.count "handler") p.1 id)
      ((linksFrom x (b.session.count "handler") rs).flatMap fun p => p.2.leaves)
      b (rs.foldl (meet x) b) := by
  induction rs generalizing b with
  | nil => exact (Grows.refl false b).congr fun _ _ => by simp [linksFrom]
  | cons r rest ih =>
    have hstep := grows_meet (x := x) b r
    obtain ⟨hcount, hdraws⟩ := count_meet (x := x) b r
    have hrest := ih (meet x b r)
    rw [hcount] at hrest
    -- the handler of the first request counts among those of the others
    have hknown : (meet x b r).Live →
        ((∀ p ∈ linksFrom x (b.session.count "handler" + r.draws) rest,
          p.2.Fits fun id => id ∈ (meet x b r).diagram.ids ∨
            IsHandler (b.session.count "handler" + r.draws) p.1 id) ↔
        ∀ p ∈ linksFrom x (b.session.count "handler" + r.draws) rest, p.2.Fits fun id =>
          id ∈ b.diagram.ids ∨ IsHandler (b.session.count "handler") p.1 id) := by
      intro hlive
      refine forall₂_congr fun p hp => ?_
      have hids : (fun id => id ∈ (meet x b r).diagram.ids ∨
          IsHandler (b.session.count "handler" + r.draws) p.1 id) = fun id =>
          id ∈ b.diagram.ids ∨ IsHandler (b.session.count "handler") p.1 id := by
        funext id
        rw [hstep.ids hlive, hdraws, or_assoc,
          ← isHandler_trans (Nat.le_add_right _ _) (le_of_mem_linksFrom hp)]
      rw [hids]
    have hall := hstep.trans hrest hknown
    have hleaves : (linksFrom x (b.session.count "handler") (r :: rest)).flatMap
        (fun p => p.2.leaves) =
        (r.links x (Session.idOf "handler" (b.session.count "handler"))).flatMap Link.leaves ++
          (linksFrom x (b.session.count "handler" + r.draws) rest).flatMap fun p => p.2.leaves := by
      simp [linksFrom, List.flatMap_map]
    rw [hleaves]
    refine hall.congr fun _ _ => ?_
    simp [linksFrom, or_imp, forall_and]

/-! ## What elements ask for -/

/-- Whether a link is an edge between known nodes, if it can be read. -/
def IsFlow (known : String → Prop) (l : Link) : Prop :=
  l.Among known ∧ l.leaves = []

lemma shownEdges_ends {scope : Scope} {element base : String} {references : List String} {e : Edge}
    (he : e ∈ shownEdges x scope element base references) :
    x.Names e.source ∧ e.target = element := by
  obtain ⟨reference, -, he⟩ := List.mem_filterMap.mp he
  obtain ⟨b, hb, rfl⟩ := Option.map_eq_some_iff.mp he
  exact ⟨NameIndex.names_of_resolve hb, rfl⟩

lemma displayCallEdges_ends {scope : Scope} {element : String} {call : DisplayCall} {e : Edge}
    (he : e ∈ displayCallEdges x scope element call) :
    x.Names e.source ∧ (x.Names e.target ∨ e.target = element) := by
  have harguments : ∀ a ∈ call.arguments.filterMap (resolveIn x scope), x.Names a.node.id := by
    intro a ha
    obtain ⟨reference, -, ha⟩ := List.mem_filterMap.mp ha
    exact NameIndex.names_of_resolve ha
  have hshown : e ∈ (call.arguments.filterMap (resolveIn x scope)).map
      (fun a => (⟨a.node.id, element, a.label "display"⟩ : Edge)) →
      x.Names e.source ∧ (x.Names e.target ∨ e.target = element) := by
    intro he
    obtain ⟨a, ha, rfl⟩ := List.mem_map.mp he
    exact ⟨harguments a ha, .inr rfl⟩
  rw [displayCallEdges] at he
  split at he
  · exact hshown he
  rename_i b hb
  have hcallee : x.Names b.node.id := NameIndex.names_of_resolve hb
  split at he
  · obtain he | he := List.mem_append.mp he
    · obtain ⟨a, ha, rfl⟩ := List.mem_map.mp he
      exact ⟨harguments a (List.mem_filter.mp ha).1, .inl hcallee⟩
    · rw [List.mem_singleton.mp he]
      exact ⟨hcallee, .inr rfl⟩
  · obtain rfl | he := List.mem_cons.mp he
    · exact ⟨hcallee, .inr rfl⟩
    · exact hshown he

lemma twoWayEdges_ends {scope : Scope} {element : String} {references : List String} {e : Edge}
    (he : e ∈ twoWayEdges x scope element references) :
    x.Names e.source ∧ e.target = element ∨
      e.source = element ∧ x.Names e.target ∧ ∃ b : Binding, e.label = b.label "updates" := by
  obtain ⟨reference, -, he⟩ := List.mem_flatMap.mp he
  split at he
  · rename_i b hb
    have hnames : x.Names b.node.id := NameIndex.names_of_resolve hb
    obtain rfl | he := List.mem_cons.mp he
    · exact .inl ⟨hnames, rfl⟩
    · rw [List.mem_singleton.mp he]
      exact .inr ⟨rfl, hnames, b, rfl⟩
  · cases he

lemma names_of_planReference {reference id : String}
    (h : planReference x reference = .process id) : x.Names id := by
  unfold planReference at h
  split at h
  · cases h
  rename_i b hb
  split at h
  · obtain rfl := HandlerPlan.process.inj h
    exact NameIndex.names_of_resolve hb
  split at h
  · unfold planData at h
    split at h
    · cases h
    · split at h <;> cases h
  · cases h

lemma names_of_planCode {calls assigns : List String} {id : String}
    (h : planCode x calls assigns = .process id) : x.Names id := by
  unfold planCode at h
  split at h
  · rename_i id' hsole
    obtain rfl := HandlerPlan.process.inj h
    unfold soleProcess at hsole
    split at hsole
    · obtain ⟨b, hb, rfl⟩ := Option.map_eq_some_iff.mp hsole
      exact NameIndex.names_of_resolve (Option.filter_eq_some_iff.mp hb).1
    · cases hsole
  · split at h <;> cases h

/-- A handler that leads to a process leads to a node with a name. -/
lemma names_of_planHandler {scope : Scope} {content : AttributeContent} {id : String}
    (h : planHandler x scope content = .process id) : x.Names id := by
  unfold planHandler at h
  split at h
  · cases h
  · split at h
    · cases h
    · exact names_of_planReference h
  · exact names_of_planCode h

lemma carriedLinks_isFlow {known : String → Prop} {handler : String}
    (hx : ∀ id, x.Names id → known id) (hhandler : known handler) (calls : List String) :
    ∀ l ∈ carriedLinks x handler calls, IsFlow known l := by
  intro l hl
  unfold carriedLinks at hl
  split at hl
  · rw [List.mem_singleton.mp hl]
    exact ⟨trivial, rfl⟩
  · exact ⟨callLinks_among _ hx hhandler l hl,
      List.flatMap_eq_nil_iff.mp (callLinks_leaves x handler _) l hl⟩

/-- What an event attribute can ask for: a link to a process of the component, or the links of a
handler of its own. -/
lemma handlerRequests_cases {plan : HandlerPlan} {element : String} {a : Attribute} {r : Request}
    (hr : r ∈ plan.requests element a) {handler : String} {l : Link} (hl : l ∈ r.links x handler) :
    (∃ id, plan = .process id ∧ l = .edge ⟨element, id, a.name⟩) ∨
      (∃ cause, plan = .unreadable cause ∧ l = .unreadable cause) ∨
      r.draws = 1 ∧ (l = .edge ⟨element, handler, a.name⟩ ∨
        (∃ calls, l ∈ carriedLinks x handler calls) ∨
        ∃ assigns, ∃ e ∈ assignEdges x handler assigns, l = .edge e) := by
  cases plan with
  | nothing => cases hr
  | value reference =>
    rw [List.mem_singleton.mp hr] at hl
    cases hl
  | process id =>
    rw [List.mem_singleton.mp hr] at hl
    exact .inl ⟨id, rfl, List.mem_singleton.mp hl⟩
  | unreadable cause =>
    rw [List.mem_singleton.mp hr] at hl
    exact .inr (.inl ⟨cause, rfl, List.mem_singleton.mp hl⟩)
  | inline calls assigns =>
    obtain rfl := List.mem_singleton.mp hr
    refine .inr (.inr ⟨rfl, ?_⟩)
    rw [Request.links] at hl
    obtain hl | hl := List.mem_append.mp hl
    · obtain rfl | hl := List.mem_cons.mp hl
      · exact .inl rfl
      · exact .inr (.inl ⟨calls, hl⟩)
    · obtain ⟨e, he, rfl⟩ := List.mem_map.mp hl
      exact .inr (.inr ⟨assigns, e, he, rfl⟩)

/-- Event attributes ask for edges between the element, its handler and nodes with a name. -/
lemma handlerRequests_isFlow {known : String → Prop} {element : String} {scope : Scope}
    (hx : ∀ id, x.Names id → known id) (helement : known element) (a : Attribute) :
    ∀ r ∈ (planHandler x scope a.content).requests element a, ∀ handler,
      ∀ l ∈ r.links x handler, IsFlow (fun id => known id ∨ r.draws = 1 ∧ id = handler) l := by
  intro r hr handler l hl
  obtain ⟨id, hplan, rfl⟩ | ⟨cause, -, rfl⟩ | ⟨hdraws, hl⟩ := handlerRequests_cases hr hl
  · exact ⟨⟨.inl helement, .inl (hx _ (names_of_planHandler hplan))⟩, rfl⟩
  · exact ⟨trivial, rfl⟩
  · have hx' : ∀ id, x.Names id → known id ∨ r.draws = 1 ∧ id = handler :=
      fun id hid => .inl (hx id hid)
    have hhandler : known handler ∨ r.draws = 1 ∧ handler = handler := .inr ⟨hdraws, rfl⟩
    obtain rfl | ⟨calls, hl⟩ | ⟨assigns, e, he, rfl⟩ := hl
    · exact ⟨⟨.inl helement, hhandler⟩, rfl⟩
    · exact carriedLinks_isFlow hx' hhandler calls l hl
    · exact ⟨assignEdges_known assigns hx' hhandler e he, rfl⟩

lemma IsFlow.mono {known known' : String → Prop} {l : Link} (h : IsFlow known l)
    (hknown : ∀ id, known id → known' id) : IsFlow known' l :=
  ⟨h.1.mono hknown, h.2⟩

/-- The edges that an element asks for outright: for what it shows, and for what its attributes
hold, events apart. -/
inductive IsElementEdge (x : NameIndex) (p : PlacedElement) : Edge → Prop
  | display {e} : e ∈ shownEdges x p.scope p.id "display" p.element.display → IsElementEdge x p e
  | call {e} (c : DisplayCall) : e ∈ displayCallEdges x p.scope p.id c → IsElementEdge x p e
  | twoWay {e} (references : List String) :
      e ∈ twoWayEdges x p.scope p.id references → IsElementEdge x p e
  | binds {e} (references : List String) :
      e ∈ shownEdges x p.scope p.id "binds" references → IsElementEdge x p e

/-- What an element can ask for. -/
lemma elementRequests_cases {p : PlacedElement} {r : Request} (hr : r ∈ elementRequests x p) :
    (∃ e, IsElementEdge x p e ∧ r = .follow (.edge e)) ∨
      ∃ a ∈ p.element.attributes, isEventAttribute a.name = true ∧
        r ∈ (planHandler x p.scope a.content).requests p.id a := by
  have hedges : ∀ {es : List Edge}, (∀ e ∈ es, IsElementEdge x p e) → r ∈ Request.edges es →
      ∃ e, IsElementEdge x p e ∧ r = .follow (.edge e) := by
    intro es hes hr
    obtain ⟨e, he, rfl⟩ := List.mem_map.mp hr
    exact ⟨e, hes e he, rfl⟩
  rw [elementRequests, List.mem_append, List.mem_append] at hr
  obtain (hr | hr) | hr := hr
  · exact .inl (hedges (fun _ => .display) hr)
  · refine .inl (hedges (fun e he => ?_) hr)
    obtain ⟨c, -, he⟩ := List.mem_flatMap.mp he
    exact .call c he
  · obtain ⟨a, ha, hr⟩ := List.mem_flatMap.mp hr
    unfold attributeRequests at hr
    split at hr
    · exact .inl (hedges (fun _ => .twoWay _) hr)
    split at hr
    · rename_i hevent
      exact .inr ⟨a, ha, hevent, hr⟩
    · exact .inl (hedges (fun _ => .binds _) hr)

/-- They come from nodes with a name, apart from updates, which start at the element. -/
lemma IsElementEdge.ends {p : PlacedElement} {e : Edge} (h : IsElementEdge x p e) :
    x.Names e.source ∧ (x.Names e.target ∨ e.target = p.id) ∨
      e.source = p.id ∧ x.Names e.target ∧ ∃ b : Binding, e.label = b.label "updates" := by
  cases h with
  | display he => exact .inl ((shownEdges_ends he).imp_right .inr)
  | call c he => exact .inl (displayCallEdges_ends he)
  | twoWay references he => exact (twoWayEdges_ends he).imp_left (And.imp_right .inr)
  | binds references he => exact .inl ((shownEdges_ends he).imp_right .inr)

lemma IsElementEdge.known {p : PlacedElement} {e : Edge} (h : IsElementEdge x p e) :
    (x.Names e.source ∨ e.source = p.id) ∧ (x.Names e.target ∨ e.target = p.id) := by
  obtain ⟨hsource, htarget⟩ | ⟨hsource, htarget, -⟩ := h.ends
  · exact ⟨.inl hsource, htarget⟩
  · exact ⟨.inr hsource, .inl htarget⟩

/-- Elements ask for edges between themselves, their handlers and nodes with a name. -/
lemma elementRequests_isFlow (p : PlacedElement) :
    ∀ r ∈ elementRequests x p, ∀ handler, ∀ l ∈ r.links x handler,
      IsFlow (fun id => (x.Names id ∨ id = p.id) ∨ r.draws = 1 ∧ id = handler) l := by
  intro r hr handler l hl
  obtain ⟨e, he, rfl⟩ | ⟨a, -, -, hr⟩ := elementRequests_cases hr
  · rw [List.mem_singleton.mp hl]
    exact ⟨⟨.inl he.known.1, .inl he.known.2⟩, rfl⟩
  · exact handlerRequests_isFlow (fun _ => .inl) (.inr rfl) a r hr handler l hl

/-- The request behind a link. -/
lemma exists_of_mem_linksFrom {number : Nat} {rs : List Request} {p : Nat × Link}
    (h : p ∈ linksFrom x number rs) : ∃ r ∈ rs, ∃ m, number ≤ m ∧ p.1 = m + r.draws ∧
      p.2 ∈ r.links x (Session.idOf "handler" m) := by
  induction rs generalizing number with
  | nil => cases h
  | cons r rest ih =>
    obtain h | h := List.mem_append.mp h
    · obtain ⟨l, hl, rfl⟩ := List.mem_map.mp h
      exact ⟨r, by simp, number, Nat.le_refl _, rfl, hl⟩
    · obtain ⟨r', hr', m, hm, hp⟩ := ih h
      exact ⟨r', List.mem_cons_of_mem _ hr', m, Nat.le_trans (Nat.le_add_right _ _) hm, hp⟩

/-- The requests of several elements. -/
def requests (x : NameIndex) (elements : List PlacedElement) : List Request :=
  elements.flatMap (elementRequests x)

lemma linksFrom_requests_isFlow (number : Nat) (elements : List PlacedElement) :
    ∀ p ∈ linksFrom x number (requests x elements), IsFlow (fun id =>
      (x.Names id ∨ ∃ q ∈ elements, id = q.id) ∨ IsHandler number p.1 id) p.2 := by
  intro p hp
  obtain ⟨r, hr, m, hm, hnumber, hl⟩ := exists_of_mem_linksFrom hp
  obtain ⟨q, hq, hr⟩ := List.mem_flatMap.mp hr
  refine (elementRequests_isFlow q r hr _ p.2 hl).mono fun id hid => ?_
  obtain (hid | hid) | ⟨hdraws, rfl⟩ := hid
  · exact .inl (.inl hid)
  · exact .inl (.inr ⟨q, hq, hid⟩)
  · exact .inr ⟨m, hm, by omega, rfl⟩

lemma foldl_linkElement (b : Build) (elements : List PlacedElement) :
    elements.foldl (linkElement x) b = (requests x elements).foldl (meet x) b := by
  rw [requests, List.foldl_flatMap]
  rfl

end ComponentFlow.Assembly
