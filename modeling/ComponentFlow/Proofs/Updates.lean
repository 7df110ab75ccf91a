import ComponentFlow.Proofs.EdgeTypes

/-!
# Updates from the markup

Whatever the code of an event attribute changes, the diagram shows: a process of its own leads from
the element to the node that is changed (`execute_updates_conveyed`). Two things could get lost on
the way. An element might get no node, but every element with an attribute gets one, in document
order and with the loop items in scope (`elements_walk`). And an edge might not be drawn, or not be
kept; but the requests of an attribute are met in full (`exists_carries`), later requests only add
edges, and merging keeps the ends and the base label of every edge.

An attribute adds at most one process, and nothing else adds nodes once the markup is laid out.
-/

namespace ComponentFlow

/-! ## Elements of the markup -/

mutual

/-- The elements of a render node in document order, each with the loop items in scope. -/
def RenderNode.elements : RenderNode → Scope → List (Element × Scope)
  | .element e children, scope => (e, scope) :: elementsIn children scope
  | .conditional _ whenTrue whenFalse, scope =>
    elementsIn whenTrue scope ++ elementsIn whenFalse scope
  | .loop head body, scope => elementsIn body (Layout.bodyScope head scope)
termination_by structural n => n

/-- The elements of several render nodes. -/
def elementsIn : List RenderNode → Scope → List (Element × Scope)
  | [], _ => []
  | n :: rest, scope => n.elements scope ++ elementsIn rest scope
termination_by structural nodes => nodes

end

namespace Layout

variable {keep : Element → Bool}

/-- The elements of a layout with some property, each with the loop items in scope. -/
def kept (keep : Element → Bool) (l : Layout) : List (Element × Scope) :=
  (l.elements.map fun p => (p.element, p.scope)).filter (keep ·.1)

/-- The elements with some property that are still to be visited. -/
def pending (keep : Element → Bool) (fs : List Frame) : List (Element × Scope) :=
  (fs.flatMap fun f => f.node.elements f.scope).filter (keep ·.1)

lemma pending_append (fs fs' : List Frame) :
    pending keep (fs ++ fs') = pending keep fs ++ pending keep fs' := by
  rw [pending, List.flatMap_append, List.filter_append, ← pending, ← pending]

lemma pending_frames (group : String) (kind : GroupKind) (forced : Bool) (scope : Scope)
    (nodes : List RenderNode) :
    pending keep (frames group kind forced scope nodes) =
      (elementsIn nodes scope).filter (keep ·.1) := by
  rw [pending]
  congr 1
  induction nodes with
  | nil => rfl
  | cons n rest ih =>
    rw [frames, List.map_cons, List.flatMap_cons, ← frames, ih, elementsIn]

lemma enterBranch_kept (keep : Element → Bool) (l : Layout) (c : Condition) (negated : Bool)
    (group : String) (scope : Scope) (nodes : List RenderNode) :
    (l.enterBranch c negated group scope nodes).1.elements = l.elements ∧
      pending keep (l.enterBranch c negated group scope nodes).2 =
        (elementsIn nodes scope).filter (keep ·.1) := by
  cases nodes with
  | nil => exact ⟨rfl, rfl⟩
  | cons n rest => exact ⟨rfl, pending_frames _ _ _ _ _⟩

/-- A visit gives an element its place, unless it can do without one, and passes on what is below.
-/
lemma visit_kept (hkeep : ∀ e, keep e = true → e.hasBindings = true) (l : Layout) (f : Frame) :
    (l.visit f).1.kept keep ++ pending keep (l.visit f).2 =
      l.kept keep ++ (f.node.elements f.scope).filter (keep ·.1) := by
  unfold visit
  split
  · rename_i e children hnode
    rw [hnode, RenderNode.elements, pending_frames]
    have hplace : (l.place e f.group f.scope).kept keep =
        l.kept keep ++ [(e, f.scope)].filter (keep ·.1) := by
      rw [kept, place, List.map_append, List.filter_append]
      rfl
    split
    · rw [hplace, List.append_assoc, ← List.filter_append]
      rfl
    · rename_i hplain
      have hleft : keep e = false := by
        refine Bool.of_not_eq_true fun hkept => hplain ?_
        rw [hkeep e hkept, Bool.true_or]
      rw [List.filter_cons_of_neg (by simp [hleft])]
  · rename_i c whenTrue whenFalse hnode
    obtain ⟨htrue, hpending⟩ :=
      enterBranch_kept keep l c false f.group f.scope whenTrue
    obtain ⟨hfalse, hpending'⟩ :=
      enterBranch_kept keep (l.enterBranch c false f.group f.scope whenTrue).1 c true f.group
        f.scope whenFalse
    rw [hnode, RenderNode.elements, pending_append, hpending, hpending', List.filter_append, kept,
      hfalse, htrue, ← kept]
  · rename_i head body hnode
    rw [hnode, RenderNode.elements, pending_frames]
    rfl

/-- The walk gives a place to all elements that cannot do without one, in document order. -/
lemma elements_walk (hkeep : ∀ e, keep e = true → e.hasBindings = true) (l : Layout)
    (fs : List Frame) : (l.walk fs).kept keep = l.kept keep ++ pending keep fs := by
  fun_induction walk l fs with
  | case1 l => exact (List.append_nil _).symm
  | case2 l f rest ih =>
    rw [ih, pending_append, ← List.append_assoc, visit_kept hkeep, List.append_assoc, pending,
      pending, List.flatMap_cons, List.filter_append]

lemma elements_ofOutput (hkeep : ∀ e, keep e = true → e.hasBindings = true) (b : Build)
    (output : List RenderNode) (exported : List String) :
    (ofOutput b output exported).kept keep = (elementsIn output []).filter (keep ·.1) := by
  have hlay : (lay b output exported).kept keep = (elementsIn output []).filter (keep ·.1) := by
    have hwalk := elements_walk hkeep
      { build := (b.openGroup "JSX Output" none GroupKind.output.name []).2 }
      (frames (b.openGroup "JSX Output" none GroupKind.output.name []).1 .output false [] output)
    rw [pending_frames] at hwalk
    simp only [lay, addExported]
    split
    · exact hwalk
    · exact hwalk
  exact hlay

end Layout

namespace Build

/-! ## Edges that are drawn -/

lemma mem_edges_follow {b : Build} {e : Edge} (hlive : (b.follow (.edge e)).Live)
    (hne : e.source ≠ e.target) : e ∈ (b.follow (.edge e)).diagram.edges := by
  have hfollow : b.follow (.edge e) = b.change (·.addEdge e) := by
    rw [follow, link, if_neg (by simpa using hne)]
  rw [hfollow] at hlive ⊢
  obtain ⟨hstopped, heq⟩ | ⟨-, d', hok, heq⟩ | ⟨-, e', -, heq⟩ := b.change_cases (·.addEdge e)
  · exact absurd (heq ▸ hlive) hstopped
  · obtain ⟨-, -, rfl⟩ := Diagram.addEdge_eq_ok_iff.mp hok
    rw [heq]
    exact List.mem_append_right _ List.mem_cons_self
  · rw [heq] at hlive
    cases hlive

/-- If all links can be followed, all edges among them are drawn, apart from loops. -/
lemma mem_edges_followAll {b : Build} {ls : List Link} (hlive : (b.followAll ls).Live) {e : Edge}
    (he : .edge e ∈ ls) (hne : e.source ≠ e.target) : e ∈ (b.followAll ls).diagram.edges := by
  induction ls generalizing b with
  | nil => cases he
  | cons l rest ih =>
    have hrest := grows_followAll false (b.follow l) rest
    obtain rfl | he := List.mem_cons.mp he
    · exact hrest.edits.mem_edges (mem_edges_follow (hrest.live.mp hlive).1 hne)
    · exact ih hlive he

end Build

/-! ## What code changes -/

/-- What the code of an event attribute changes, with the label for the change: variables that it
assigns, and variables that it calls to write their nodes or to send them an action. -/
inductive Changes (x : NameIndex) (scope : Scope) (calls assigns : List String) :
    Binding → String → Prop
  | assign {target : String} {b : Binding} (hmem : target ∈ assigns)
      (hb : Assembly.resolveIn x scope target = some b) : Changes x scope calls assigns b "updates"
  | write {call : String} {b : Binding} (hmem : call ∈ calls)
      (hb : Assembly.resolveIn x scope call = some b) (hwriter : b.isWriter = true)
      (hdispatcher : b.isDispatcher = false) : Changes x scope calls assigns b "updates"
  | dispatch {call : String} {b : Binding} (hmem : call ∈ calls)
      (hb : Assembly.resolveIn x scope call = some b) (hdispatcher : b.isDispatcher = true) :
      Changes x scope calls assigns b "dispatch"

/-- Code changes something by a name that it assigns or calls. -/
lemma Changes.exists_name {x : NameIndex} {scope : Scope} {calls assigns : List String}
    {b : Binding} {base : String} (h : Changes x scope calls assigns b base) :
    (∃ target ∈ assigns, x.resolve (resolveScope scope target) = some b) ∨
      ∃ call ∈ calls, x.resolve (resolveScope scope call) = some b := by
  cases h with
  | assign hmem hb => exact .inl ⟨_, hmem, hb⟩
  | write hmem hb => exact .inr ⟨_, hmem, hb⟩
  | dispatch hmem hb => exact .inr ⟨_, hmem, hb⟩

lemma Changes.holds {x : NameIndex} {scope : Scope} {calls assigns : List String}
    {b : Binding} {base : String} (h : Changes x scope calls assigns b base) : x.Holds b.node := by
  obtain ⟨_, -, hb⟩ | ⟨_, -, hb⟩ := h.exists_name
  · exact NameIndex.holds_of_resolve hb
  · exact NameIndex.holds_of_resolve hb

namespace Diagram

/-- Whether a process leads from an element to a node, which it changes. -/
structure Conveys (d : Diagram) (element handler : String) (changed : Node) (base : String) :
    Prop where
  process : ∃ n, d.node? handler = some n ∧ n.type = NodeType.process.name
  target : ∃ n, d.node? changed.id = some n ∧ n.Continues changed
  run : ∃ e ∈ d.edges, e.source = element ∧ e.target = handler
  change : ∃ e ∈ d.edges, e.source = handler ∧ e.target = changed.id ∧ e.base = base

/-- Whether one process, that of the attribute, changes all that the code of an event attribute
changes, processes of the component apart. -/
def Carries (d : Diagram) (x : NameIndex) (p : PlacedElement) (a : Attribute)
    (handler? : Option String) : Prop :=
  isEventAttribute a.name = true → ∀ form calls references assigns,
    a.content = .code form calls references assigns →
      ∀ b base, Changes x p.scope calls assigns b base → b.isProcess = false →
        ∃ handler, handler? = some handler ∧ d.Conveys p.id handler b.node base

/-- Merging keeps the ends and the base labels of edges. -/
lemma Conveys.merge {d : Diagram} {element handler base : String} {changed : Node}
    (h : d.Conveys element handler changed base) :
    (d.replaceEdges (mergeEdges d.edges)).Conveys element handler changed base where
  process := h.process
  target := h.target
  run := by
    obtain ⟨e, he, hsource, htarget⟩ := h.run
    obtain ⟨e', he', hsource', htarget', -⟩ := exists_mem_mergeEdges he
    exact ⟨e', he', hsource'.trans hsource, htarget'.trans htarget⟩
  change := by
    obtain ⟨e, he, hsource, htarget, hbase⟩ := h.change
    obtain ⟨e', he', hsource', htarget', hbase'⟩ := exists_mem_mergeEdges he
    exact ⟨e', he', hsource'.trans hsource, htarget'.trans htarget, hbase'.trans hbase⟩

lemma Carries.merge {d : Diagram} {x : NameIndex} {p : PlacedElement} {a : Attribute}
    {handler? : Option String} (h : d.Carries x p a handler?) :
    (d.replaceEdges (mergeEdges d.edges)).Carries x p a handler? := by
  intro hevent form calls references assigns hcontent b base hchanges hprocess
  obtain ⟨handler, hhandler, hconveys⟩ :=
    h hevent form calls references assigns hcontent b base hchanges hprocess
  exact ⟨handler, hhandler, hconveys.merge⟩

end Diagram

namespace Assembly

open Build

variable {x : NameIndex}

/-! ## One attribute -/

/-- Code that changes something gets a process of its own. -/
lemma planHandler_of_changes {scope : Scope} {calls assigns : List String} {b : Binding}
    {base : String} (h : Changes x scope calls assigns b base) (hprocess : b.isProcess = false)
    (form : CodeForm) (references : List String) :
    planHandler x scope (.code form calls references assigns) =
      .inline (calls.map (resolveScope scope)) (assigns.map (resolveScope scope)) := by
  -- what is called alone and is a process of the component is not changed
  have hsole : soleProcess x (calls.map (resolveScope scope)) (assigns.map (resolveScope scope)) =
      none := by
    unfold soleProcess
    split
    · rename_i name hcalls hassigns
      obtain ⟨target, hmem, -⟩ | ⟨call, hmem, hb⟩ := h.exists_name
      · rw [List.map_eq_nil_iff.mp hassigns] at hmem
        cases hmem
      · have hname : resolveScope scope call ∈ [name] := hcalls ▸ List.mem_map_of_mem hmem
        rw [← List.mem_singleton.mp hname, hb]
        simp [Option.filter, hprocess]
    · rfl
  have hany : (calls.map (resolveScope scope) ++ assigns.map (resolveScope scope)).any
      (fun name => (x.resolve name).isSome) = true := by
    refine List.any_eq_true.mpr ?_
    obtain ⟨target, hmem, hb⟩ | ⟨call, hmem, hb⟩ := h.exists_name
    · exact ⟨_, List.mem_append_right _ (List.mem_map_of_mem hmem), by rw [hb]; rfl⟩
    · exact ⟨_, List.mem_append_left _ (List.mem_map_of_mem hmem), by rw [hb]; rfl⟩
  rw [planHandler, planCode, hsole]
  exact if_pos hany

/-- The process of an attribute asks for an edge to all that its code changes. -/
lemma exists_link_of_changes (hx : x.Shaped) {scope : Scope} {calls assigns : List String}
    {b : Binding} {base : String} (h : Changes x scope calls assigns b base)
    (hprocess : b.isProcess = false) {handler : String} (hne : b.node.id ≠ handler)
    (element : String) (a : Attribute) :
    ∃ label, .edge ⟨handler, b.node.id, label⟩ ∈ (Request.handle element a
        (calls.map (resolveScope scope)) (assigns.map (resolveScope scope))).links x handler ∧
      (Edge.mk handler b.node.id label).base = base := by
  have hcall : ∀ {call : String}, call ∈ calls → x.resolve (resolveScope scope call) = some b →
      b.isWriter = true → callFlow b handler (resolveScope scope call) ∈
        carriedLinks x handler (calls.map (resolveScope scope)) := by
    intro call hmem hb hwriter
    rw [carriedLinks_of_shaped hx]
    refine List.mem_filterMap.mpr ⟨resolveScope scope call, List.mem_filter.mpr
      ⟨List.mem_map_of_mem hmem, ?_⟩, ?_⟩
    · simp [carriesCall, hb, hwriter]
    · simp [callLink, hb, Option.filter, hne]
  have hupdates : IsBase "updates" := by decide
  rw [Request.links]
  cases h with
  | @assign target _ hmem hb =>
    refine ⟨b.label "updates", List.mem_append_right _ (List.mem_map_of_mem ?_),
      b.base_label hupdates _ _⟩
    refine List.mem_filterMap.mpr ⟨resolveScope scope target, List.mem_map_of_mem hmem, ?_⟩
    rw [show x.resolve (resolveScope scope target) = some b from hb]
    rfl
  | @write call _ hmem hb hwriter hdispatcher =>
    obtain ⟨hfault, hfault'⟩ := faults_of_resolve hx hb
    have hflow : callFlow b handler (resolveScope scope call) =
        .edge ⟨handler, b.node.id, b.label "updates"⟩ := by
      simp [callFlow, hprocess, hfault, hfault', hdispatcher, hwriter]
    refine ⟨b.label "updates", List.mem_append_left _ (List.mem_cons_of_mem _ ?_),
      b.base_label hupdates _ _⟩
    exact hflow ▸ hcall hmem hb hwriter
  | @dispatch call _ hmem hb hdispatcher =>
    have hfault := (faults_of_resolve hx hb).1
    -- what sends actions is among what writes
    have hwriter : b.isWriter = true :=
      (hx _ (NameIndex.holds_of_resolve hb)).dispatching b.name hdispatcher
    have hflow : callFlow b handler (resolveScope scope call) =
        .edge ⟨handler, b.node.id, "dispatch"⟩ := by
      simp [callFlow, hprocess, hfault, hdispatcher]
    refine ⟨"dispatch", List.mem_append_left _ (List.mem_cons_of_mem _ ?_),
      Edge.base_of_isBase (by decide) _ _⟩
    exact hflow ▸ hcall hmem hb hwriter

/-- The process that a plan adds, if its number is this one. -/
def HandlerPlan.handler? (number : Nat) : HandlerPlan → Option String
  | inline _ _ => some (Session.idOf "handler" number)
  | _ => none

/-- A plan adds its process and no other node. -/
lemma ids_requests {plan : HandlerPlan} {b : Build} {element : String} {a : Attribute}
    (hlive : ((plan.requests element a).foldl (meet x) b).Live) :
    ((plan.requests element a).foldl (meet x) b).diagram.ids =
      b.diagram.ids ++ (plan.handler? (b.session.count "handler")).toList := by
  have hfollow : ∀ l, (b.follow l).diagram.ids = b.diagram.ids ++ [] := fun l => by
    rw [Diagram.ids, (b.follow_kept l).2, Diagram.ids, List.append_nil]
  cases plan with
  | nothing => exact (List.append_nil _).symm
  | value reference =>
    obtain ⟨-, -, hdiagram, -⟩ := b.record_kept .debug "assembler"
      ("Event attribute " ++ a.name ++ " references data value " ++ reference ++ "; skipping")
    exact (congrArg Diagram.ids hdiagram).trans (List.append_nil _).symm
  | process id => exact hfollow (.edge ⟨element, id, a.name⟩)
  | unreadable cause => exact hfollow (.unreadable cause)
  | inline calls assigns =>
    rw [foldl_requests_inline, addHandler_eq] at hlive ⊢
    obtain ⟨-, -, hadded⟩ := addNode_of_live ((grows_followAll false _ _).live.mp hlive).1
    rw [Diagram.ids, (followAll_kept _ _).2, hadded, List.map_append]
    rfl

section Carried

variable {d : Diagram} (hx : x.Shaped) (hd : d.ids.Nodup)
  (hheld : ∀ n, x.Holds n → ∃ n', d.node? n.id = some n' ∧ n'.Continues n)

include hx hd hheld

/-- A process that was added leads to all that the code changes, also later on. -/
lemma conveys_addHandler {b : Build} {element : String} {a : Attribute} {scope : Scope}
    {calls assigns : List String}
    (hlive : (addHandler x b element a (calls.map (resolveScope scope))
      (assigns.map (resolveScope scope))).Live)
    (hedits : Diagram.Edits false (addHandler x b element a (calls.map (resolveScope scope))
      (assigns.map (resolveScope scope))).diagram d)
    (hknown : ∀ id, x.Names id → id ∈ b.diagram.ids) (helement : element ∈ b.diagram.ids)
    {c : Binding} {base : String} (h : Changes x scope calls assigns c base)
    (hprocess : c.isProcess = false) :
    d.Conveys element (Session.idOf "handler" (b.session.count "handler")) c.node base := by
  have hnode := exists_node_meet (r := .handle element a _ _) rfl hlive
  rw [addHandler_eq] at hlive hedits
  obtain ⟨-, hfree, -⟩ := addNode_of_live ((grows_followAll false _ _).live.mp hlive).1
  -- the process is new, so no edge that it asks for is a loop
  have hnew : ∀ id ∈ b.diagram.ids, id ≠ Session.idOf "handler" (b.session.count "handler") := by
    rintro id hid rfl
    exact hfree hid
  have hholds := h.holds
  have hne := hnew _ (hknown _ ⟨_, hholds, rfl⟩)
  obtain ⟨label, hmem, hbase⟩ := exists_link_of_changes hx h hprocess hne element a
  refine ⟨?process, hheld _ hholds, ?run, ?change⟩
  case process =>
    obtain ⟨n, hn, hid, htype⟩ := hnode
    rw [meet, addHandler_eq] at hn
    obtain ⟨n', hn', hcontinues⟩ := hedits.exists_node hn
    exact ⟨n', hid ▸ hcontinues.id ▸ Diagram.node?_eq_some hd hn', hcontinues.type.trans htype⟩
  case run =>
    exact ⟨_, hedits.mem_edges (mem_edges_followAll hlive List.mem_cons_self
      (hnew _ helement)), rfl, rfl⟩
  case change =>
    exact ⟨_, hedits.mem_edges (mem_edges_followAll hlive hmem hne.symm), rfl, rfl, hbase⟩

/-- **One attribute.** It adds at most one process, which leads to all that its code changes. -/
lemma exists_carries {b : Build} {p : PlacedElement} {a : Attribute}
    (hlive : (linkAttribute x p.scope p.id b a).Live)
    (hedits : Diagram.Edits false (linkAttribute x p.scope p.id b a).diagram d)
    (hknown : ∀ id, x.Names id → id ∈ b.diagram.ids) (hp : p.id ∈ b.diagram.ids) :
    ∃ handler?, (linkAttribute x p.scope p.id b a).diagram.ids =
        b.diagram.ids ++ Option.toList handler? ∧ d.Carries x p a handler? := by
  by_cases hevent : isEventAttribute a.name = true
  · rw [linkAttribute_event hevent] at hlive hedits ⊢
    refine ⟨_, ids_requests hlive, ?_⟩
    intro _ form calls references assigns hcontent c base hchanges hprocess
    rw [hcontent, planHandler_of_changes hchanges hprocess form references] at hlive hedits ⊢
    exact ⟨_, rfl, conveys_addHandler hx hd hheld hlive hedits hknown hp hchanges hprocess⟩
  · obtain ⟨es, hlinked⟩ := linkAttribute_other x p.scope p.id b hevent
    refine ⟨none, ?_, fun h => absurd h hevent⟩
    rw [hlinked, linkAll_eq_followAll, Diagram.ids, (followAll_kept b _).2]
    exact (List.append_nil _).symm

/-- The attributes of an element, one after the other. -/
lemma exists_handlers {p : PlacedElement} (attributes : List Attribute) {b : Build}
    (hlive : (attributes.foldl (linkAttribute x p.scope p.id) b).Live)
    (hedits : Diagram.Edits false
      (attributes.foldl (linkAttribute x p.scope p.id) b).diagram d)
    (hknown : ∀ id, x.Names id → id ∈ b.diagram.ids) (hp : p.id ∈ b.diagram.ids) :
    ∃ handlers : List (Option String),
      (attributes.foldl (linkAttribute x p.scope p.id) b).diagram.ids =
        b.diagram.ids ++ handlers.flatMap Option.toList ∧
      List.Forall₂ (d.Carries x p) attributes handlers := by
  induction attributes generalizing b with
  | nil => exact ⟨[], (List.append_nil _).symm, .nil⟩
  | cons a rest ih =>
    have hgrows := grows_meetAll (x := x) (linkAttribute x p.scope p.id b a)
      (rest.flatMap (attributeRequests x p.scope p.id))
    rw [List.foldl_flatMap] at hgrows
    obtain ⟨handler?, hids, hcarries⟩ := exists_carries hx hd hheld (hgrows.live.mp hlive).1
      (hgrows.edits.trans hedits) hknown hp
    have hmono : ∀ id ∈ b.diagram.ids, id ∈ (linkAttribute x p.scope p.id b a).diagram.ids :=
      fun id hid => hids ▸ List.mem_append_left _ hid
    obtain ⟨handlers, hids', hall⟩ :=
      ih hlive hedits (fun id hid => hmono id (hknown id hid)) (hmono _ hp)
    refine ⟨handler? :: handlers, ?_, .cons hcarries hall⟩
    rw [List.foldl_cons, hids', hids, List.append_assoc, List.flatMap_cons]

/-- The elements, one after the other. Those without attributes add no processes. -/
lemma exists_places (elements : List PlacedElement) {b : Build}
    (hlive : (elements.foldl (linkElement x) b).Live)
    (hedits : Diagram.Edits false (elements.foldl (linkElement x) b).diagram d)
    (hknown : ∀ id, x.Names id → id ∈ b.diagram.ids)
    (helements : ∀ p ∈ elements, p.id ∈ b.diagram.ids) :
    ∃ places : List (PlacedElement × List (Option String)),
      places.map Prod.fst = elements.filter (!·.element.attributes.isEmpty) ∧
      (elements.foldl (linkElement x) b).diagram.ids =
        b.diagram.ids ++ places.flatMap (·.2.flatMap Option.toList) ∧
      ∀ q ∈ places, List.Forall₂ (d.Carries x q.1) q.1.element.attributes q.2 := by
  induction elements generalizing b with
  | nil => exact ⟨[], rfl, (List.append_nil _).symm, by simp⟩
  | cons p rest ih =>
    have hgrows := grows_meetAll (x := x) (linkElement x b p) (requests x rest)
    rw [← foldl_linkElement] at hgrows
    have hlive' := (hgrows.live.mp hlive).1
    have hedits' := hgrows.edits.trans hedits
    have hlinked := linkElement_eq (x := x) b p
    -- what the element shows adds edges only
    have hshown : ((b.linkAll (shownEdges x p.scope p.id "display" p.element.display)).linkAll
        (p.element.calls.flatMap (displayCallEdges x p.scope p.id))).diagram.ids =
        b.diagram.ids := by
      rw [linkAll_eq_followAll, linkAll_eq_followAll, Diagram.ids, (followAll_kept _ _).2,
        (followAll_kept _ _).2, Diagram.ids]
    rw [hlinked] at hlive' hedits'
    obtain ⟨handlers, hids, hall⟩ := exists_handlers hx hd hheld _ hlive' hedits'
      (fun id hid => hshown ▸ hknown id hid) (hshown ▸ helements p List.mem_cons_self)
    rw [hshown, ← hlinked] at hids
    have hmono : ∀ id ∈ b.diagram.ids, id ∈ (linkElement x b p).diagram.ids :=
      fun id hid => hids ▸ List.mem_append_left _ hid
    obtain ⟨places, hplaces, hids', hcarried⟩ := ih hlive hedits
      (fun id hid => hmono id (hknown id hid))
      fun q hq => hmono _ (helements q (List.mem_cons_of_mem _ hq))
    rw [List.foldl_cons, hids', hids]
    cases hattributes : p.element.attributes with
    | nil =>
      rw [hattributes] at hall
      cases hall
      refine ⟨places, ?_, by simp, hcarried⟩
      rw [hplaces, List.filter_cons_of_neg (by simp [hattributes])]
    | cons a more =>
      refine ⟨(p, handlers) :: places, ?_, ?_, List.forall_mem_cons.mpr ⟨hall, hcarried⟩⟩
      · rw [List.map_cons, hplaces, List.filter_cons_of_pos (by simp [hattributes])]
      · rw [List.append_assoc, List.flatMap_cons]

end Carried

/-! ## All elements -/

/-- The places of all elements with attributes, in document order, and for each attribute the
process that it adds, if any. -/
structure Places (output : List RenderNode) (x : NameIndex) (before : List String) (d : Diagram)
    (places : List (PlacedElement × List (Option String))) : Prop where
  elements : places.map (fun q => (q.1.element, q.1.scope)) =
    (elementsIn output []).filter (!·.1.attributes.isEmpty)
  once : (places.map (·.1.id)).Nodup
  shown : ∀ q ∈ places, ∃ n, d.node? q.1.id = some n ∧ n.Shows q.1
  carried : ∀ q ∈ places, List.Forall₂ (d.Carries x q.1) q.1.element.attributes q.2
  /-- No other nodes are added. -/
  added : d.ids = before ++ places.flatMap (·.2.flatMap Option.toList)
  nodup : d.ids.Nodup

lemma Places.merge {output : List RenderNode} {x : NameIndex} {before : List String} {d : Diagram}
    {places : List (PlacedElement × List (Option String))} (h : Places output x before d places) :
    Places output x before (d.replaceEdges (mergeEdges d.edges)) places where
  elements := h.elements
  once := h.once
  shown := h.shown
  carried := fun q hq => (h.carried q hq).imp fun _ _ hcarries => hcarries.merge
  added := h.added
  nodup := h.nodup

/-- The places of the elements with attributes. -/
def attributed (s : Session) : List PlacedElement :=
  (layout s).elements.filter (!·.element.attributes.isEmpty)

/-- They are in document order, with the loop items in scope. -/
lemma elements_attributed (s : Session) :
    (attributed s).map (fun p => (p.element, p.scope)) =
      (elementsIn s.component.output []).filter (!·.1.attributes.isEmpty) := by
  have hkept : (layout s).kept (!·.attributes.isEmpty) =
      (elementsIn s.component.output []).filter (!·.1.attributes.isEmpty) :=
    Layout.elements_ofOutput (fun e he => by simp [Element.hasBindings, he]) _ _ _
  rw [← hkept, Layout.kept, List.filter_map]
  rfl

section Sound

variable {s : Session} (hs : s.Sound)

include hs

/-- What a name stands for is there once the markup is laid out. -/
lemma mem_layout_of_names {id : String} (hid : (index s).Names id) :
    id ∈ (layout s).build.diagram.ids := by
  obtain ⟨-, -, hlive, -⟩ := live_stages_of_sound hs
  rw [mem_layout_iff hs.coherent hs.nested hlive hid, hs.groupless]
  simp [hollowIds, hollow]

lemma mem_layout_of_element {p : PlacedElement} (hp : p ∈ (layout s).elements) :
    p.id ∈ (layout s).build.diagram.ids := by
  obtain ⟨-, -, hlive, -⟩ := live_stages_of_sound hs
  obtain ⟨n, hn, hshows⟩ := (complete_layout hs.coherent hs.groupless hlive).shown p hp
  exact hshows.id ▸ List.mem_map_of_mem hn

lemma exists_node?_of_holds {n : Node} (hn : (index s).Holds n) :
    ∃ n', (connected s).diagram.node? n.id = some n' ∧ n'.Continues n := by
  obtain ⟨n', hn', hcontinues⟩ := exists_node_of_placed hs (NameIndex.mem_of_holds hn)
  exact ⟨n', hcontinues.id ▸ Diagram.node?_eq_some (coherent_connected hs).ids_nodup hn',
    hcontinues⟩

lemma exists_node?_of_element {p : PlacedElement} (hp : p ∈ (layout s).elements) :
    ∃ n, (connected s).diagram.node? p.id = some n ∧ n.Shows p := by
  obtain ⟨n, hn, hshows⟩ := exists_node_of_element hs hp
  exact ⟨n, hshows.id ▸ Diagram.node?_eq_some (coherent_connected hs).ids_nodup hn, hshows⟩

/-- The places in the diagram of a sound session. -/
lemma exists_places_assemble : ∃ places, Places s.component.output (index s)
    (layout s).build.diagram.ids (assemble s).diagram places := by
  obtain ⟨-, -, hlive, hlive'⟩ := live_stages_of_sound hs
  have hcomplete := complete_layout hs.coherent hs.groupless hlive
  have hnodup := (coherent_connected hs).ids_nodup
  have hconnected : (layout s).elements.foldl (linkElement (index s))
      ((layout s).controls.foldl (linkControl (index s)) (layout s).build) = connected s :=
    foldl_linkElement _ _
  -- the links of groups leave the nodes as they are
  have hids : ((layout s).controls.foldl (linkControl (index s)) (layout s).build).diagram.ids =
      (layout s).build.diagram.ids := by
    rw [Diagram.ids, (linkControls_kept _ _).2, Diagram.ids]
  have hknown : ∀ id, (index s).Names id → id ∈ (layout s).build.diagram.ids :=
    fun _ => mem_layout_of_names hs
  have helements : ∀ p ∈ (layout s).elements, p.id ∈ (layout s).build.diagram.ids :=
    fun _ => mem_layout_of_element hs
  rw [← hids] at hknown helements
  obtain ⟨places, hplaces, hadded, hcarried⟩ := exists_places (shaped_index hs.shaped) hnodup
    (fun _ => exists_node?_of_holds hs) (layout s).elements (by rw [hconnected]; exact hlive')
    (by rw [hconnected]; exact .refl false _) hknown helements
  rw [← attributed] at hplaces
  have hmem : ∀ q ∈ places, q.1 ∈ (layout s).elements := by
    intro q hq
    have hq : q.1 ∈ attributed s := hplaces ▸ List.mem_map_of_mem hq
    exact (List.mem_filter.mp hq).1
  rw [diagram_of_sound hs]
  refine ⟨places, Places.merge ⟨?elements, ?once, ?shown, hcarried, ?added, hnodup⟩⟩
  case shown => exact fun q hq => exists_node?_of_element hs (hmem q hq)
  case elements =>
    have hview : places.map (fun q => (q.1.element, q.1.scope)) =
        (places.map Prod.fst).map fun p => (p.element, p.scope) := by
      rw [List.map_map]
      rfl
    rw [hview, hplaces, elements_attributed]
  case once =>
    have hview : places.map (·.1.id) = (places.map Prod.fst).map (·.id) := List.map_map.symm
    rw [hview, hplaces]
    exact hcomplete.once.sublist (List.filter_sublist.map _)
  case added =>
    rw [hconnected, hids] at hadded
    exact hadded

end Sound

end Assembly

namespace Analyzer

/-- **Updates from the markup.** With any selection of built-in processors that discovery accepts,
an analysis is finished, and every element with attributes has its node in the diagram. Each of its
attributes adds at most one process, and nothing else is added once the markup is laid out. If an
event attribute holds code, this process leads from the element to all that the code changes,
processes of the component apart: by an update to what is assigned or written, and by a dispatch to
what is sent an action. -/
theorem execute_updates_conveyed (a : Analyzer) (c : Component) (source : Option String)
    (sel : Selection) (ps : List Processor) (hsel : discover sel [] = .ok ps)
    (hr : a.registry = createRegistry sel []) :
    let s := a.dispatched { entries := ps } c source
    ∃ run places, (a.execute c source).2 = .ok run ∧ Assembly.Places c.output (Assembly.index s)
      (Assembly.layout s).build.diagram.ids run.diagram places := by
  obtain ⟨hsound, hcomponent, run, hrun, hdiagram⟩ := execute_discovered c source hsel hr
  obtain ⟨places, hplaces⟩ := Assembly.exists_places_assemble hsound
  rw [hcomponent, ← hdiagram] at hplaces
  exact ⟨run, places, hrun, hplaces⟩

/-- The items are changed by their name in the loop, and by the action that they are sent. -/
lemma changes_checklist : ∀ base ∈ ["updates", "dispatch"], ∃ b : Binding,
    b.node.id = "reducer_0" ∧ b.isProcess = false ∧
      Changes (Assembly.index (reactAnalyzer.dispatched
        { entries := [React.processor, Custom.processor] } checklist none)) [("item", "items")]
          ["send"] ["item.done"] b base := by
  rw [dispatched_single (a := reactAnalyzer) (c := checklist) rfl
    (select?_react (by decide +kernel))]
  refine List.forall_mem_cons.mpr ⟨?_, List.forall_mem_singleton.mpr ?_⟩
  · exact ⟨_, by decide +kernel, by decide +kernel, .assign List.mem_cons_self rfl⟩
  · exact ⟨_, by decide +kernel, by decide +kernel,
      .dispatch List.mem_cons_self rfl (by decide +kernel)⟩

/-- Both changes of an item go through one process. -/
theorem execute_updates_conveyed_checklist :
    ∃ run element handler, (reactAnalyzer.execute checklist none).2 = .ok run ∧
      ∀ base ∈ ["updates", "dispatch"], ∃ changed, changed.id = "reducer_0" ∧
        run.diagram.Conveys element handler changed base := by
  obtain ⟨run, places, hrun, hplaces⟩ :=
    execute_updates_conveyed reactAnalyzer checklist none reactOnly _ discover_reactOnly rfl
  -- the first place is that of the item, which has one attribute
  obtain ⟨q, rest, rfl, hq, -⟩ := List.map_eq_cons_iff.mp hplaces.elements
  obtain ⟨helement, hscope⟩ := Prod.mk.inj hq
  have hcarried := hplaces.carried q List.mem_cons_self
  rw [helement] at hcarried
  obtain ⟨handler?, -, hcarries, -, hhandlers⟩ := List.forall₂_cons_left_iff.mp hcarried
  have hconveys : ∀ base ∈ ["updates", "dispatch"], ∃ changed : Node, changed.id = "reducer_0" ∧
      ∃ handler, handler? = some handler ∧
        run.diagram.Conveys q.1.id handler changed base := by
    intro base hbase
    obtain ⟨b, hid, hprocess, hchanges⟩ := changes_checklist base hbase
    rw [← show q.1.scope = [("item", "items")] from hscope] at hchanges
    exact ⟨b.node, hid, hcarries (by decide) _ _ _ _ rfl b base hchanges hprocess⟩
  obtain ⟨-, -, handler, rfl, -⟩ := hconveys "updates" List.mem_cons_self
  refine ⟨run, q.1.id, handler, hrun, fun base hbase => ?_⟩
  obtain ⟨changed, hid, handler', hsame, hconveyed⟩ := hconveys base hbase
  exact ⟨changed, hid, Option.some.inj hsame ▸ hconveyed⟩

end Analyzer

end ComponentFlow
