import ComponentFlow.Proofs.Identifiers
import ComponentFlow.Proofs.MergedLabels
import ComponentFlow.Proofs.Updates

/-!
# Labels of events

An element leads to a process that one of its event attributes runs, and the edge is labelled by the
name of the attribute. But then edges are merged, and merging reads the name like any other label.
`onClick`, `onclick` and `@click` come out as they are. In `on:click` and `v-on:click` the colon is
taken to set a sub-label apart, so they come out as `on: click` and `v-on: click`; and a line break
at the end, which the recognition of event attributes overlooks, is dropped (`eventLabel`).

That is all that happens to a name, as long as no other attribute of the element has the same base
(`execute_events_labelled`). An edge that starts at an element is labelled by one of its event
attributes, or else it is an update (`label_of_element`), and no update has the base of an event.
-/

namespace ComponentFlow

/-! ## Names of events as labels -/

namespace Text

lemma trim_append {s blanks : List Char} (hs : ∀ c ∈ s, isBlank c = false)
    (hblanks : ∀ c ∈ blanks, isBlank c = true) : trim (s ++ blanks) = s := by
  have hsurrounded := trim_surrounded (List.forall_mem_nil _) hblanks s
  rw [List.nil_append] at hsurrounded
  rw [hsurrounded]
  exact trim_eq_self (fun c hc => hs c (List.mem_of_mem_head? hc))
    fun c hc => hs c (List.mem_of_getLast? hc)

end Text

/-- Characters that mean nothing in a label. -/
def isLabelPart (c : Char) : Bool :=
  !Text.isBlank c && c != ':' && c != ','

lemma isLabelPart_of_isWord {c : Char} (h : Text.isWord c = true) : isLabelPart c = true := by
  have hne : c ≠ ':' ∧ c ≠ ',' := by
    refine ⟨?_, ?_⟩ <;>
    · rintro rfl
      exact absurd h (by decide)
  simp [isLabelPart, Text.isBlank_of_isWord h, hne]

lemma isLabelPart_of_isEventChar {c : Char} (h : isEventChar c = true) : isLabelPart c = true := by
  simp only [isEventChar, Bool.or_eq_true, beq_iff_eq] at h
  obtain (h | rfl) | rfl := h
  · exact isLabelPart_of_isWord h
  · decide
  · decide

/-- What stands before the colon in the names of events. -/
def directives : List (List Char) := ["on".toList, "v-on".toList]

/-- How the name of an event is read as a label. -/
inductive EventName : List Char → Prop
  | plain {w : List Char} (hw : w.all isLabelPart = true) (hstem : w ∉ directives) : EventName w
  | directive {stem rest : List Char} (hstem : stem ∈ directives)
      (hrest : rest.all isLabelPart = true) (hne : rest ≠ []) : EventName (stem ++ ':' :: rest)

lemma eventName_of_isEventForm {w : List Char} (h : isEventForm w = true) : EventName w := by
  have hsome : ∀ {p : Char → Bool} {rest : List Char}, (∀ c, p c = true → isLabelPart c = true) →
      someAll p rest = true → rest.all isLabelPart = true ∧ rest ≠ [] := by
    intro p rest hp hrest
    rw [someAll, Bool.and_eq_true] at hrest
    refine ⟨List.all_eq_true.mpr fun c hc => hp c (List.all_eq_true.mp hrest.2 c hc), ?_⟩
    simpa using hrest.1
  unfold isEventForm at h
  split at h
  · rename_i rest
    refine .plain ?_ (by simp [directives])
    rw [List.all_cons, (hsome (fun _ => isLabelPart_of_isEventChar) h).1]
    decide
  · rename_i rest
    obtain ⟨hrest, hne⟩ := hsome (fun _ => isLabelPart_of_isWord) h
    exact .directive (show ['o', 'n'] ∈ directives by decide) hrest hne
  · rename_i c rest _
    refine .plain ?_ (by simp [directives])
    have hword : ∀ d ∈ c :: rest, Text.isWord d = true := by
      rw [Bool.or_eq_true, Bool.and_eq_true] at h
      obtain ⟨hupper, hrest⟩ | hlower := h
      · refine List.forall_mem_cons.mpr ⟨Text.isWord_of_isLetter ?_, List.all_eq_true.mp hrest⟩
        rw [hupper, Bool.true_or]
      · intro d hd
        refine Text.isWord_of_isLetter ?_
        rw [List.all_eq_true.mp hlower d hd, Bool.or_true]
    have hplain : (c :: rest).all isLabelPart = true :=
      List.all_eq_true.mpr fun d hd => isLabelPart_of_isWord (hword d hd)
    rw [List.all_cons, List.all_cons, hplain]
    decide
  · split at h
    · rename_i rest hrest
      obtain ⟨hplain, hne⟩ := hsome (fun _ => isLabelPart_of_isEventChar) h
      rw [Text.afterStart?_eq_some_iff.mp hrest]
      exact .directive (show "v-on".toList ∈ directives by decide) hplain hne
    · cases h

/-- What merging makes of the name of an event: a line break at the end is dropped, and a blank is
put after the colon. -/
def eventLabel (name : String) : String :=
  let w := Text.withoutFinalBreak name.toList
  match Text.after? ':' w with
  | none => String.ofList w
  | some rest => String.ofList (Text.before ':' w) ++ ": " ++ String.ofList rest

/-- Plain characters, with or without a line break, are read as they stand. -/
lemma read_of_isLabelPart {w tail : List Char} (hw : w.all isLabelPart = true)
    (htail : tail ∈ [[], ['\n']]) :
    ':' ∉ w ++ tail ∧ ',' ∉ w ++ tail ∧ Text.trim (w ++ tail) = w := by
  have hplain : ∀ c ∈ w, Text.isBlank c = false ∧ c ≠ ':' ∧ c ≠ ',' := by
    intro c hc
    simpa [isLabelPart, and_assoc] using List.all_eq_true.mp hw c hc
  obtain ⟨hblanks, hcolon, hcomma⟩ :
      (∀ c ∈ tail, Text.isBlank c = true) ∧ ':' ∉ tail ∧ ',' ∉ tail := by
    obtain rfl | htail := List.mem_cons.mp htail
    · simp
    · have hbreak : Text.isBlank '\n' = true := by decide
      rw [List.mem_singleton.mp htail]
      simp [hbreak]
  refine ⟨?_, ?_, Text.trim_append (fun c hc => (hplain c hc).1) hblanks⟩
  · rw [List.mem_append, not_or]
    exact ⟨fun hc => (hplain _ hc).2.1 rfl, hcolon⟩
  · rw [List.mem_append, not_or]
    exact ⟨fun hc => (hplain _ hc).2.2 rfl, hcomma⟩

lemma read_of_mem_directives : ∀ stem ∈ directives, ':' ∉ stem ∧ Text.trim stem = stem := by decide

/-- **Reading the name of an event.** It is a base label as it stands, or a directive with one
sub-label. -/
lemma Edge.reads_event {e : Edge} (h : isEventAttribute e.label = true) :
    (e.base = eventLabel e.label ∧ e.subLabels = [] ∧ e.base.toList ∉ directives) ∨
      (e.base.toList = Text.before ':' e.label.toList ∧ e.base.toList ∈ directives ∧
        ∃ sub, e.subLabels = [sub] ∧ eventLabel e.label = e.base ++ ": " ++ sub) := by
  obtain ⟨tail, htail, hlabel⟩ := Text.exists_finalBreak e.label.toList
  have hname := eventName_of_isEventForm h
  simp only [eventLabel]
  generalize Text.withoutFinalBreak e.label.toList = w at hname hlabel
  cases hname with
  | plain hw hstem =>
    obtain ⟨hcolon, -, htrim⟩ := read_of_isLabelPart hw htail
    have hbase : e.base = String.ofList w := by
      rw [Edge.base, hlabel, Text.before_eq_self hcolon, htrim]
    have hcolon' : ':' ∉ w := fun hc => hcolon (List.mem_append_left _ hc)
    refine .inl ⟨?_, ?_, ?_⟩
    · rw [hbase, Text.after?_eq_none hcolon']
    · rw [Edge.subLabels, hlabel, Text.after?_eq_none hcolon]
    · rwa [hbase, String.toList_ofList]
  | @directive stem rest hstem hrest hne =>
    obtain ⟨-, hcomma, htrim⟩ := read_of_isLabelPart hrest htail
    obtain ⟨hcolon, htrim'⟩ := read_of_mem_directives stem hstem
    rw [List.append_assoc, List.cons_append] at hlabel
    have hbase : e.base = String.ofList stem := by
      rw [Edge.base, hlabel, Text.before_append hcolon, htrim']
    refine .inr ⟨?_, ?_, String.ofList rest, ?_, ?_⟩
    · rw [hbase, hlabel, Text.before_append hcolon, String.toList_ofList]
    · rwa [hbase, String.toList_ofList]
    · rw [Edge.subLabels, hlabel, Text.after?_append hcolon]
      simp [Text.pieces_eq_single hcomma, htrim, hne]
    · rw [Text.after?_append hcolon, Text.before_append hcolon, hbase]

/-- Which names come out as they are. -/
lemma eventLabel_eq_self_iff {name : String} (h : isEventAttribute name = true) :
    eventLabel name = name ↔ ':' ∉ name.toList ∧ '\n' ∉ name.toList := by
  obtain ⟨tail, htail, hlabel⟩ := Text.exists_finalBreak name.toList
  have hname := eventName_of_isEventForm h
  rw [← String.toList_inj]
  simp only [eventLabel]
  generalize Text.withoutFinalBreak name.toList = w at hname hlabel
  cases hname with
  | plain hw hstem =>
    obtain ⟨hcolon, -, -⟩ := read_of_isLabelPart hw htail
    have hcolon' : ':' ∉ w := fun hc => hcolon (List.mem_append_left _ hc)
    have hbreak : '\n' ∉ w := fun hc => absurd (List.all_eq_true.mp hw _ hc) (by decide)
    rw [Text.after?_eq_none hcolon', String.toList_ofList, hlabel]
    obtain rfl | htail := List.mem_cons.mp htail
    · simp [hcolon', hbreak]
    · rw [List.mem_singleton.mp htail]
      simp
  | @directive stem rest hstem hrest hne =>
    have hcolon := (read_of_mem_directives stem hstem).1
    rw [Text.after?_append hcolon, Text.before_append hcolon, hlabel]
    refine iff_of_false (fun heq => ?_) (by simp)
    -- the blank would have to be the first character after the colon
    obtain ⟨c, more, rfl⟩ := List.exists_cons_of_ne_nil hne
    obtain ⟨rfl, -⟩ : ' ' = c ∧ c :: more = more ++ tail := by simpa using heq
    exact absurd (List.all_eq_true.mp hrest ' ' List.mem_cons_self) (by decide)

namespace Assembly

open Build

variable {x : NameIndex}

/-! ## Edges that start at an element -/

/-- Whether an edge is labelled by an event attribute of an element. -/
def LabelledBy (e : Edge) (element : Element) : Prop :=
  ∃ a ∈ element.attributes, isEventAttribute a.name = true ∧ e.label = a.name

/-- What an element asks for starts at a node with a name, at a handler, or at the element. -/
lemma source_of_elementRequests {p : PlacedElement} {r : Request} (hr : r ∈ elementRequests x p)
    {handler : String} {e : Edge} (he : .edge e ∈ r.links x handler) :
    (x.Names e.source ∨ e.source = handler) ∨
      e.source = p.id ∧ (LabelledBy e p.element ∨ e.base = "updates") := by
  obtain ⟨e', he', rfl⟩ | ⟨a, ha, hevent, hr⟩ := elementRequests_cases hr
  · obtain rfl := Link.edge.inj (List.mem_singleton.mp he)
    obtain ⟨hsource, -⟩ | ⟨hsource, -, b, hlabel⟩ := he'.ends
    · exact .inl (.inl hsource)
    · have hupdates := b.base_label (by decide : IsBase "updates") e.source e.target
      rw [← hlabel] at hupdates
      exact .inr ⟨hsource, .inr hupdates⟩
  · have hx : ∀ id, x.Names id → x.Names id ∨ id = handler := fun _ => .inl
    have hhandler : x.Names handler ∨ handler = handler := .inr rfl
    obtain ⟨id, -, heq⟩ | ⟨cause, -, heq⟩ | ⟨-, he⟩ := handlerRequests_cases hr he
    · obtain rfl := Link.edge.inj heq
      exact .inr ⟨rfl, .inl ⟨a, ha, hevent, rfl⟩⟩
    · cases heq
    · obtain heq | ⟨calls, he⟩ | ⟨assigns, e', he', heq⟩ := he
      · obtain rfl := Link.edge.inj heq
        exact .inr ⟨rfl, .inl ⟨a, ha, hevent, rfl⟩⟩
      · exact .inl (carriedLinks_isFlow hx hhandler calls _ he).1.1
      · obtain rfl := Link.edge.inj heq
        exact .inl (assignEdges_known assigns hx hhandler e he').1

section Sound

variable {s : Session} (hs : s.Sound)

include hs

lemma mem_routed_of_names {id : String} (hid : (index s).Names id) :
    id ∈ (routed s).diagram.ids := by
  obtain ⟨-, hrouted, -⟩ := live_stages_of_sound hs
  exact knows_routed s hrouted id (isPlaced_of_names hid)

/-- The nodes of elements are new when the markup is laid out. -/
lemma fresh_of_element {p : PlacedElement} (hp : p ∈ (layout s).elements) :
    (∃ k, p.id = Session.idOf "jsx" k) ∧ p.id ∉ (routed s).diagram.ids := by
  obtain ⟨-, -, hlive, -⟩ := live_stages_of_sound hs
  have hcoherent := (grows_before s).edits.coherent hs.coherent
  have hnested := (grows_before s).edits.nested hs.nested
  have hinv := Layout.inv_lay hcoherent s.component.output
    (((placed s).2.2.filter (·.exported)).map (·.id))
  have hlaid := ((Layout.pruned_lay hcoherent hnested _ _).live.mp hlive).1
  obtain ⟨hstem, hdraws⟩ := hinv.elements p hp
  exact ⟨hstem, (hinv.laying.grows.live.mp hlaid).2.1 _ hdraws⟩

/-- **Edges that start at an element** are labelled by one of its event attributes, or else they are
updates. -/
lemma label_of_element {p : PlacedElement} (hp : p ∈ (layout s).elements) {e : Edge}
    (he : e ∈ (connected s).diagram.edges) (hsource : e.source = p.id) :
    LabelledBy e p.element ∨ e.base = "updates" := by
  obtain ⟨-, -, hlive, -⟩ := live_stages_of_sound hs
  obtain ⟨⟨k, hk⟩, hfresh⟩ := fresh_of_element hs hp
  rw [← hsource] at hfresh
  have hnameless : ¬ (index s).Names e.source := fun hnames =>
    hfresh (mem_routed_of_names hs hnames)
  obtain he | ⟨c, -, he⟩ | ⟨number, he⟩ := mem_edges_markup hs.coherent hs.nested hlive he
  · have hends := ((grows_before s).edits.coherent hs.coherent).ends e he
    exact absurd hends.1 hfresh
  · exact absurd (controlEdges_known he).1 hnameless
  · obtain ⟨r, hr, m, -, -, hl⟩ := exists_of_mem_linksFrom he
    obtain ⟨q, hq, hr⟩ := List.mem_flatMap.mp hr
    obtain (hnames | hhandler) | ⟨hq', hlabel⟩ := source_of_elementRequests hr hl
    · exact absurd hnames hnameless
    · have hstem := (Session.idOf_inj.mp (hk.symm.trans (hsource.symm.trans hhandler))).1
      exact absurd hstem (by decide)
    · have honce := (complete_layout hs.coherent hs.groupless hlive).once
      obtain rfl := List.inj_on_of_nodup_map honce hq hp (hq'.symm.trans hsource)
      exact hlabel

end Sound

/-! ## Events that run a process -/

/-- Whether an attribute runs a process of the component, by its name or by code that does nothing
but call it. -/
inductive Runs (x : NameIndex) (scope : Scope) : AttributeContent → Binding → Prop
  | name {target : String} {b : Binding} (hne : target ≠ "")
      (hb : resolveIn x scope target = some b) (hprocess : b.isProcess = true) :
      Runs x scope (.reference (some target)) b
  | call {form : CodeForm} {call : String} {references : List String} {b : Binding}
      (hb : resolveIn x scope call = some b) (hprocess : b.isProcess = true) :
      Runs x scope (.code form [call] references []) b

lemma Runs.plan {scope : Scope} {content : AttributeContent} {b : Binding}
    (h : Runs x scope content b) : planHandler x scope content = .process b.node.id := by
  cases h with
  | @name target _ hne hb hprocess =>
    rw [planHandler_reference hne, planReference,
      show x.resolve (resolveScope scope target) = some b from hb]
    exact if_pos hprocess
  | @call form call references _ hb hprocess =>
    have hsole : soleProcess x [resolveScope scope call] [] = some b.node.id := by
      rw [soleProcess, show x.resolve (resolveScope scope call) = some b from hb]
      simp [Option.filter, hprocess]
    simp [planHandler, planCode, hsole]

lemma Runs.holds {scope : Scope} {content : AttributeContent} {b : Binding}
    (h : Runs x scope content b) : x.Holds b.node := by
  cases h with
  | name hne hb hprocess => exact NameIndex.holds_of_resolve hb
  | call hb hprocess => exact NameIndex.holds_of_resolve hb

/-- If all requests can be met, all edges among them are drawn, apart from loops. -/
lemma mem_edges_meetAll {b : Build} {rs : List Request} (hlive : (rs.foldl (meet x) b).Live)
    {e : Edge} (he : .follow (.edge e) ∈ rs) (hne : e.source ≠ e.target) :
    e ∈ (rs.foldl (meet x) b).diagram.edges := by
  induction rs generalizing b with
  | nil => cases he
  | cons r rest ih =>
    have hrest := grows_meetAll (x := x) (meet x b r) rest
    obtain rfl | he := List.mem_cons.mp he
    · exact hrest.edits.mem_edges (mem_edges_follow (hrest.live.mp hlive).1 hne)
    · exact ih hlive he

end Assembly

/-! ## Merged events -/

/-- What a diagram shows of an event attribute that runs a process: an edge from the element to the
process. The label is the very name of the attribute exactly if this has no colon and no line break.
-/
structure Diagram.ShowsEvent (d : Diagram) (element name : String) (process : Node) : Prop where
  target : ∃ n, d.node? process.id = some n ∧ n.Continues process
  edge : ⟨element, process.id, eventLabel name⟩ ∈ d.edges
  faithful : ⟨element, process.id, name⟩ ∈ d.edges ↔ ':' ∉ name.toList ∧ '\n' ∉ name.toList

/-- An edge with the name of an event as label is a flow with the label of the event. -/
lemma toEdge_ofEdge_event {e : Edge} (h : isEventAttribute e.label = true) :
    (Flow.ofEdge e).toEdge = ⟨e.source, e.target, eventLabel e.label⟩ := by
  rw [Flow.ofEdge_eq, Flow.toEdge, Flow.label]
  obtain ⟨hbase, hsubs, -⟩ | ⟨-, -, sub, hsubs, hlabel⟩ := e.reads_event h
  · simp [hsubs, hbase]
  · have hone : ", ".intercalate [sub] = sub := rfl
    simp [hsubs, hlabel, List.eraseDups_cons, hone]

/-- Names of events with the same base have the same sub-labels, if they are the same or not set
apart by a colon. -/
lemma subLabels_congr_event {e e' : Edge} (h : isEventAttribute e.label = true)
    (h' : isEventAttribute e'.label = true) (hbase : e'.base = e.base)
    (halone : Text.before ':' e'.label.toList = Text.before ':' e.label.toList →
      e'.label = e.label) : e'.subLabels = e.subLabels := by
  obtain ⟨-, hsubs, hplain⟩ | ⟨hbefore, hdirective, -⟩ := e.reads_event h
  · obtain ⟨-, hsubs', -⟩ | ⟨-, hdirective', -⟩ := e'.reads_event h'
    · rw [hsubs, hsubs']
    · exact absurd (hbase ▸ hdirective') hplain
  · obtain ⟨-, -, hplain'⟩ | ⟨hbefore', -⟩ := e'.reads_event h'
    · exact absurd (hbase ▸ hdirective) hplain'
    · have hlabel := halone (by rw [← hbefore', ← hbefore, hbase])
      rw [Edge.subLabels, hlabel, Edge.subLabels]

/-- Merging shows an event if its edge is merged with none that says something else. -/
lemma Diagram.showsEvent_merge {d : Diagram} {element name : String} {process : Node}
    (hevent : isEventAttribute name = true)
    (htarget : ∃ n, d.node? process.id = some n ∧ n.Continues process)
    (hmerged : (Flow.ofEdge ⟨element, process.id, name⟩).toEdge ∈ mergeEdges d.edges) :
    (d.replaceEdges (mergeEdges d.edges)).ShowsEvent element name process := by
  have hbase : IsBase (Flow.ofEdge ⟨element, process.id, name⟩).base := by
    rw [Flow.ofEdge_eq]
    exact Edge.isBase_base _
  have hkey := (Flow.key_toEdge hbase).trans (Flow.ofEdge_key _)
  have hedge := toEdge_ofEdge_event (e := ⟨element, process.id, name⟩) hevent
  rw [hedge] at hmerged hkey
  refine ⟨htarget, hmerged, ?_⟩
  rw [← eventLabel_eq_self_iff hevent]
  refine ⟨fun hmem => ?_, fun heq => ?_⟩
  · exact congrArg Edge.label
      (List.inj_on_of_nodup_map (nodup_mergeEdges d.edges) hmerged hmem hkey)
  · rw [show (Edge.mk element process.id name).label = name from rfl, heq] at hmerged
    exact hmerged

namespace Assembly

open Build

section Sound

variable {s : Session} (hs : s.Sound) {p : PlacedElement} (hp : p ∈ (layout s).elements)
  {a : Attribute} (ha : a ∈ p.element.attributes) (hevent : isEventAttribute a.name = true)
  {b : Binding} (hruns : Runs (index s) p.scope a.content b)

include hs hp ha hevent hruns

/-- The edge of an event, before edges are merged. -/
lemma mem_edges_of_runs : ⟨p.id, b.node.id, a.name⟩ ∈ (connected s).diagram.edges := by
  obtain ⟨-, -, -, hlive⟩ := live_stages_of_sound hs
  have hasked : .follow (.edge ⟨p.id, b.node.id, a.name⟩) ∈ attributeRequests (index s) p.scope p.id
      a := by
    rw [attributeRequests, not_isTwoWay_of_isEvent hevent, if_neg Bool.false_ne_true,
      if_pos hevent, hruns.plan]
    exact List.mem_cons_self
  refine mem_edges_meetAll hlive (List.mem_flatMap.mpr ⟨p, hp, List.mem_append_right _
    (List.mem_flatMap.mpr ⟨a, ha, hasked⟩)⟩) fun heq => ?_
  -- the process was there before the element
  refine (fresh_of_element hs hp).2 ?_
  rw [show p.id = b.node.id from heq]
  exact mem_routed_of_names hs ⟨b.node, hruns.holds, rfl⟩

/-- The edge of an event is merged with none that says something else. -/
lemma toEdge_mem_of_runs
    (halone : ∀ other ∈ p.element.attributes,
      Text.before ':' other.name.toList = Text.before ':' a.name.toList → other.name = a.name) :
    (Flow.ofEdge ⟨p.id, b.node.id, a.name⟩).toEdge ∈ mergeEdges (connected s).diagram.edges := by
  refine toEdge_mem_mergeEdges (mem_edges_of_runs hs hp ha hevent hruns) fun e he hkey => ?_
  simp only [Edge.key, Prod.mk.injEq] at hkey
  obtain ⟨hsource, -, hbase⟩ := hkey
  obtain ⟨a', ha', hevent', hlabel⟩ | hupdates := label_of_element hs hp he hsource
  · refine subLabels_congr_event hevent (hlabel ▸ hevent') hbase fun hbefore => ?_
    rw [hlabel] at hbefore ⊢
    exact halone a' ha' hbefore
  · have hunasked := (unasked_of_isEvent hevent p.id b.node.id).1 ("updates", [.process, .element])
      (by decide)
    exact absurd (hupdates.symm.trans hbase) hunasked

end Sound

end Assembly

namespace Analyzer

/-- **Labels of events.** With any selection of built-in processors that discovery accepts, an
analysis is finished, and every element with attributes has its node in the diagram. Let an event
attribute of the element run a process of the component, and let no attribute with another name have
the same base, which is the text before the first colon. Then an edge leads from the element to the
process, and its label is the name of the attribute, without a line break at the end and with a
blank after the colon. So an edge with the very name of the attribute is there exactly if the name
has neither a colon nor a line break. -/
theorem execute_events_labelled (a : Analyzer) (c : Component) (source : Option String)
    (sel : Selection) (ps : List Processor) (hsel : discover sel [] = .ok ps)
    (hr : a.registry = createRegistry sel []) :
    ∃ run, ∃ elements : List PlacedElement, (a.execute c source).2 = .ok run ∧
      elements.map (fun p => (p.element, p.scope)) =
        (elementsIn c.output []).filter (!·.1.attributes.isEmpty) ∧
      (elements.map (·.id)).Nodup ∧
      ∀ p ∈ elements, (∃ n, run.diagram.node? p.id = some n ∧ n.Shows p) ∧
        ∀ attr ∈ p.element.attributes, isEventAttribute attr.name = true →
          (∀ other ∈ p.element.attributes,
            Text.before ':' other.name.toList = Text.before ':' attr.name.toList →
              other.name = attr.name) →
          ∀ b, Assembly.Runs (Assembly.index (a.dispatched { entries := ps } c source)) p.scope
              attr.content b →
            run.diagram.ShowsEvent p.id attr.name b.node := by
  obtain ⟨hsound, hcomponent, run, hrun, hdiagram⟩ := execute_discovered c source hsel hr
  obtain ⟨-, -, hlive, -⟩ := Assembly.live_stages_of_sound hsound
  have hcomplete := Assembly.complete_layout hsound.coherent hsound.groupless hlive
  have helements := Assembly.elements_attributed (a.dispatched { entries := ps } c source)
  rw [hcomponent] at helements
  refine ⟨run, Assembly.attributed _, hrun, helements,
    hcomplete.once.sublist (List.filter_sublist.map _), fun p hp => ?_⟩
  obtain ⟨hp, -⟩ := List.mem_filter.mp hp
  rw [hdiagram, Assembly.diagram_of_sound hsound]
  refine ⟨?_, fun attr ha hevent halone b hruns => ?_⟩
  · rw [Diagram.node?_replaceEdges]
    exact Assembly.exists_node?_of_element hsound hp
  · exact Diagram.showsEvent_merge hevent (Assembly.exists_node?_of_holds hsound hruns.holds)
      (Assembly.toEdge_mem_of_runs hsound hp ha hevent hruns halone)

/-- A dialog that is closed by a click, or when its button is left. -/
def dialog : Component :=
  { name := "Dialog", framework := some "svelte"
    processes := [{ name := "close" }]
    output :=
      [.element
        { tag := "button"
          attributes :=
            [⟨"on:click", .reference (some "close"), none⟩,
             ⟨"onblur", .code .arrow ["close"] [] [], none⟩] } []] }

/-- The process that closes the dialog, by its name and by its call. -/
lemma runs_dialog : ∃ b : Binding, b.node.id = "process_0" ∧
    ∀ content ∈ [.reference (some "close"), .code .arrow ["close"] [] []],
      Assembly.Runs (Assembly.index (reactAnalyzer.dispatched
        { entries := [React.processor, Custom.processor] } dialog none)) [] content b := by
  rw [dispatched_eq (a := reactAnalyzer) (c := dialog) rfl]
  refine ⟨_, by decide +kernel, List.forall_mem_cons.mpr ⟨.name (by decide) rfl (by decide +kernel),
    List.forall_mem_singleton.mpr (.call rfl (by decide +kernel))⟩⟩

/-- The click has its colon followed by a blank, and the other event has its very name. -/
theorem execute_events_labelled_dialog :
    ∃ run element, (reactAnalyzer.execute dialog none).2 = .ok run ∧
      ⟨element, "process_0", "on: click"⟩ ∈ run.diagram.edges ∧
      ⟨element, "process_0", "on:click"⟩ ∉ run.diagram.edges ∧
      ⟨element, "process_0", "onblur"⟩ ∈ run.diagram.edges := by
  obtain ⟨run, elements, hrun, helements, -, hshown⟩ :=
    execute_events_labelled reactAnalyzer dialog none reactOnly _ discover_reactOnly rfl
  obtain ⟨p, rest, rfl, hp, -⟩ := List.map_eq_cons_iff.mp helements
  obtain ⟨helement, hscope⟩ := Prod.mk.inj hp
  obtain ⟨-, hevents⟩ := hshown p List.mem_cons_self
  obtain ⟨b, hid, hruns⟩ := runs_dialog
  rw [helement, show p.scope = [] from hscope] at hevents
  have hclick := hevents ⟨"on:click", .reference (some "close"), none⟩ (by simp) (by decide)
    (by decide) b (hruns _ (by simp))
  have hblur := hevents ⟨"onblur", .code .arrow ["close"] [] [], none⟩ (by simp) (by decide)
    (by decide) b (hruns _ (by simp))
  rw [← hid]
  refine ⟨run, p.id, hrun, hclick.edge, fun hmem => ?_, hblur.edge⟩
  exact absurd (hclick.faithful.mp hmem).1 (by decide)

end Analyzer

end ComponentFlow
