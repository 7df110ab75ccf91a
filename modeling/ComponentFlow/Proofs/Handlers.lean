import ComponentFlow.Proofs.Requests

/-!
# Event handlers

An event attribute may name what it runs, or wrap it: `onClick={save}` and `onClick={() => save()}`.
Both ways of writing lead to the same diagram for everything that can be run
(`reference_agrees_with_call`). The one difference is a name that stands for a plain value. To name
it is a slip, which is passed over; a wrapped call of it, say of a method, is code, and so it gets a
handler, though one that leads nowhere.
-/

namespace ComponentFlow

/-! ## Names of event attributes -/

lemma Text.exists_finalBreak (s : List Char) :
    ∃ tail ∈ [[], ['\n']], s = Text.withoutFinalBreak s ++ tail := by
  unfold Text.withoutFinalBreak
  split
  · rename_i rest heq
    refine ⟨['\n'], by simp, ?_⟩
    rw [← List.reverse_reverse s, heq, List.reverse_cons]
  · exact ⟨[], by simp, (List.append_nil s).symm⟩

lemma Text.withoutFinalBreak_prefix (s : List Char) : Text.withoutFinalBreak s <+: s := by
  obtain ⟨tail, -, hs⟩ := Text.exists_finalBreak s
  exact ⟨tail, hs.symm⟩

/-- How the name of an event attribute can start. -/
def eventStarts : List (List Char) := ["@".toList, "on".toList, "v-on:".toList]

lemma start_of_isEventForm {s : List Char} (h : isEventForm s = true) :
    ∃ start ∈ eventStarts, start <+: s := by
  unfold isEventForm at h
  split at h
  · exact ⟨['@'], by decide, by simp⟩
  · exact ⟨['o', 'n'], by decide, by simp⟩
  · exact ⟨['o', 'n'], by decide, by simp⟩
  · split at h
    · rename_i rest hrest
      exact ⟨"v-on:".toList, by decide, rest, (Text.afterStart?_eq_some_iff.mp hrest).symm⟩
    · cases h

lemma start_of_isEventAttribute {name : String} (h : isEventAttribute name = true) :
    ∃ start ∈ eventStarts, start <+: name.toList := by
  obtain ⟨start, hmem, hprefix⟩ := start_of_isEventForm h
  exact ⟨start, hmem, hprefix.trans (Text.withoutFinalBreak_prefix _)⟩

/-- No event attribute binds in both directions. -/
lemma not_isTwoWay_of_isEvent {name : String} (h : isEventAttribute name = true) :
    isTwoWayAttribute name = false := by
  obtain ⟨start, hmem, hevent⟩ := start_of_isEventAttribute h
  rw [Bool.eq_false_iff]
  intro htwo
  -- a two-way attribute has one of two starts, and none of them agrees with that of an event
  have hstart : "v-m".toList <+: name.toList ∨ "bind:".toList <+: name.toList := by
    simp only [isTwoWayAttribute, Bool.or_eq_true, beq_iff_eq, Text.startsWith,
      Option.isSome_iff_exists] at htwo
    obtain (rfl | ⟨rest, hrest⟩) | ⟨rest, hrest⟩ := htwo
    · exact .inl (by decide)
    · exact .inr ⟨rest, (Text.afterStart?_eq_some_iff.mp hrest).symm⟩
    · have hlong : "v-model:".toList <+: name.toList :=
        ⟨rest, (Text.afterStart?_eq_some_iff.mp hrest).symm⟩
      exact .inl (List.IsPrefix.trans (by decide) hlong)
  have hclash : ∀ start ∈ eventStarts, ∀ other ∈ ["v-m".toList, "bind:".toList],
      ¬ start <+: other ∧ ¬ other <+: start := by decide
  obtain hother | hother := hstart
  · exact (List.prefix_or_prefix_of_prefix hevent hother).elim
      (hclash start hmem _ (by simp)).1 (hclash start hmem _ (by simp)).2
  · exact (List.prefix_or_prefix_of_prefix hevent hother).elim
      (hclash start hmem _ (by simp)).1 (hclash start hmem _ (by simp)).2

namespace Assembly

open Build

variable {x : NameIndex}

/-! ## One attribute -/

/-- Links an element to what one of its attributes holds. -/
def linkAttribute (x : NameIndex) (scope : Scope) (element : String) (b : Build) (a : Attribute) :
    Build :=
  (attributeRequests x scope element a).foldl (meet x) b

lemma foldl_edges (b : Build) (es : List Edge) :
    (Request.edges es).foldl (meet x) b = b.linkAll es := by
  rw [Request.edges, List.foldl_map, linkAll]
  rfl

/-- An element is linked to what it shows first, and then attribute by attribute. -/
lemma linkElement_eq (b : Build) (p : PlacedElement) :
    linkElement x b p = p.element.attributes.foldl (linkAttribute x p.scope p.id)
      ((b.linkAll (shownEdges x p.scope p.id "display" p.element.display)).linkAll
        (p.element.calls.flatMap (displayCallEdges x p.scope p.id))) := by
  rw [linkElement, elementRequests, List.foldl_append, List.foldl_append, foldl_edges, foldl_edges,
    List.foldl_flatMap]
  rfl

lemma linkAttribute_event {scope : Scope} {element : String} {b : Build} {a : Attribute}
    (h : isEventAttribute a.name = true) :
    linkAttribute x scope element b a =
      ((planHandler x scope a.content).requests element a).foldl (meet x) b := by
  rw [linkAttribute, attributeRequests, not_isTwoWay_of_isEvent h]
  simp [h]

/-- All other attributes lead to edges and to nothing else. -/
lemma linkAttribute_other (x : NameIndex) (scope : Scope) (element : String) (b : Build)
    {a : Attribute} (h : ¬ isEventAttribute a.name = true) :
    ∃ es, linkAttribute x scope element b a = b.linkAll es := by
  rw [linkAttribute, attributeRequests, if_neg h]
  split
  · exact ⟨_, foldl_edges b _⟩
  · exact ⟨_, foldl_edges b _⟩

lemma planHandler_reference {scope : Scope} {v : String} (hv : v ≠ "") :
    planHandler x scope (.reference (some v)) = planReference x (resolveScope scope v) := by
  simp [planHandler, hv]

/-! ## Plans -/

/-- A reference that stands for a value of the component: it is not called, it writes nothing, and
its node is no process of the component. -/
def NamesValue (x : NameIndex) (reference : String) : Prop :=
  ∃ b, x.resolve reference = some b ∧ b.role = .data ∧ b.isWriter = false ∧ b.isProcess = false

lemma writerFault?_of_isWriter {b : Binding} (h : b.isWriter = true) : b.writerFault? = none := by
  rw [Binding.isWriter, Metadata.lists] at h
  rw [Binding.writerFault?, Metadata.listFault?]
  cases hlookup : b.node.metadata.lookup "writers" with
  | none => rfl
  | some v =>
    rw [hlookup] at h
    cases v <;> simp_all [Value.holds, Value.memberFault?]

/-- Code that calls one name only. -/
lemma planCode_single {r : String} {b : Binding} (hb : x.resolve r = some b) :
    planCode x [r] [] = if b.isProcess then .process b.node.id else .inline [r] [] := by
  cases hprocess : b.isProcess with
  | true => simp [planCode, soleProcess, hb, Option.filter, hprocess]
  | false => simp [planCode, soleProcess, hb, Option.filter, hprocess]

/-- A reference leads to what a call of it leads to, unless it stands for a value. -/
lemma planReference_eq_planCode {r : String} (h : ¬ NamesValue x r) :
    planReference x r = planCode x [r] [] := by
  cases hb : x.resolve r with
  | none => simp [planReference, planCode, soleProcess, hb]
  | some b =>
    rw [planCode_single hb]
    by_cases hprocess : b.isProcess = true
    · simp [planReference, hb, hprocess]
    by_cases hdata : b.role = .data
    · have hwriter : b.isWriter = true := by
        refine Bool.of_not_eq_false fun hwriter => h ⟨b, hb, hdata, hwriter, ?_⟩
        simpa using hprocess
      simp [planReference, hb, hprocess, hdata, planData, writerFault?_of_isWriter hwriter, hwriter]
    · simp [planReference, hb, hprocess, hdata]

lemma planReference_value {r : String} (h : NamesValue x r) :
    planReference x r = .value r ∨ ∃ cause, planReference x r = .unreadable cause := by
  obtain ⟨b, hb, hdata, hwriter, hprocess⟩ := h
  cases hfault : b.writerFault? with
  | none => exact .inl (by simp [planReference, hb, hdata, hprocess, planData, hfault, hwriter])
  | some cause =>
    exact .inr ⟨cause, by simp [planReference, hb, hdata, hprocess, planData, hfault]⟩

/-- What a plan asks for depends on the attribute only by its name and source. -/
lemma meet_requests_congr {element : String} (a a' : Attribute) (hname : a.name = a'.name)
    (hsource : a.source = a'.source) (b : Build) (plan : HandlerPlan) :
    (plan.requests element a).foldl (meet x) b = (plan.requests element a').foldl (meet x) b := by
  cases plan with
  | nothing => rfl
  | value reference => simp only [HandlerPlan.requests, hname]
  | process id => simp only [HandlerPlan.requests, hname]
  | inline calls assigns =>
    simp only [HandlerPlan.requests, List.foldl_cons, List.foldl_nil, meet, addHandler,
      handlerSketch, hname, hsource]
  | unreadable cause => rfl

lemma foldl_requests_inline {element : String} {a : Attribute} {b : Build}
    {calls assigns : List String} :
    ((HandlerPlan.inline calls assigns).requests element a).foldl (meet x) b =
      addHandler x b element a calls assigns := rfl

/-! ## The handler of a value -/

/-- The handler that an attribute gets next. -/
def nextHandler (b : Build) (element : String) (a : Attribute) : Node :=
  b.newNode (handlerSketch element a)

/-- A call of a value is not carried by a handler. -/
lemma diagram_followAll_carriedLinks {r handler : String} (h : NamesValue x r) (b : Build) :
    (b.followAll (carriedLinks x handler [r])).diagram = b.diagram := by
  obtain ⟨v, hv, hdata, hwriter, hprocess⟩ := h
  have hfunction : v.isFunction = false := by simp [Binding.isFunction, hdata]; decide
  have hcarried : carriesCall x r = false := by
    simp [carriesCall, hv, hfunction, hprocess, hwriter]
  rw [carriedLinks]
  split
  · rfl
  · simp [hcarried, callLinks, followAll]

/-- A handler for a call of a value is linked to its element and to nothing else. It is refused if
its id is taken. -/
lemma addHandler_value {r element : String} (h : NamesValue x r) {b : Build} (hlive : b.Live)
    (helement : element ∈ b.diagram.ids) (a : Attribute) :
    if (nextHandler b element a).id ∈ b.diagram.ids then
      (addHandler x b element a [r] []).diagram = b.diagram ∧
        (addHandler x b element a [r] []).refusal =
          some (.duplicateNode (nextHandler b element a).id)
    else (addHandler x b element a [r] []).diagram =
      { b.diagram with
        nodes := b.diagram.nodes ++ [nextHandler b element a]
        edges := b.diagram.edges ++ [⟨element, (nextHandler b element a).id, a.name⟩] } := by
  rw [addHandler_eq]
  split
  · rename_i htaken
    obtain ⟨hdiagram, hrefusal⟩ := addNode_of_taken hlive htaken
    have hstopped : ¬ (b.addNode (handlerSketch element a)).2.Live := by simp [Live, hrefusal]
    obtain ⟨hdiagram', hrefusal'⟩ := followAll_of_stopped hstopped
      ((Request.handle element a [r] []).links x
        (Session.idOf "handler" (b.session.count "handler")))
    exact ⟨hdiagram'.trans hdiagram, hrefusal'.trans hrefusal⟩
  · rename_i hfree
    obtain ⟨hlive', hdiagram⟩ := addNode_of_free hlive hfree
    generalize (b.addNode (handlerSketch element a)).2 = b' at hlive' hdiagram ⊢
    have hids : b'.diagram.ids = b.diagram.ids ++ [(nextHandler b element a).id] := by
      simp [hdiagram, Diagram.ids, nextHandler]
    -- the element is there already, so it is not the handler
    have hne : element ≠ (nextHandler b element a).id := fun heq => hfree (heq ▸ helement)
    have hedge : b'.diagram.addEdge ⟨element, (nextHandler b element a).id, a.name⟩ = .ok _ :=
      Diagram.addEdge_eq_ok_iff.mpr
        ⟨by simp [hids, helement], by simp [hids], rfl⟩
    have hlinks : (Request.handle element a [r] []).links x (nextHandler b element a).id =
        .edge ⟨element, (nextHandler b element a).id, a.name⟩ ::
          carriedLinks x (nextHandler b element a).id [r] := by
      simp [Request.links, assignEdges]
    have hfollow : b'.follow (.edge ⟨element, (nextHandler b element a).id, a.name⟩) =
        b'.change (·.addEdge ⟨element, (nextHandler b element a).id, a.name⟩) := by
      rw [follow, link, if_neg (by simpa using hne)]
    have hall : b'.followAll ((Request.handle element a [r] []).links x
        (nextHandler b element a).id) = (b'.change
          (·.addEdge ⟨element, (nextHandler b element a).id, a.name⟩)).followAll
            (carriedLinks x (nextHandler b element a).id [r]) := by
      rw [hlinks, followAll, List.foldl_cons, hfollow, followAll]
    refine (congrArg Build.diagram hall).trans ?_
    rw [diagram_followAll_carriedLinks h, change_of_ok hlive' hedge]
    show ({ b'.diagram with edges := b'.diagram.edges ++ [_] } : Diagram) = _
    rw [hdiagram]
    rfl

/-- A name of a value is passed over, or what is recorded about the value cannot be read. -/
lemma requests_value_kept {r element : String} (h : NamesValue x r) (b : Build) (a : Attribute) :
    (((planReference x r).requests element a).foldl (meet x) b).diagram = b.diagram ∧
      (((planReference x r).requests element a).foldl (meet x) b).session.counters =
        b.session.counters := by
  obtain hplan | ⟨cause, hplan⟩ := planReference_value h
  · obtain ⟨hcounters, -, hdiagram, -⟩ := record_kept b .debug "assembler"
      ("Event attribute " ++ a.name ++ " references data value " ++ r ++ "; skipping")
    rw [hplan]
    exact ⟨hdiagram, hcounters⟩
  · rw [hplan]
    exact ⟨rfl, rfl⟩

/-- **Named and wrapped handlers.** An event attribute that names a variable is linked just as one
whose code calls this variable and nothing else, whatever else the code reads. The exception is a
variable that stands for a value. Then the name leaves the diagram and the counters as they are, and
the call adds one handler with one edge, from the element to the handler. -/
theorem reference_agrees_with_call (x : NameIndex) (b : Build) (scope : Scope)
    (element name v : String) (source : Option String) (form : CodeForm) (references : List String)
    (hevent : isEventAttribute name = true) (hv : v ≠ "") :
    let named : Attribute := ⟨name, .reference (some v), source⟩
    let called : Attribute := ⟨name, .code form [v] references [], source⟩
    (¬ NamesValue x (resolveScope scope v) →
      linkAttribute x scope element b named = linkAttribute x scope element b called) ∧
    (NamesValue x (resolveScope scope v) →
      ((linkAttribute x scope element b named).diagram = b.diagram ∧
        (linkAttribute x scope element b named).session.counters = b.session.counters) ∧
      (b.Live → element ∈ b.diagram.ids →
        if (nextHandler b element called).id ∈ b.diagram.ids then
          (linkAttribute x scope element b called).diagram = b.diagram ∧
            (linkAttribute x scope element b called).refusal =
              some (.duplicateNode (nextHandler b element called).id)
        else (linkAttribute x scope element b called).diagram =
          { b.diagram with
            nodes := b.diagram.nodes ++ [nextHandler b element called]
            edges := b.diagram.edges ++
              [⟨element, (nextHandler b element called).id, name⟩] })) := by
  intro named called
  have hnamed : linkAttribute x scope element b named =
      ((planReference x (resolveScope scope v)).requests element named).foldl (meet x) b := by
    rw [linkAttribute_event (a := named) hevent, planHandler_reference hv]
  have hcalled : linkAttribute x scope element b called =
      ((planCode x [resolveScope scope v] []).requests element called).foldl (meet x) b := by
    rw [linkAttribute_event (a := called) hevent]
    rfl
  rw [hnamed, hcalled]
  constructor
  · intro hvalue
    rw [planReference_eq_planCode hvalue]
    exact meet_requests_congr named called rfl rfl b _
  · intro hvalue
    refine ⟨requests_value_kept hvalue b named, fun hlive helement => ?_⟩
    obtain ⟨w, hw, -, -, hprocess⟩ := id hvalue
    have hplan : planCode x [resolveScope scope v] [] = .inline [resolveScope scope v] [] := by
      rw [planCode_single hw, hprocess]
      rfl
    rw [hplan, foldl_requests_inline]
    exact addHandler_value hvalue hlive helement called

/-- The names of a state with a value and a writer. -/
def counted : NameIndex :=
  .ofNodes [{ id := "state_0", label := "count", type := NodeType.store.name
              metadata := [("variables", .ofTexts [("count", "data"), ("setCount", "function")]),
                ("writers", .ofNames ["setCount"])] }]

/-- A build with one button. -/
def buttonBuild : Build :=
  { session :=
      { component := { name := "Counter" }
        diagram :=
          { component := "Counter"
            nodes := [{ id := "jsx_0", label := "<button>", type := NodeType.output.name }] } } }

/-- The writer of a state can be named or called, and the value leads to no handler if it is named
and to an idle one if it is called. -/
theorem reference_agrees_with_call_counted :
    linkAttribute counted [] "jsx_0" buttonBuild ⟨"onClick", .reference (some "setCount"), none⟩ =
      linkAttribute counted [] "jsx_0" buttonBuild
        ⟨"onClick", .code .arrow ["setCount"] ["count"] [], none⟩ ∧
    (linkAttribute counted [] "jsx_0" buttonBuild
      ⟨"onClick", .reference (some "count"), none⟩).diagram.ids = ["jsx_0"] ∧
    (linkAttribute counted [] "jsx_0" buttonBuild
      ⟨"onClick", .code .arrow ["count"] [] [], none⟩).diagram.ids = ["jsx_0", "handler_0"] := by
  have hwriter : ¬ NamesValue counted "setCount" := by
    rintro ⟨b, hb, hdata, -⟩
    have hrole : (counted.resolve "setCount").map (·.role) = some .function := by decide +kernel
    rw [hb] at hrole
    exact absurd (hdata.symm.trans (Option.some.inj hrole)) (by decide)
  have hvalue : NamesValue counted "count" :=
    ⟨_, rfl, by decide +kernel, by decide +kernel, by decide +kernel⟩
  obtain ⟨hsame, -⟩ := reference_agrees_with_call counted buttonBuild [] "jsx_0" "onClick"
    "setCount" none .arrow ["count"] (by decide) (by decide)
  obtain ⟨-, hapart⟩ := reference_agrees_with_call counted buttonBuild [] "jsx_0" "onClick" "count"
    none .arrow [] (by decide) (by decide)
  obtain ⟨⟨hnamed, -⟩, hcalled⟩ := hapart hvalue
  have hcalled := hcalled rfl (by decide)
  rw [if_neg (by decide +kernel)] at hcalled
  exact ⟨hsame hwriter, by rw [hnamed]; rfl, by rw [hcalled]; rfl⟩

end Assembly

end ComponentFlow
