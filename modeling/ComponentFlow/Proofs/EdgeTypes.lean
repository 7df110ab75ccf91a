import ComponentFlow.Proofs.Handlers
import ComponentFlow.Proofs.Runs
import ComponentFlow.Proofs.Tracing

/-!
# What labels say about the ends of edges

The base label of an edge says what kind of nodes it leads between: what is read is read by a
process, what is displayed is displayed by an element, and so on. The two tables `sourceKinds` and
`targetKinds` give the kinds that a label asks for, and in a diagram that is analysed with built-in
processors all edges keep to them (`execute_edges_typed`). Besides, no edge starts at a group.

The proof goes through the edges by where they come from. That a node is of its kind is known when
it is added, and nothing that happens to it later changes this (`Node.Continues`). The one point
with a catch are the edges from elements to handlers: their labels are the names of attributes, and
what keeps these from being taken for other labels is the way in which the names of events start.
-/

namespace ComponentFlow

/-! ## Base labels -/

instance (base : String) : Decidable (IsBase base) :=
  inferInstanceAs (Decidable (_ ∧ _))

/-- The label for a binding adds to the base at most what the edge is about. -/
lemma Binding.base_label (b : Binding) {base : String} (h : IsBase base) (source target : String) :
    (Edge.mk source target (b.label base)).base = base := by
  rw [Binding.label]
  split
  · exact Edge.base_of_subLabel h _ _ _
  · exact Edge.base_of_isBase h _ _

/-- A start without colons and blanks is also that of the base label. -/
lemma Text.isPrefix_trim_before {start s : List Char}
    (hstart : ∀ c ∈ start, c ≠ ':' ∧ isBlank c = false) (h : start <+: s) :
    start <+: trim (before ':' s) := by
  obtain ⟨rest, rfl⟩ := h
  have hbefore : before ':' (start ++ rest) = start ++ before ':' rest :=
    List.takeWhile_append_of_pos fun c hc => by simpa using (hstart c hc).1
  rw [hbefore]
  generalize before ':' rest = tail
  have hhead : trimStart (start ++ tail) = start ++ tail ∨ start = [] := by
    cases start with
    | nil => exact .inr rfl
    | cons c start => exact .inl (trimStart_eq_self (by simpa using (hstart c (by simp)).2))
  obtain hhead | rfl := hhead
  · have hlast : trimStart start.reverse = start.reverse :=
      trimStart_eq_self fun c hc => (hstart c (List.mem_reverse.mp (List.mem_of_mem_head? hc))).2
    rw [trim, hhead, trimEnd_eq_reverse, List.reverse_append, trimStart, List.dropWhile_append]
    split
    · exact ⟨[], by rw [← trimStart, hlast, List.reverse_reverse, List.append_nil]⟩
    · rw [List.reverse_append, List.reverse_reverse]
      exact List.prefix_append _ _
  · exact List.nil_prefix

/-! ## Kinds of nodes -/

/-- The kinds of nodes that labels speak about. -/
inductive NodeKind where
  | process
  | element
  | prop
  | conditional
  | loop
  deriving Repr, DecidableEq

/-- The kinds of nodes that edges with a label start from. -/
def sourceKinds : List (String × List NodeKind) :=
  [("calls", [.process]), ("dispatch", [.process]), ("cleanup", [.process]),
   ("updates", [.process, .element]), ("initializes", [.prop])]

/-- The kinds of nodes that edges with a label lead to. -/
def targetKinds : List (String × List NodeKind) :=
  [("reads", [.process]), ("triggers", [.process]), ("display", [.element]), ("binds", [.element]),
   ("value", [.element]), ("controls visibility", [.conditional]), ("iterates over", [.loop])]

/-- Whether a node of the diagram of a component with these props is of a kind. -/
def Node.IsOfKind (n : Node) (d : Diagram) (props : List InputProp) : NodeKind → Prop
  | .process => n.type = NodeType.process.name
  | .element => n.type = NodeType.output.name ∧ (∃ k, n.id = Session.idOf "jsx" k) ∧
      ∃ tag, n.label = "<" ++ tag ++ ">" ∧ n.metadata.get "tag" = .str tag
  | .prop => n.metadata.get "prop" = .bool true ∧ ∃ p ∈ props, p.name = n.label
  | .conditional => ∃ g ∈ d.groups, g.id = n.id ∧ g.kind = GroupKind.conditional.name
  | .loop => ∃ g ∈ d.groups, g.id = n.id ∧ g.kind = GroupKind.loop.name

/-- Whether a node is of one of the kinds that a label asks for. -/
def Node.Answers (n : Node) (d : Diagram) (props : List InputProp)
    (kinds : List (String × List NodeKind)) (base : String) : Prop :=
  ∀ r ∈ kinds, r.1 = base → ∃ k ∈ r.2, n.IsOfKind d props k

/-- Whether both ends of an edge are there and of the kinds that its label asks for, and the edge
does not start at a group. -/
def Diagram.Types (d : Diagram) (props : List InputProp) (e : Edge) : Prop :=
  ∃ n m, d.node? e.source = some n ∧ d.node? e.target = some m ∧
    n.type ≠ NodeType.group.name ∧ n.Answers d props sourceKinds e.base ∧
    m.Answers d props targetKinds e.base

/-- Whether a label asks for nothing. -/
def Unasked (kinds : List (String × List NodeKind)) (base : String) : Prop :=
  ∀ r ∈ kinds, r.1 ≠ base

/-- Whether a label is content with nodes of a kind. -/
def Accepted (kinds : List (String × List NodeKind)) (base : String) (k : NodeKind) : Prop :=
  ∀ r ∈ kinds, r.1 = base → k ∈ r.2

instance (kinds : List (String × List NodeKind)) (base : String) : Decidable (Unasked kinds base) :=
  inferInstanceAs (Decidable (∀ r ∈ kinds, r.1 ≠ base))

instance (kinds : List (String × List NodeKind)) (base : String) (k : NodeKind) :
    Decidable (Accepted kinds base k) :=
  inferInstanceAs (Decidable (∀ r ∈ kinds, r.1 = base → k ∈ r.2))

lemma Unasked.answers {kinds : List (String × List NodeKind)} {base : String}
    (h : Unasked kinds base) (n : Node) (d : Diagram) (props : List InputProp) :
    n.Answers d props kinds base :=
  fun r hr hbase => absurd hbase (h r hr)

lemma Accepted.answers {kinds : List (String × List NodeKind)} {base : String} {k : NodeKind}
    (h : Accepted kinds base k) {n : Node} {d : Diagram} {props : List InputProp}
    (hn : n.IsOfKind d props k) : n.Answers d props kinds base :=
  fun r hr hbase => ⟨k, h r hr hbase, hn⟩

/-- The names of events are not taken for labels that ask for something. -/
lemma unasked_of_isEvent {name : String} (h : isEventAttribute name = true)
    (source target : String) :
    Unasked sourceKinds (Edge.mk source target name).base ∧
      Unasked targetKinds (Edge.mk source target name).base := by
  have hstems : ∀ start ∈ eventStarts, ∃ stem ∈ ["@".toList, "on".toList, "v-on".toList],
      stem <+: start := by decide
  have hplain : ∀ stem ∈ ["@".toList, "on".toList, "v-on".toList],
      stem.all (fun c => c != ':' && !Text.isBlank c) = true := by decide
  have hapart : ∀ r ∈ sourceKinds ++ targetKinds,
      ∀ stem ∈ ["@".toList, "on".toList, "v-on".toList], ¬ stem <+: r.1.toList := by decide
  obtain ⟨start, hstart, hprefix⟩ := start_of_isEventAttribute h
  obtain ⟨stem, hstem, hstart⟩ := hstems start hstart
  have hbase : stem <+: (Edge.mk source target name).base.toList := by
    rw [Edge.base, String.toList_ofList]
    refine Text.isPrefix_trim_before (fun c hc => ?_) (hstart.trans hprefix)
    simpa using List.all_eq_true.mp (hplain stem hstem) c hc
  refine ⟨fun r hr heq => ?_, fun r hr heq => ?_⟩
  · exact hapart r (List.mem_append_left _ hr) stem hstem (heq ▸ hbase)
  · exact hapart r (List.mem_append_right _ hr) stem hstem (heq ▸ hbase)

/-! ## Edges that keep to their labels -/

/-- Whether the nodes with an id have a property. -/
def Diagram.At (d : Diagram) (id : String) (P : Node → Prop) : Prop :=
  ∀ n ∈ d.nodes, n.id = id → P n

lemma Diagram.at_of_mem {d : Diagram} (hd : d.ids.Nodup) {n : Node} (hn : n ∈ d.nodes)
    {P : Node → Prop} (hP : P n) : d.At n.id P :=
  fun _ hm hid => List.inj_on_of_nodup_map hd hm hn hid ▸ hP

lemma Diagram.At.mono {d : Diagram} {id : String} {P Q : Node → Prop} (h : d.At id P)
    (hPQ : ∀ n, P n → Q n) : d.At id Q :=
  fun n hn hid => hPQ n (h n hn hid)

/-- Whether the nodes at the ends of an edge are of the kinds that its label asks for. -/
structure Edge.Fits (e : Edge) (d : Diagram) (props : List InputProp) : Prop where
  source : d.At e.source fun n =>
    n.type ≠ NodeType.group.name ∧ n.Answers d props sourceKinds e.base
  target : d.At e.target (·.Answers d props targetKinds e.base)

/-- Merging keeps the ends and the base labels of edges. -/
lemma Diagram.types_merge {d : Diagram} {props : List InputProp} (hd : d.Coherent)
    (h : ∀ e ∈ d.edges, e.Fits d props) :
    ∀ e ∈ (d.replaceEdges (mergeEdges d.edges)).edges,
      (d.replaceEdges (mergeEdges d.edges)).Types props e := by
  have hnode : ∀ id ∈ d.ids, ∃ n ∈ d.nodes, n.id = id ∧ d.node? id = some n := by
    intro id hid
    obtain ⟨n, hn, rfl⟩ := List.mem_map.mp hid
    exact ⟨n, hn, rfl, Diagram.node?_eq_some hd.ids_nodup hn⟩
  intro e he
  obtain ⟨e', he', hsource, htarget, hbase⟩ := exists_of_mem_mergeEdges he
  obtain ⟨n, hn, hid, hfound⟩ := hnode _ (hd.ends e' he').1
  obtain ⟨m, hm, hid', hfound'⟩ := hnode _ (hd.ends e' he').2
  obtain ⟨hgroup, hanswers⟩ := (h e' he').source n hn hid
  have hanswers' := (h e' he').target m hm hid'
  rw [← hbase] at hanswers hanswers'
  exact ⟨n, m, hsource ▸ hfound, htarget ▸ hfound', hgroup, hanswers, hanswers'⟩

namespace Assembly

variable {d : Diagram} {props : List InputProp} {x : NameIndex} {e : Edge} {base : String}

/-- Nodes that an edge may start from. -/
def Opens (d : Diagram) (props : List InputProp) (k : NodeKind) (id : String) : Prop :=
  d.At id fun n => n.type ≠ NodeType.group.name ∧ n.IsOfKind d props k

lemma opens_process {id : String} (h : d.At id (·.type = NodeType.process.name)) :
    Opens d props .process id :=
  h.mono fun _ htype => ⟨htype ▸ by decide, htype⟩

lemma fits_unasked (hsource : d.At e.source (·.type ≠ NodeType.group.name))
    (h : Unasked sourceKinds e.base ∧ Unasked targetKinds e.base) : e.Fits d props where
  source := hsource.mono fun n hn => ⟨hn, h.1.answers n d props⟩
  target := fun n _ _ => h.2.answers n d props

lemma fits_of_hookLabel (hsource : d.At e.source (·.type ≠ NodeType.group.name))
    (hlabel : e.label ∈ Session.hookLabels) : e.Fits d props := by
  have hlabels : ∀ label ∈ Session.hookLabels, IsBase label ∧ Unasked sourceKinds label ∧
      Unasked targetKinds label := by decide
  obtain ⟨hbase, hunasked⟩ := hlabels e.label hlabel
  refine fits_unasked hsource ?_
  rwa [show e.base = e.label from Edge.base_of_isBase hbase e.source e.target]

/-- An edge whose label only asks for something at its end. -/
lemma fits_to {k : NodeKind} (hbase : e.base = base)
    (hsource : d.At e.source (·.type ≠ NodeType.group.name))
    (htarget : d.At e.target (·.IsOfKind d props k)) (hunasked : Unasked sourceKinds base)
    (haccepted : Accepted targetKinds base k) : e.Fits d props where
  source := hsource.mono fun n hn => ⟨hn, hbase ▸ hunasked.answers n d props⟩
  target := htarget.mono fun _ hn => hbase ▸ haccepted.answers hn

/-- An edge whose label only asks for something at its start. -/
lemma fits_from {k : NodeKind} (hbase : e.base = base) (hsource : Opens d props k e.source)
    (haccepted : Accepted sourceKinds base k) (hunasked : Unasked targetKinds base) :
    e.Fits d props where
  source := hsource.mono fun _ hn => ⟨hn.1, hbase ▸ haccepted.answers hn.2⟩
  target := fun n _ _ => hbase ▸ hunasked.answers n d props

section Links

variable (hx : ∀ id, x.Names id → d.At id (·.type ≠ NodeType.group.name))

include hx

/-! ## Recorded edges -/

lemma dependencyLinks_fits {nodes : List Node} (hnodes : ∀ n ∈ nodes, n.Shaped) :
    ∀ e, .edge e ∈ dependencyLinks x nodes → e.Fits d props := by
  have hlabels : ∀ label ∈ dataLabels, IsBase label ∧ Unasked sourceKinds label ∧
      Unasked targetKinds label := by decide
  intro e he
  obtain ⟨n, hn, he⟩ := List.mem_flatMap.mp he
  simp only [dependencyLinksTo] at he
  split at he
  · cases he
  split at he
  · cases List.mem_singleton.mp he
  · obtain ⟨dependency, -, he⟩ := List.mem_filterMap.mp he
    unfold dependencyLink at he
    split at he
    · obtain ⟨source, hsource, he⟩ := Option.map_eq_some_iff.mp he
      obtain ⟨hsource, -⟩ := Option.filter_eq_some_iff.mp hsource
      have hsource := hx _ ⟨source, NameIndex.holds_of_resolveLabel hsource, rfl⟩
      -- the label is the one that the node records, or else the usual one
      obtain ⟨label, hlabel, rfl⟩ : ∃ label ∈ dataLabels, e = ⟨source.id, n.id, label⟩ := by
        unfold dependencyFlow at he
        split at he
        · exact ⟨"derives", by decide, (Link.edge.inj he).symm⟩
        · rename_i label hrecorded
          obtain ⟨s, hs, heq⟩ := (hnodes n hn).metadata.label hrecorded
          obtain rfl := Value.str.inj heq
          exact ⟨label, hs, (Link.edge.inj he).symm⟩
        · cases he
      obtain ⟨hbase, hunasked⟩ := hlabels label hlabel
      refine fits_unasked hsource ?_
      rwa [Edge.base_of_isBase hbase]
    · cases Option.some.inj he

omit hx in
lemma initializerLinks_fits {entries : List (String × String)} (nodes : List Node)
    (hentries : ∀ e ∈ entries, Opens d props .prop e.2) :
    ∀ e, .edge e ∈ initializerLinks entries nodes → e.Fits d props := by
  intro e he
  obtain ⟨n, -, he⟩ := List.mem_filterMap.mp he
  simp only [initializerLink] at he
  split at he
  · cases he
  split at he
  · cases Option.some.inj he
  · obtain ⟨prop, hprop, he⟩ := Option.map_eq_some_iff.mp he
    obtain ⟨name, -, hname⟩ := Option.bind_eq_some_iff.mp hprop
    obtain rfl := Link.edge.inj he
    exact fits_from (Edge.base_of_isBase (by decide : IsBase "initializes") _ _)
      (hentries _ (Assoc.mem_of_lookup hname)) (by decide) (by decide)

/-! ## Edges of processes -/

section Process

variable {process : String} (hp : d.At process (·.type = NodeType.process.name))

include hp

lemma readEdges_fits (references : List String) :
    ∀ e ∈ readEdges x process references, e.Fits d props := by
  intro e he
  obtain ⟨_, b, hb, rfl⟩ := exists_of_mem_readEdges he
  exact fits_to (k := .process) (b.base_label (by decide : IsBase "reads") _ _)
    (hx _ (NameIndex.names_of_resolve hb)) hp (by decide) (by decide)

lemma callLinks_fits (calls : List String) :
    ∀ e, .edge e ∈ callLinks x process calls → e.Fits d props := by
  have hopens : Opens d props .process process := opens_process hp
  intro e he
  obtain ⟨call, -, he⟩ := List.mem_filterMap.mp he
  obtain ⟨b, hb, he⟩ := Option.map_eq_some_iff.mp he
  have hb := hx _ (NameIndex.names_of_resolve (Option.filter_eq_some_iff.mp hb).1)
  unfold callFlow at he
  split at he
  · obtain rfl := Link.edge.inj he
    exact fits_from (Edge.base_of_isBase (by decide : IsBase "calls") _ _) hopens (by decide)
      (by decide)
  split at he
  · cases he
  split at he
  · obtain rfl := Link.edge.inj he
    exact fits_from (Edge.base_of_isBase (by decide : IsBase "dispatch") _ _) hopens (by decide)
      (by decide)
  split at he
  · cases he
  split at he
  · obtain rfl := Link.edge.inj he
    exact fits_from (b.base_label (by decide : IsBase "updates") _ _) hopens (by decide)
      (by decide)
  split at he
  · obtain rfl := Link.edge.inj he
    exact fits_from (Edge.base_of_subLabel (by decide : IsBase "calls") _ _ _) hopens (by decide)
      (by decide)
  · obtain rfl := Link.edge.inj he
    exact fits_to (k := .process) ((b.ofCallee call).base_label (by decide : IsBase "reads") _ _)
      hb hp (by decide) (by decide)

omit hx in
lemma assignEdges_fits (targets : List String) :
    ∀ e ∈ assignEdges x process targets, e.Fits d props := by
  intro e he
  obtain ⟨target, -, he⟩ := List.mem_filterMap.mp he
  obtain ⟨b, hb, rfl⟩ := Option.map_eq_some_iff.mp he
  exact fits_from (b.base_label (by decide : IsBase "updates") _ _) (opens_process hp) (by decide)
    (by decide)

lemma triggerEdges_fits (dependencies : List String) :
    ∀ e ∈ triggerEdges x process dependencies, e.Fits d props := by
  intro e he
  obtain ⟨_, b, hb, rfl⟩ := exists_of_mem_triggerEdges he
  exact fits_to (k := .process) (b.base_label (by decide : IsBase "triggers") _ _)
    (hx _ (NameIndex.names_of_resolve hb)) hp (by decide) (by decide)

end Process

lemma IsRoutineEdge.fits {p : PlacedRoutine} (h : IsRoutineEdge x p e)
    (hp : d.At p.id (·.type = NodeType.process.name)) : e.Fits d props := by
  cases h with
  | reads he => exact readEdges_fits hx hp _ _ he
  | calls he => exact callLinks_fits hx hp _ _ he
  | assigns he => exact assignEdges_fits hp _ _ he
  | external target =>
    exact fits_from (Edge.base_of_isBase (by decide : IsBase "calls") _ _) (opens_process hp)
      (by decide) (by decide)
  | triggers he => exact triggerEdges_fits hx hp _ _ he
  | cleanup target =>
    exact fits_from (Edge.base_of_isBase (by decide : IsBase "cleanup") _ _) (opens_process hp)
      (by decide) (by decide)

/-! ## Edges of the markup -/

/-- A group that is controlled is of the kind that the label says. -/
lemma controlEdges_fits {c : ControlFlow} {kind : String} (hlabel : (c.label, kind) ∈ controlKinds)
    (hgroup : d.HasGroup c.group kind) : ∀ e ∈ controlEdges x c, e.Fits d props := by
  intro e he
  obtain ⟨name, -, he⟩ := List.mem_filterMap.mp he
  obtain ⟨b, hb, rfl⟩ := Option.map_eq_some_iff.mp he
  have hb := hx _ (NameIndex.names_of_resolve hb)
  have hkind : ∃ g ∈ d.groups, g.id = c.group ∧ g.kind = kind := by
    obtain ⟨parent, hmem⟩ := hgroup
    obtain ⟨g, hg, heq⟩ := List.mem_map.mp hmem
    simp only [Prod.mk.injEq] at heq
    exact ⟨g, hg, heq.1, heq.2.2⟩
  obtain ⟨g, hg, hid, hkind⟩ := hkind
  simp only [controlKinds, List.mem_cons, Prod.mk.injEq, List.not_mem_nil, or_false] at hlabel
  obtain ⟨hlabel, rfl⟩ | ⟨hlabel, rfl⟩ := hlabel
  · rw [hlabel]
    exact fits_to (k := .conditional) (b.base_label (by decide : IsBase "controls visibility") _ _)
      hb (fun n _ hn => ⟨g, hg, hid.trans hn.symm, hkind⟩) (by decide) (by decide)
  · rw [hlabel]
    exact fits_to (k := .loop) (b.base_label (by decide : IsBase "iterates over") _ _)
      hb (fun n _ hn => ⟨g, hg, hid.trans hn.symm, hkind⟩) (by decide) (by decide)

section Element

variable {element : String} (helement : Opens d props .element element)

include helement

/-- Edges for what an element shows. -/
lemma shownEdges_fits {base : String} (scope : Scope) (references : List String)
    (hbase : base = "display" ∨ base = "binds") :
    ∀ e ∈ shownEdges x scope element base references, e.Fits d props := by
  intro e he
  obtain ⟨reference, -, he⟩ := List.mem_filterMap.mp he
  obtain ⟨b, hb, rfl⟩ := Option.map_eq_some_iff.mp he
  have hb := hx _ (NameIndex.names_of_resolve hb)
  have helement := helement.mono fun _ hn => hn.2
  obtain rfl | rfl := hbase
  · exact fits_to (b.base_label (by decide : IsBase "display") _ _) hb helement (by decide)
      (by decide)
  · exact fits_to (b.base_label (by decide : IsBase "binds") _ _) hb helement (by decide)
      (by decide)

lemma displayCallEdges_fits (scope : Scope) (call : DisplayCall) :
    ∀ e ∈ displayCallEdges x scope element call, e.Fits d props := by
  have htarget := helement.mono fun _ hn => hn.2
  have harguments : ∀ a ∈ call.arguments.filterMap (resolveIn x scope),
      d.At a.node.id (·.type ≠ NodeType.group.name) := by
    intro a ha
    obtain ⟨reference, -, ha⟩ := List.mem_filterMap.mp ha
    exact hx _ (NameIndex.names_of_resolve ha)
  have hshown : ∀ e ∈ (call.arguments.filterMap (resolveIn x scope)).map
      (fun a => (⟨a.node.id, element, a.label "display"⟩ : Edge)), e.Fits d props := by
    intro e he
    obtain ⟨a, ha, rfl⟩ := List.mem_map.mp he
    exact fits_to (a.base_label (by decide : IsBase "display") _ _) (harguments a ha) htarget
      (by decide) (by decide)
  intro e he
  rw [displayCallEdges] at he
  split at he
  · exact hshown e he
  rename_i b hb
  have hcallee := hx _ (NameIndex.names_of_resolve hb)
  split at he
  · obtain he | he := List.mem_append.mp he
    · obtain ⟨a, ha, rfl⟩ := List.mem_map.mp he
      refine fits_unasked (harguments a (List.mem_filter.mp ha).1) ?_
      rw [a.base_label (by decide : IsBase "input")]
      decide
    · rw [List.mem_singleton.mp he]
      exact fits_to (Edge.base_of_isBase (by decide : IsBase "display") _ _) hcallee htarget
        (by decide) (by decide)
  · obtain rfl | he := List.mem_cons.mp he
    · exact fits_to ((b.ofCallee call.callee).base_label (by decide : IsBase "display") _ _)
        hcallee htarget (by decide) (by decide)
    · exact hshown e he

lemma twoWayEdges_fits (scope : Scope) (references : List String) :
    ∀ e ∈ twoWayEdges x scope element references, e.Fits d props := by
  intro e he
  obtain ⟨reference, -, he⟩ := List.mem_flatMap.mp he
  split at he
  · rename_i b hb
    obtain rfl | he := List.mem_cons.mp he
    · exact fits_to (b.base_label (by decide : IsBase "value") _ _)
        (hx _ (NameIndex.names_of_resolve hb)) (helement.mono fun _ hn => hn.2) (by decide)
        (by decide)
    · rw [List.mem_singleton.mp he]
      exact fits_from (b.base_label (by decide : IsBase "updates") _ _) helement (by decide)
        (by decide)
  · cases he

/-- Edges for what an event attribute leads to. -/
lemma handlerRequests_fits {scope : Scope} {a : Attribute} (ha : isEventAttribute a.name = true)
    {r : Request} (hr : r ∈ (planHandler x scope a.content).requests element a) {handler : String}
    (hhandler : r.draws = 1 → d.At handler (·.type = NodeType.process.name)) :
    ∀ e, .edge e ∈ r.links x handler → e.Fits d props := by
  have hevent : ∀ id, (Edge.mk element id a.name).Fits d props := fun id =>
    fits_unasked (helement.mono fun _ hn => hn.1) (unasked_of_isEvent ha element id)
  intro e he
  obtain ⟨id, -, heq⟩ | ⟨cause, -, heq⟩ | ⟨hdraws, he⟩ := handlerRequests_cases hr he
  · exact Link.edge.inj heq ▸ hevent id
  · cases heq
  · have hhandler := hhandler hdraws
    obtain heq | ⟨calls, he⟩ | ⟨assigns, e', he', heq⟩ := he
    · exact Link.edge.inj heq ▸ hevent handler
    · unfold carriedLinks at he
      split at he
      · cases List.mem_singleton.mp he
      · exact callLinks_fits hx hhandler _ e he
    · exact Link.edge.inj heq ▸ assignEdges_fits hhandler assigns e' he'

end Element

lemma IsElementEdge.fits {p : PlacedElement} (h : IsElementEdge x p e)
    (hp : Opens d props .element p.id) : e.Fits d props := by
  cases h with
  | display he => exact shownEdges_fits hx hp _ _ (.inl rfl) e he
  | call c he => exact displayCallEdges_fits hx hp _ c e he
  | twoWay references he => exact twoWayEdges_fits hx hp _ references e he
  | binds references he => exact shownEdges_fits hx hp _ references (.inr rfl) e he

lemma elementRequests_fits {p : PlacedElement} (hp : Opens d props .element p.id) {r : Request}
    (hr : r ∈ elementRequests x p) {handler : String}
    (hhandler : r.draws = 1 → d.At handler (·.type = NodeType.process.name)) :
    ∀ e, .edge e ∈ r.links x handler → e.Fits d props := by
  obtain ⟨e', he', rfl⟩ | ⟨a, -, hevent, hr⟩ := elementRequests_cases hr
  · intro e he
    exact Link.edge.inj (List.mem_singleton.mp he) ▸ he'.fits hx hp
  · exact handlerRequests_fits hx hp hevent hr hhandler

end Links

/-! ## All edges -/

section Connected

variable {s : Session} (hs : s.Sound)

include hs

/-- What is known of a node with props and processes is known of it at the end. -/
lemma at_of_placed {n : Node} (hn : n ∈ (placed s).1.diagram.nodes) :
    (connected s).diagram.At n.id (·.Continues n) := by
  obtain ⟨n', hn', hcontinues⟩ := exists_node_of_placed hs hn
  exact hcontinues.id ▸ Diagram.at_of_mem (coherent_connected hs).ids_nodup hn' hcontinues

/-- Only nodes that are added later stand for groups. -/
lemma at_of_mem_placed {id : String} (h : id ∈ (placed s).1.diagram.ids) :
    (connected s).diagram.At id (·.type ≠ NodeType.group.name) := by
  obtain ⟨n, hn, rfl⟩ := List.mem_map.mp h
  have htidy := (grows_placed s).edits.tidy hs.tidy
  have hgroups : (placed s).1.diagram.groupIds = [] := by
    rw [Diagram.groupIds, (grows_placed s).edits.groups_eq]
    exact congrArg (List.map _) hs.groupless
  have htype : n.type ≠ NodeType.group.name := by
    intro htype
    have hmem : n.id ∈ (placed s).1.diagram.groupIds := by
      rw [htidy.grouped]
      exact List.mem_map_of_mem (List.mem_filter.mpr ⟨hn, by simp [htype]⟩)
    rw [hgroups] at hmem
    cases hmem
  exact (at_of_placed hs hn).mono fun _ hcontinues => hcontinues.type ▸ htype

lemma at_of_routine {p : PlacedRoutine} (hp : p ∈ (placed s).2.2) :
    (connected s).diagram.At p.id (·.type = NodeType.process.name) := by
  obtain ⟨hlive, -⟩ := live_stages_of_sound hs
  obtain ⟨n, hn, hid, htype⟩ := (hasNodes_addNodes { session := s } s.component).2 hlive p hp
  exact hid ▸ (at_of_placed hs hn).mono fun _ hcontinues => hcontinues.type.trans htype

lemma opens_prop {e : String × String} (he : e ∈ (placed s).2.1) :
    Opens (connected s).diagram s.component.props .prop e.2 := by
  obtain ⟨hlive, -⟩ := live_stages_of_sound hs
  obtain ⟨n, hn, hprop⟩ := (hasNodes_addNodes { session := s } s.component).1 hlive e he
  obtain ⟨p, hp, hname⟩ := (hasNodes_addProps { session := s } s.component.props).2 e he
  refine hprop.id ▸ (at_of_placed hs hn).mono fun n' hcontinues => ?_
  have hprop' := IsPropNode.continues hcontinues hprop
  exact ⟨hprop'.type, hprop'.prop, p, hp, hname.trans hprop'.label.symm⟩

lemma opens_element {p : PlacedElement} (hp : p ∈ (layout s).elements) :
    Opens (connected s).diagram s.component.props .element p.id := by
  obtain ⟨n, hn, hshows⟩ := exists_node_of_element hs hp
  refine hshows.id ▸ Diagram.at_of_mem (coherent_connected hs).ids_nodup hn
    ⟨?_, hshows.type, hshows.stem, p.element.tag, hshows.label, hshows.tag⟩
  rw [hshows.type]
  decide

lemma hasGroup_control {c : ControlFlow} (hc : c ∈ (layout s).controls) :
    ∃ kind, (c.label, kind) ∈ controlKinds ∧ (connected s).diagram.HasGroup c.group kind := by
  obtain ⟨-, -, hlive, -⟩ := live_stages_of_sound hs
  obtain ⟨kind, hlabel, hgroup⟩ :=
    (complete_layout hs.coherent hs.groupless hlive).controlled c hc
  refine ⟨kind, hlabel, ?_⟩
  rwa [Diagram.HasGroup, Diagram.outline, (grows_connected hs.coherent hs.nested).edits.groups_eq]

lemma at_of_handler {id : String}
    (h : IsHandler (firstHandler s) ((connected s).session.count "handler") id) :
    (connected s).diagram.At id (·.type = NodeType.process.name) := by
  obtain ⟨-, -, -, hlive⟩ := live_stages_of_sound hs
  rw [← count_controls] at h
  obtain ⟨n, hn, rfl, htype⟩ := exists_handlerNode hlive h
  exact Diagram.at_of_mem (coherent_connected hs).ids_nodup hn htype

/-- All edges keep to their labels. -/
lemma fits_connected : ∀ e ∈ (connected s).diagram.edges,
    e.Fits (connected s).diagram s.component.props := by
  obtain ⟨-, -, hlive, -⟩ := live_stages_of_sound hs
  have hx : ∀ id, (index s).Names id → _ := fun id hid =>
    at_of_mem_placed hs (NameIndex.mem_ids_of_names hid)
  intro e he
  obtain he | he | ⟨p, hp, he⟩ | ⟨c, hc, he⟩ | ⟨number, he⟩ :=
    mem_edges_connected hs.coherent hs.nested hlive he
  · have hsource := (grows_placed s).edits.mem_ids (hs.coherent.ends e he).1
    exact fits_of_hookLabel (at_of_mem_placed hs hsource) (hs.labels e he)
  · obtain he | he := List.mem_append.mp he
    · exact initializerLinks_fits _ (fun _ => opens_prop hs) e he
    · exact dependencyLinks_fits hx (shaped_placed hs.shaped) e he
  · exact he.fits hx (at_of_routine hs hp)
  · obtain ⟨kind, hlabel, hgroup⟩ := hasGroup_control hs hc
    exact controlEdges_fits hx hlabel hgroup e he
  · obtain ⟨r, hr, m, hm, hnumber, hl⟩ := exists_of_mem_linksFrom he
    obtain ⟨p, hp, hr⟩ := List.mem_flatMap.mp hr
    have hcount : number ≤ (connected s).session.count "handler" := by
      rw [markupLinks, ← count_controls] at he
      exact le_count_of_mem_linksFrom he
    refine elementRequests_fits hx (opens_element hs hp) hr (fun hdraws => at_of_handler hs ?_) e hl
    exact ⟨m, hm, by omega, rfl⟩

end Connected

/-- The edges of a diagram that is assembled keep to their labels. -/
lemma types_assemble {s : Session} (hs : s.Sound) :
    ∀ e ∈ (assemble s).diagram.edges, (assemble s).diagram.Types s.component.props e := by
  rw [diagram_of_sound hs]
  exact Diagram.types_merge (coherent_connected hs) (fits_connected hs)

end Assembly

namespace Analyzer

/-- **Types of edges.** With any selection of built-in processors that discovery accepts, an
analysis is finished, and every edge of its diagram leads between nodes of the kinds that its base
label asks for. No edge starts at a group. -/
theorem execute_edges_typed (a : Analyzer) (c : Component) (source : Option String)
    (sel : Selection) (ps : List Processor) (hsel : discover sel [] = .ok ps)
    (hr : a.registry = createRegistry sel []) :
    ∃ run, (a.execute c source).2 = .ok run ∧
      ∀ e ∈ run.diagram.edges, run.diagram.Types c.props e := by
  obtain ⟨hsound, hcomponent, run, hrun, hdiagram⟩ := execute_discovered c source hsel hr
  refine ⟨run, hrun, ?_⟩
  have htypes := Assembly.types_assemble hsound
  rw [hcomponent, ← hdiagram] at htypes
  exact htypes

/-- All edges of the list of items, by their base labels. -/
theorem execute_edges_typed_checklist :
    ∃ run, (reactAnalyzer.execute checklist none).2 = .ok run ∧
      run.diagram.edges.map (·.base) =
        ["reads", "iterates over", "display", "onClick", "dispatch", "updates", "onClick"] ∧
      ∀ e ∈ run.diagram.edges, run.diagram.Types [] e := by
  obtain ⟨run, hrun, htypes⟩ :=
    execute_edges_typed reactAnalyzer checklist none reactOnly _ discover_reactOnly rfl
  obtain ⟨run', hrun', hedges, -⟩ := exists_run_checklist
  obtain rfl : run' = run := Except.ok.inj (hrun'.symm.trans hrun)
  have hbases := congrArg (List.map (·.2.2)) hedges
  rw [List.map_map] at hbases
  exact ⟨run', hrun, hbases, htypes⟩

end Analyzer

end ComponentFlow
