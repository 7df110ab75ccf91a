import ComponentFlow.Assembly.Build
import ComponentFlow.Proofs.Ids
import ComponentFlow.Proofs.Diagrams

/-!
# Growth of a build

The assembly is a long chain of steps, each of which can be refused. `Grows` says of a stretch of
this chain what matters about it as a whole: which edits it makes, which ids it draws, and exactly
when it goes through. It goes through if the ids that it draws are not taken yet and if one further
condition holds, which is a parameter. Then the nodes after it are those before it and one for each
id drawn.

Stretches can be put together (`Grows.trans`). The condition of the second one speaks about the
build in the middle, so it may be restated with what is known of that build once it is reached. The
ids need no care: those of the second stretch are free in the middle if they are free at the start,
since the first stretch draws other ids.

`Link.Fits` is the condition of following a link: its record can be read, and its ends are there.
-/

namespace ComponentFlow

/-- Whether a link can be followed among the known ids. An edge from a node to itself is left out,
so nothing is asked of it. -/
def Link.Fits (known : String → Prop) : Link → Prop
  | edge e => e.source = e.target ∨ known e.source ∧ known e.target
  | unlabelled .. => True
  | unreadable _ => False

/-- The edge that a link adds to those without a text as label. -/
def Link.leaves : Link → List (String × String × String)
  | unlabelled source target kind => if source == target then [] else [(source, target, kind)]
  | _ => []

/-- Whether both ends of a link are known. -/
def Link.Among (known : String → Prop) : Link → Prop
  | edge e => known e.source ∧ known e.target
  | unlabelled source target _ => known source ∧ known target
  | unreadable _ => True

/-- Whether the records tell what the link is. -/
def Link.Readable : Link → Prop
  | unreadable _ => False
  | _ => True

lemma Link.Among.fits_iff {known known' : String → Prop} {l : Link} (h : l.Among known)
    (hknown : ∀ id, known id → known' id) : l.Fits known' ↔ l.Readable := by
  cases l with
  | edge e => simp [Link.Fits, Link.Readable, hknown _ h.1, hknown _ h.2]
  | unlabelled source target kind => simp [Link.Fits, Link.Readable]
  | unreadable cause => simp [Link.Fits, Link.Readable]

lemma Link.Among.mono {known known' : String → Prop} {l : Link} (h : l.Among known)
    (hknown : ∀ id, known id → known' id) : l.Among known' := by
  cases l with
  | edge e => exact ⟨hknown _ h.1, hknown _ h.2⟩
  | unlabelled source target kind => exact ⟨hknown _ h.1, hknown _ h.2⟩
  | unreadable cause => trivial

/-- Whether a link can be followed only depends on what is known of its ends. -/
lemma Link.Among.fits_congr {among known known' : String → Prop} {l : Link} (h : l.Among among)
    (hknown : ∀ id, among id → (known id ↔ known' id)) : l.Fits known ↔ l.Fits known' := by
  cases l with
  | edge e => simp [Link.Fits, hknown _ h.1, hknown _ h.2]
  | unlabelled source target kind => exact Iff.rfl
  | unreadable cause => exact Iff.rfl

lemma Link.Among.leaves {known : String → Prop} {l : Link} (h : l.Among known) :
    ∀ u ∈ l.leaves, known u.1 ∧ known u.2.1 := by
  cases l with
  | edge e => simp [Link.leaves]
  | unlabelled source target kind =>
    intro u hu
    rw [Link.leaves] at hu
    split at hu
    · cases hu
    · rw [List.mem_singleton.mp hu]
      exact h
  | unreadable cause => simp [Link.leaves]

/-- What an analysis knows besides the diagram under construction. -/
def Session.rest (s : Session) :
    Component × List (String × Atom) × List (String × String) × List ProcessorFault :=
  (s.component, s.atoms, s.resources, s.faults)

namespace Build

/-- Whether nothing has been refused so far. -/
def Live (b : Build) : Prop := b.refusal = none

/-- The ids drawn from one build to another are not taken in the first. -/
def Free (b b' : Build) : Prop :=
  ∀ id, b.session.Draws b'.session id → id ∉ b.diagram.ids

/-- A stretch of the assembly. It goes through if the ids that it draws are free and `c` holds, and
it leaves the edges `u` without a text as label. -/
structure Grows (laying : Bool) (c : Prop) (u : List (String × String × String)) (b b' : Build) :
    Prop where
  counts : b.session.CountsLe b'.session
  rest : b'.session.rest = b.session.rest
  edits : Diagram.Edits laying b.diagram b'.diagram
  left : b'.unlabelled = b.unlabelled ++ u
  live : b'.Live ↔ b.Live ∧ b.Free b' ∧ c
  added : b'.Live → ∃ new, b'.diagram.ids = b.diagram.ids ++ new ∧ b.session.DrawsAll b'.session new

variable {k : Bool} {c c' c₂ : Prop} {u u' : List (String × String × String)} {b b' b'' : Build}

lemma Grows.ids (h : Grows k c u b b') (hlive : b'.Live) (id : String) :
    id ∈ b'.diagram.ids ↔ id ∈ b.diagram.ids ∨ b.session.Draws b'.session id := by
  obtain ⟨new, hids, hdrawn⟩ := h.added hlive
  rw [hids, List.mem_append, hdrawn.mem_iff]

/-! ## Putting stretches together -/

/-- A stretch that draws no ids. -/
lemma Grows.of_counters_eq (hcounters : b'.session.counters = b.session.counters)
    (rest : b'.session.rest = b.session.rest)
    (edits : Diagram.Edits k b.diagram b'.diagram) (left : b'.unlabelled = b.unlabelled ++ u)
    (live : b'.Live ↔ b.Live ∧ c) (ids : b'.diagram.ids = b.diagram.ids) :
    Grows k c u b b' where
  counts := Session.countsLe_of_counters_eq hcounters
  rest := rest
  edits := edits
  left := left
  live := by
    have hfree : b.Free b' := fun id hid =>
      absurd hid (Session.not_draws_of_counters_eq hcounters id)
    rw [live]
    exact and_congr_right fun _ => ⟨fun hc => ⟨hfree, hc⟩, fun h => h.2⟩
  added := fun _ => ⟨[], by rw [ids, List.append_nil], Session.drawsAll_of_counters_eq hcounters⟩

lemma Grows.refl (k : Bool) (b : Build) : Grows k True [] b b :=
  .of_counters_eq rfl rfl (Diagram.Edits.refl k _) (by simp) (by simp) rfl

lemma Grows.congr (h : Grows k c u b b') (hc : b.Live → b.Free b' → (c ↔ c')) :
    Grows k c' u b b' where
  counts := h.counts
  rest := h.rest
  edits := h.edits
  left := h.left
  live := by
    rw [h.live]
    exact and_congr_right fun hlive => and_congr_right fun hfree => hc hlive hfree
  added := h.added

lemma Grows.laying (h : Grows false c u b b') : Grows true c u b b' where
  counts := h.counts
  rest := h.rest
  edits := h.edits.laying
  left := h.left
  live := h.live
  added := h.added

/-- In the middle the ids drawn later are free if they were free at the start. -/
lemma Grows.free_trans (h : Grows k c u b b') (hlive : b'.Live)
    (hcounts : b'.session.CountsLe b''.session) :
    b.Free b'' ↔ b.Free b' ∧ b'.Free b'' := by
  have hdraws : ∀ id, b.session.Draws b''.session id ↔
      b.session.Draws b'.session id ∨ b'.session.Draws b''.session id :=
    fun id => Session.draws_trans h.counts hcounts
  constructor
  · intro hfree
    refine ⟨fun id hid => hfree id ((hdraws id).mpr (.inl hid)), fun id hid hmem => ?_⟩
    obtain hmem | hdrawn := (h.ids hlive id).mp hmem
    · exact hfree id ((hdraws id).mpr (.inr hid)) hmem
    · exact hid.not_draws hdrawn
  · rintro ⟨hfree, hfree'⟩ id hid
    obtain hid | hid := (hdraws id).mp hid
    · exact hfree id hid
    · exact fun hmem => hfree' id hid ((h.ids hlive id).mpr (.inl hmem))

/-- Two stretches one after the other. The condition of the second one may use that the first went
through. -/
lemma Grows.trans (h : Grows k c u b b') (h' : Grows k c' u' b' b'')
    (hc : b'.Live → (c' ↔ c₂)) : Grows k (c ∧ c₂) (u ++ u') b b'' where
  counts := h.counts.trans h'.counts
  rest := h'.rest.trans h.rest
  edits := h.edits.trans h'.edits
  left := by rw [h'.left, h.left, List.append_assoc]
  live := by
    constructor
    · intro hlive''
      obtain ⟨hlive', hfree', hc'⟩ := h'.live.mp hlive''
      obtain ⟨hlive, hfree, hcond⟩ := h.live.mp hlive'
      exact ⟨hlive, (h.free_trans hlive' h'.counts).mpr ⟨hfree, hfree'⟩, hcond, (hc hlive').mp hc'⟩
    · rintro ⟨hlive, hfree, hcond, hc₂⟩
      have hfreeFirst : b.Free b' := fun id hid =>
        hfree id ((Session.draws_trans h.counts h'.counts).mpr (.inl hid))
      have hlive' := h.live.mpr ⟨hlive, hfreeFirst, hcond⟩
      exact h'.live.mpr
        ⟨hlive', ((h.free_trans hlive' h'.counts).mp hfree).2, (hc hlive').mpr hc₂⟩
  added := by
    intro hlive''
    obtain ⟨new, hids, hdrawn⟩ := h.added (h'.live.mp hlive'').1
    obtain ⟨new', hids', hdrawn'⟩ := h'.added hlive''
    exact ⟨new ++ new', by rw [hids', hids, List.append_assoc],
      hdrawn.append hdrawn' h.counts h'.counts⟩

/-- Two stretches without further conditions. -/
lemma Grows.append (h : Grows k True [] b b') (h' : Grows k True [] b' b'') :
    Grows k True [] b b'' :=
  (h.trans h' fun _ => Iff.rfl).congr fun _ _ => by simp

lemma Grows.mem_ids (h : Grows k c u b b') (hlive : b'.Live) {id : String}
    (hid : id ∈ b.diagram.ids) : id ∈ b'.diagram.ids :=
  (h.ids hlive id).mpr (.inl hid)

/-! ## Known ids -/

/-- As long as nothing is refused, the ids with a property are those of nodes. -/
def Knows (b : Build) (P : String → Prop) : Prop :=
  b.Live → ∀ id, P id → id ∈ b.diagram.ids

lemma Grows.knows {P : String → Prop} (h : Grows k c u b b') (hb : b.Knows P) : b'.Knows P := by
  intro hlive id hid
  exact h.mem_ids hlive (hb (h.live.mp hlive).1 id hid)

lemma Knows.mono {P Q : String → Prop} (h : b.Knows P) (hQ : ∀ id, Q id → P id) : b.Knows Q :=
  fun hlive id hid => h hlive id (hQ id hid)

lemma Knows.or {P Q : String → Prop} (h : b.Knows P) (h' : b.Knows Q) :
    b.Knows fun id => P id ∨ Q id :=
  fun hlive id hid => hid.elim (h hlive id) (h' hlive id)

/-- Ids that were drawn on the way are known. -/
lemma Grows.knows_drawn (h : Grows k c u b b') : b'.Knows (b.session.Draws b'.session) :=
  fun hlive id hid => (h.ids hlive id).mpr (.inr hid)

/-! ## Known nodes -/

/-- As long as nothing is refused, every item has a node that is as it should be. -/
def HasNodes {α : Type} (b : Build) (items : List α) (Q : α → Node → Prop) : Prop :=
  b.Live → ∀ o ∈ items, ∃ n ∈ b.diagram.nodes, Q o n

lemma Grows.hasNodes {α : Type} {items : List α} {Q : α → Node → Prop} (h : Grows k c u b b')
    (hb : b.HasNodes items Q) (hQ : ∀ o n n', Node.Continues n' n → Q o n → Q o n') :
    b'.HasNodes items Q := by
  intro hlive o ho
  obtain ⟨n, hn, hQn⟩ := hb (h.live.mp hlive).1 o ho
  obtain ⟨n', hn', hcontinues⟩ := h.edits.exists_node hn
  exact ⟨n', hn', hQ o n n' hcontinues hQn⟩

lemma HasNodes.append {α : Type} {items more : List α} {Q : α → Node → Prop}
    (h : b.HasNodes items Q) (h' : b.HasNodes more Q) : b.HasNodes (items ++ more) Q :=
  fun hlive => List.forall_mem_append.mpr ⟨h hlive, h' hlive⟩

/-! ## Single steps -/

lemma record_kept (b : Build) (level : Level) (origin message : String) :
    (b.record level origin message).session.counters = b.session.counters ∧
      (b.record level origin message).session.rest = b.session.rest ∧
      (b.record level origin message).diagram = b.diagram ∧
      (b.record level origin message).unlabelled = b.unlabelled ∧
      ((b.record level origin message).Live ↔ b.Live) := by
  unfold record
  split
  · exact ⟨rfl, rfl, rfl, rfl, Iff.rfl⟩
  · exact ⟨rfl, rfl, rfl, rfl, Iff.rfl⟩

lemma grows_record (k : Bool) (b : Build) (level : Level) (origin message : String) :
    Grows k True [] b (b.record level origin message) := by
  unfold record
  cases hrefusal : b.refusal with
  | none =>
    refine .of_counters_eq rfl rfl (Diagram.Edits.refl k _) (List.append_nil _).symm ?_ rfl
    simp [Live, hrefusal]
  | some e => exact Grows.refl k b

lemma grows_stop (k : Bool) (b : Build) (e : DiagramError) : Grows k False [] b (b.stop e) := by
  refine .of_counters_eq rfl rfl (Diagram.Edits.refl k _) (List.append_nil _).symm ?_ rfl
  simp [Live, stop]

/-- What a change can come to. -/
lemma change_cases (b : Build) (f : Diagram → Except DiagramError Diagram) :
    (¬ b.Live ∧ b.change f = b) ∨
      (b.Live ∧ ∃ d', f b.diagram = .ok d' ∧
        b.change f = { b with session := { b.session with diagram := d' } }) ∨
      (b.Live ∧ ∃ e, f b.diagram = .error e ∧ b.change f = { b with refusal := some e }) := by
  unfold change
  cases hrefusal : b.refusal with
  | some e => exact .inl ⟨by simp [Live, hrefusal], rfl⟩
  | none =>
    cases hres : f b.diagram with
    | ok d' => exact .inr (.inl ⟨hrefusal, d', rfl, rfl⟩)
    | error e => exact .inr (.inr ⟨hrefusal, e, rfl, rfl⟩)

lemma change_of_ok {f : Diagram → Except DiagramError Diagram} {d : Diagram} (hlive : b.Live)
    (h : f b.diagram = .ok d) :
    b.change f = { b with session := { b.session with diagram := d } } := by
  rw [Live] at hlive
  rw [change, hlive]
  simp [h]

lemma change_of_error {f : Diagram → Except DiagramError Diagram} {e : DiagramError}
    (hlive : b.Live) (h : f b.diagram = .error e) : b.change f = { b with refusal := some e } := by
  rw [Live] at hlive
  rw [change, hlive]
  simp [h]

lemma change_of_stopped {f : Diagram → Except DiagramError Diagram} (hstopped : ¬ b.Live) :
    b.change f = b := by
  obtain ⟨-, heq⟩ | ⟨hlive, -⟩ | ⟨hlive, -⟩ := b.change_cases f
  · exact heq
  · exact absurd hlive hstopped
  · exact absurd hlive hstopped

/-- A change goes through if the diagram does not refuse it. -/
lemma grows_change {f : Diagram → Except DiagramError Diagram}
    (hf : ∀ d', f b.diagram = .ok d' →
      Diagram.Edits k b.diagram d' ∧ d'.ids = b.diagram.ids) :
    Grows k (∃ d', f b.diagram = .ok d') [] b (b.change f) := by
  obtain ⟨hlive, heq⟩ | ⟨hlive, d', hres, heq⟩ | ⟨hlive, e, hres, heq⟩ := b.change_cases f
  · rw [heq]
    refine .of_counters_eq rfl rfl (Diagram.Edits.refl k _) (List.append_nil _).symm ?_ rfl
    simp [hlive]
  · obtain ⟨hedits, hids⟩ := hf d' hres
    rw [heq]
    refine .of_counters_eq rfl rfl hedits (List.append_nil _).symm ?_ hids
    simp [hres, Live]
  · rw [heq]
    refine .of_counters_eq rfl rfl (Diagram.Edits.refl k _) (List.append_nil _).symm ?_ rfl
    simp [hres, Live]

lemma grows_modifyNode (k : Bool) (b : Build) (id : String) {f : Node → Node}
    (hf : ∀ n, (f n).Continues n) :
    Grows k True [] b (b.modifyNode id f) := by
  refine (grows_change (k := k) fun d' hd' => ?_).congr fun _ _ =>
    ⟨fun _ => trivial, fun _ => ⟨_, rfl⟩⟩
  obtain rfl := Except.ok.inj hd'
  exact ⟨(Diagram.Edit.modifyNode hf).edits, Diagram.ids_modifyNode fun n => (hf n).id⟩

lemma grows_annotate (k : Bool) (b : Build) (id : String) {key : String} (value : Value)
    (hkey : key ∈ noteKeys) : Grows k True [] b (b.annotate id key value) :=
  grows_modifyNode k b id fun n => n.continues_set value hkey

lemma grows_modifyGroup (b : Build) (id : String) {f : Group → Group}
    (hf : ∀ g, (f g).id = g.id ∧ (f g).parent = g.parent) :
    Grows true True [] b (b.modifyGroup id f) := by
  refine (grows_change (k := true) fun d' hd' => ?_).congr fun _ _ =>
    ⟨fun _ => trivial, fun _ => ⟨_, rfl⟩⟩
  obtain rfl := Except.ok.inj hd'
  exact ⟨(Diagram.Edit.modifyGroup hf).edits, rfl⟩

lemma grows_addMember (b : Build) (group id : String) :
    Grows true True [] b (b.addMember group id) :=
  grows_modifyGroup b group fun _ => ⟨rfl, rfl⟩

/-! ## Steps that draw an id -/

/-- A change that adds something under a new id goes through if the id is free and nothing else
stands in its way. -/
lemma grows_draw (stem : String) {f : Diagram → Except DiagramError Diagram}
    (hc : (∃ d', f b.diagram = .ok d') ↔
      Session.idOf stem (b.session.count stem) ∉ b.diagram.ids ∧ c)
    (hf : ∀ d', f b.diagram = .ok d' → Diagram.Edits k b.diagram d' ∧
      d'.ids = b.diagram.ids ++ [Session.idOf stem (b.session.count stem)]) :
    Grows k c [] b ((b.nextId stem).2.change f) := by
  -- whatever becomes of the change, the id is drawn
  have hdraws : ∀ {s : Session}, s.counters = (b.session.nextId stem).2.counters →
      ∀ id, b.session.Draws s id ↔ id = Session.idOf stem (b.session.count stem) := by
    intro s hs id
    rw [← Session.draws_nextId]
    simp only [Session.Draws, Session.count, hs]
  have hcounts : ∀ {s : Session}, s.counters = (b.session.nextId stem).2.counters →
      b.session.CountsLe s := fun hs =>
    (Session.countsLe_nextId b.session stem).trans (Session.countsLe_of_counters_eq hs)
  have hfree : ∀ {b' : Build}, b'.session.counters = (b.session.nextId stem).2.counters →
      (b.Free b' ↔ Session.idOf stem (b.session.count stem) ∉ b.diagram.ids) := by
    intro b' hs
    simp only [Free, hdraws hs]
    exact ⟨fun h => h _ rfl, fun h id hid => hid ▸ h⟩
  have hlive_iff : (b.nextId stem).2.Live ↔ b.Live := Iff.rfl
  obtain ⟨hlive, heq⟩ | ⟨hlive, d', hres, heq⟩ | ⟨hlive, e, hres, heq⟩ :=
    (b.nextId stem).2.change_cases f
  · rw [heq]
    rw [hlive_iff] at hlive
    refine ⟨hcounts rfl, rfl, Diagram.Edits.refl k _, (List.append_nil _).symm, ?_, ?_⟩
    · simp [hlive_iff, hlive]
    · exact fun h => absurd h hlive
  · rw [heq]
    obtain ⟨hedits, hids⟩ := hf d' hres
    refine ⟨hcounts rfl, rfl, hedits, (List.append_nil _).symm, ?_, ?_⟩
    · rw [hfree rfl]
      exact ⟨fun _ => ⟨hlive, hc.mp ⟨d', hres⟩⟩, fun _ => hlive⟩
    · exact fun _ => ⟨_, hids, Session.drawsAll_nextId b.session stem⟩
  · rw [heq]
    refine ⟨hcounts rfl, rfl, Diagram.Edits.refl k _, (List.append_nil _).symm, ?_, ?_⟩
    · rw [hfree rfl, ← hc]
      have hno : ¬ ∃ d', f b.diagram = .ok d' := by
        rintro ⟨d', hd'⟩
        exact absurd (hd'.symm.trans hres) (by simp)
      simp [Live, hno]
    · exact fun h => absurd h (by simp [Live])

lemma addNode_snd (b : Build) (sketch : Sketch) : (b.addNode sketch).2 =
    (b.nextId sketch.stem).2.change (·.addNode (b.newNode sketch)) := rfl

/-- A node goes through if its id is free. -/
lemma grows_addNode (k : Bool) (b : Build) (sketch : Sketch) :
    Grows k True [] b (b.addNode sketch).2 := by
  rw [addNode_snd]
  refine grows_draw sketch.stem ?_ fun d' hd' => ?_
  · rw [and_true]
    constructor
    · rintro ⟨d', hd'⟩
      exact (Diagram.addNode_eq_ok_iff.mp hd').2.1
    · intro hid
      exact ⟨_, Diagram.addNode_eq_ok_iff.mpr ⟨isNodeType_name sketch.type, hid, rfl⟩⟩
  · have hedit := Diagram.Edit.node (k := k) (NodeType.name_ne_group sketch.type_ne_group) hd'
    obtain ⟨-, -, rfl⟩ := Diagram.addNode_eq_ok_iff.mp hd'
    exact ⟨hedit.edits, by simp [Diagram.ids]; rfl⟩

section Sketches

variable {sketch : Sketch}

lemma addNode_of_free (hlive : b.Live) (hfree : (b.newNode sketch).id ∉ b.diagram.ids) :
    (b.addNode sketch).2.Live ∧ (b.addNode sketch).2.diagram =
      { b.diagram with nodes := b.diagram.nodes ++ [b.newNode sketch] } := by
  have hok : (b.nextId sketch.stem).2.diagram.addNode (b.newNode sketch) = .ok _ :=
    Diagram.addNode_eq_ok_iff.mpr ⟨isNodeType_name sketch.type, hfree, rfl⟩
  have hlive' : (b.nextId sketch.stem).2.Live := hlive
  rw [addNode_snd, change_of_ok hlive' hok]
  exact ⟨hlive, rfl⟩

/-- A node with an id that is taken is refused. -/
lemma addNode_of_taken (hlive : b.Live)
    (htaken : (b.newNode sketch).id ∈ b.diagram.ids) :
    (b.addNode sketch).2.diagram = b.diagram ∧
      (b.addNode sketch).2.refusal = some (.duplicateNode (b.newNode sketch).id) := by
  have hknown : isNodeType (b.newNode sketch).type = true := isNodeType_name sketch.type
  have htaken' : (b.nextId sketch.stem).2.diagram.contains (b.newNode sketch).id = true :=
    Diagram.contains_iff.mpr htaken
  have herror : (b.nextId sketch.stem).2.diagram.addNode (b.newNode sketch) =
      .error (.duplicateNode (b.newNode sketch).id) := by
    simp [Diagram.addNode, hknown, htaken']
  have hlive' : (b.nextId sketch.stem).2.Live := hlive
  rw [addNode_snd, change_of_error hlive' herror]
  exact ⟨rfl, rfl⟩

lemma counters_addNode (b : Build) (sketch : Sketch) :
    (b.addNode sketch).2.session.counters = (b.session.nextId sketch.stem).2.counters := by
  have hchange := (b.nextId sketch.stem).2.change_cases (·.addNode (b.newNode sketch))
  obtain ⟨-, heq⟩ | ⟨-, d', -, heq⟩ | ⟨-, e, -, heq⟩ := hchange
  all_goals exact congrArg (fun b : Build => b.session.counters) heq

/-- The id of a node is drawn when the node is added. -/
lemma draws_addNode (b : Build) (sketch : Sketch) :
    b.session.Draws (b.addNode sketch).2.session (b.addNode sketch).1 := by
  have hdraws : b.session.Draws (b.session.nextId sketch.stem).2
      (b.session.nextId sketch.stem).1 := Session.draws_nextId.mpr rfl
  obtain ⟨stem', n, hlow, hhigh, heq⟩ := hdraws
  refine ⟨stem', n, hlow, ?_, heq⟩
  rwa [Session.count, counters_addNode]

/-- A node that went through had a free id. -/
lemma addNode_of_live (hlive : (b.addNode sketch).2.Live) :
    b.Live ∧ (b.newNode sketch).id ∉ b.diagram.ids ∧ (b.addNode sketch).2.diagram =
      { b.diagram with nodes := b.diagram.nodes ++ [b.newNode sketch] } := by
  obtain ⟨hb, hfree, -⟩ := (grows_addNode false b sketch).live.mp hlive
  have hid := hfree _ (draws_addNode b sketch)
  exact ⟨hb, hid, (addNode_of_free hb hid).2⟩

lemma newNode_mem_addNode (hlive : (b.addNode sketch).2.Live) :
    b.newNode sketch ∈ (b.addNode sketch).2.diagram.nodes := by
  rw [(addNode_of_live hlive).2.2]
  exact List.mem_append_right _ List.mem_cons_self

end Sketches

/-- A group goes through if its id is free and its parent is there. -/
lemma grows_openGroup (b : Build) (label : String) (parent : Option String) (kind : String)
    (metadata : Metadata) :
    Grows true (∀ p, parent = some p → p ∈ b.diagram.groupIds) [] b
      (b.openGroup label parent kind metadata).2 := by
  have hopen : Grows true (∀ p, parent = some p → p ∈ b.diagram.groupIds) [] b
      ((b.nextId "subgraph").2.change (·.addGroup
        { id := (b.nextId "subgraph").1, label, parent, kind, metadata })) := by
    refine grows_draw "subgraph" ?_ fun d' hd' => ?_
    · constructor
      · rintro ⟨d', hd'⟩
        obtain ⟨hparent, hid, -⟩ := Diagram.addGroup_eq_ok_iff.mp hd'
        exact ⟨hid, hparent⟩
      · rintro ⟨hid, hparent⟩
        exact ⟨_, Diagram.addGroup_eq_ok_iff.mpr ⟨hparent, hid, rfl⟩⟩
    · have hedit := Diagram.Edit.group hd'
      obtain ⟨-, -, rfl⟩ := Diagram.addGroup_eq_ok_iff.mp hd'
      exact ⟨hedit.edits, by simp [Diagram.ids, Diagram.groupNode]; rfl⟩
  cases parent with
  | none => exact hopen
  | some p =>
    exact (hopen.trans (grows_addMember _ p _) fun _ => Iff.rfl).congr fun _ _ => by simp

/-! ## Following links -/

/-- Links add edges only. -/
lemma follow_kept (b : Build) (l : Link) :
    (b.follow l).session.counters = b.session.counters ∧
      (b.follow l).diagram.nodes = b.diagram.nodes := by
  cases l with
  | edge e =>
    rw [follow, link]
    split
    · exact ⟨rfl, rfl⟩
    obtain ⟨-, heq⟩ | ⟨-, d', hres, heq⟩ | ⟨-, e', -, heq⟩ := b.change_cases (·.addEdge e)
    · rw [heq]
      exact ⟨rfl, rfl⟩
    · obtain ⟨-, -, rfl⟩ := Diagram.addEdge_eq_ok_iff.mp hres
      rw [heq]
      exact ⟨rfl, rfl⟩
    · rw [heq]
      exact ⟨rfl, rfl⟩
  | unlabelled source target kind =>
    rw [follow]
    split <;> exact ⟨rfl, rfl⟩
  | unreadable cause => exact ⟨rfl, rfl⟩

lemma followAll_kept (b : Build) (ls : List Link) :
    (b.followAll ls).session.counters = b.session.counters ∧
      (b.followAll ls).diagram.nodes = b.diagram.nodes := by
  induction ls generalizing b with
  | nil => exact ⟨rfl, rfl⟩
  | cons l rest ih =>
    obtain ⟨hcounters, hnodes⟩ := ih (b.follow l)
    obtain ⟨hcounters', hnodes'⟩ := b.follow_kept l
    exact ⟨hcounters.trans hcounters', hnodes.trans hnodes'⟩

/-- Once the build has stopped, links change nothing. -/
lemma followAll_of_stopped (hstopped : ¬ b.Live) (ls : List Link) :
    (b.followAll ls).diagram = b.diagram ∧ (b.followAll ls).refusal = b.refusal := by
  induction ls generalizing b with
  | nil => exact ⟨rfl, rfl⟩
  | cons l rest ih =>
    have hkept : (b.follow l).diagram = b.diagram ∧ (b.follow l).refusal = b.refusal := by
      cases l with
      | edge e =>
        rw [follow, link]
        split
        · exact ⟨rfl, rfl⟩
        · rw [change_of_stopped hstopped]
          exact ⟨rfl, rfl⟩
      | unlabelled source target kind =>
        rw [follow]
        split <;> exact ⟨rfl, rfl⟩
      | unreadable cause =>
        obtain ⟨e, he⟩ := Option.ne_none_iff_exists'.mp hstopped
        exact ⟨rfl, by simp [follow, stop, he]⟩
    have hstopped' : ¬ (b.follow l).Live := by rwa [Live, hkept.2]
    obtain ⟨hdiagram, hrefusal⟩ := ih hstopped'
    exact ⟨hdiagram.trans hkept.1, hrefusal.trans hkept.2⟩

lemma linkAll_eq_followAll (b : Build) (es : List Edge) :
    b.linkAll es = b.followAll (es.map .edge) := by
  rw [linkAll, followAll, List.foldl_map]
  rfl

lemma grows_follow (k : Bool) (b : Build) (l : Link) :
    Grows k (l.Fits (· ∈ b.diagram.ids)) l.leaves b (b.follow l) := by
  cases l with
  | edge e =>
    rw [follow, link]
    by_cases hloop : e.source = e.target
    · rw [if_pos (by simpa using hloop)]
      exact (Grows.refl k b).congr fun _ _ => by simp [Link.Fits, hloop]
    · rw [if_neg (by simpa using hloop)]
      refine (grows_change (k := k) fun d' hd' => ?_).congr fun _ _ => ?_
      · have hedit := Diagram.Edit.edge (k := k) hloop hd'
        obtain ⟨-, -, rfl⟩ := Diagram.addEdge_eq_ok_iff.mp hd'
        exact ⟨hedit.edits, rfl⟩
      · simp only [Link.Fits, hloop, false_or]
        constructor
        · rintro ⟨d', hd'⟩
          obtain ⟨hsource, htarget, -⟩ := Diagram.addEdge_eq_ok_iff.mp hd'
          exact ⟨hsource, htarget⟩
        · rintro ⟨hsource, htarget⟩
          exact ⟨_, Diagram.addEdge_eq_ok_iff.mpr ⟨hsource, htarget, rfl⟩⟩
  | unlabelled source target kind =>
    rw [follow, Link.leaves]
    split
    · exact Grows.refl k b
    · refine .of_counters_eq rfl rfl (Diagram.Edits.refl k _) rfl ?_ rfl
      simp [Live, Link.Fits]
  | unreadable cause => exact grows_stop k b _

/-- Links can be followed if each of them can. -/
lemma grows_followAll (k : Bool) (b : Build) (ls : List Link) :
    Grows k (∀ l ∈ ls, l.Fits (· ∈ b.diagram.ids)) (ls.flatMap Link.leaves) b
      (b.followAll ls) := by
  induction ls generalizing b with
  | nil => exact (Grows.refl k b).congr fun _ _ => by simp
  | cons l rest ih =>
    have hids : (b.follow l).diagram.ids = b.diagram.ids := by
      rw [Diagram.ids, Diagram.ids, (b.follow_kept l).2]
    have hgrows := (grows_follow k b l).trans (ih (b.follow l)) (fun _ => Iff.rfl)
    rw [hids] at hgrows
    exact hgrows.congr fun _ _ => by simp

lemma grows_linkAll (k : Bool) (b : Build) (es : List Edge) :
    Grows k (∀ e ∈ es, (Link.edge e).Fits (· ∈ b.diagram.ids)) [] b (b.linkAll es) := by
  have hleaves : (es.map Link.edge).flatMap Link.leaves = [] := by
    simp [Link.leaves]
  rw [linkAll_eq_followAll, ← hleaves]
  exact (grows_followAll k b (es.map .edge)).congr fun _ _ => by simp

/-- Links between known nodes can be followed if they can be read. -/
lemma grows_followAll_among {P : String → Prop} (k : Bool) (hb : b.Knows P) {ls : List Link}
    (hls : ∀ l ∈ ls, l.Among P) :
    Grows k (∀ l ∈ ls, l.Readable) (ls.flatMap Link.leaves) b (b.followAll ls) := by
  refine (grows_followAll k b ls).congr fun hlive _ => ?_
  exact forall₂_congr fun l hl => (hls l hl).fits_iff (hb hlive)

/-- Edges between known nodes are never refused. -/
lemma grows_linkAll_among {P : String → Prop} (k : Bool) (hb : b.Knows P) {es : List Edge}
    (hes : ∀ e ∈ es, P e.source ∧ P e.target) : Grows k True [] b (b.linkAll es) := by
  refine (grows_linkAll k b es).congr fun hlive _ => ⟨fun _ => trivial, fun _ e he => .inr ?_⟩
  exact ⟨hb hlive _ (hes e he).1, hb hlive _ (hes e he).2⟩

lemma grows_link_among {P : String → Prop} (k : Bool) (hb : b.Knows P) (e : Edge)
    (hsource : P e.source) (htarget : P e.target) : Grows k True [] b (b.link e) := by
  have hes : ∀ e' ∈ [e], P e'.source ∧ P e'.target := by
    simpa using ⟨hsource, htarget⟩
  exact grows_linkAll_among k hb hes

end Build

end ComponentFlow
