import ComponentFlow.Proofs.Agreement
import ComponentFlow.Proofs.Assembling

/-!
# Builds that agree

The assembly makes the same of sessions that agree. Most of its steps do not write records: they
commute with `Build.retold`, which puts other declared types and another journal into a build. The
few steps that do write records keep `Build.Agrees`, and so does the whole assembly
(`Assembly.agrees_assemble`).
-/

namespace ComponentFlow

namespace Build

/-- A build with other declared types and another journal. -/
def retold (b : Build) (types : List (String × String)) (journal : Journal) : Build :=
  { b with session := b.session.retold types journal }

/-- Two builds that differ at most in the declared types and in the journal. -/
def Agrees (b b' : Build) : Prop := ∃ types journal, b' = b.retold types journal

variable (b : Build) (types : List (String × String)) (journal : Journal)

@[simp]
lemma diagram_retold : (b.retold types journal).diagram = b.diagram := rfl

@[simp]
lemma change_retold (f : Diagram → Except DiagramError Diagram) :
    (b.retold types journal).change f = (b.change f).retold types journal := by
  have hrefusal : (b.retold types journal).refusal = b.refusal := rfl
  rw [change, change, hrefusal, diagram_retold]
  cases b.refusal with
  | some e => rfl
  | none => cases f b.diagram <;> rfl

@[simp]
lemma addNode_retold (sketch : Sketch) :
    (b.retold types journal).addNode sketch =
      ((b.addNode sketch).1, (b.addNode sketch).2.retold types journal) := by
  have hnext : (b.retold types journal).nextId sketch.stem =
      ((b.nextId sketch.stem).1, (b.nextId sketch.stem).2.retold types journal) := rfl
  simp only [addNode, newNode, hnext, change_retold]

@[simp]
lemma annotate_retold (id key : String) (value : Value) :
    (b.retold types journal).annotate id key value =
      (b.annotate id key value).retold types journal := by
  simp only [annotate, modifyNode, change_retold]

@[simp]
lemma modifyGroup_retold (id : String) (f : Group → Group) :
    (b.retold types journal).modifyGroup id f = (b.modifyGroup id f).retold types journal :=
  change_retold b types journal _

@[simp]
lemma addMember_retold (group id : String) :
    (b.retold types journal).addMember group id = (b.addMember group id).retold types journal :=
  modifyGroup_retold b types journal group _

@[simp]
lemma openGroup_retold (label : String) (parent : Option String) (kind : String)
    (metadata : Metadata) :
    (b.retold types journal).openGroup label parent kind metadata =
      ((b.openGroup label parent kind metadata).1,
        (b.openGroup label parent kind metadata).2.retold types journal) := by
  have hnext : (b.retold types journal).nextId "subgraph" =
      ((b.nextId "subgraph").1, (b.nextId "subgraph").2.retold types journal) := rfl
  simp only [openGroup, hnext, change_retold]
  split
  · rw [addMember_retold]
  · rfl

@[simp]
lemma link_retold (e : Edge) :
    (b.retold types journal).link e = (b.link e).retold types journal := by
  simp only [link]
  split
  · rfl
  · exact change_retold b types journal _

@[simp]
lemma linkAll_retold (edges : List Edge) :
    (b.retold types journal).linkAll edges = (b.linkAll edges).retold types journal :=
  List.foldl_hom (fun b : Build => b.retold types journal) fun b e => link_retold b types journal e

@[simp]
lemma follow_retold (l : Link) :
    (b.retold types journal).follow l = (b.follow l).retold types journal := by
  cases l with
  | edge e => exact link_retold b types journal e
  | unlabelled source target kind =>
    simp only [follow]
    split <;> rfl
  | unreadable cause => rfl

@[simp]
lemma followAll_retold (links : List Link) :
    (b.retold types journal).followAll links = (b.followAll links).retold types journal :=
  List.foldl_hom (fun b : Build => b.retold types journal) fun b l =>
    follow_retold b types journal l

variable {b} {b' : Build}

lemma Agrees.record (h : b.Agrees b') (level : Level) (origin message : String) :
    (b.record level origin message).Agrees (b'.record level origin message) := by
  obtain ⟨types, journal, rfl⟩ := h
  obtain ⟨s, refusal, unlabelled⟩ := b
  cases refusal with
  | some e => exact ⟨types, journal, rfl⟩
  | none => exact ⟨types, _, rfl⟩

lemma Agrees.change (h : b.Agrees b') (f : Diagram → Except DiagramError Diagram) :
    (b.change f).Agrees (b'.change f) := by
  obtain ⟨types, journal, rfl⟩ := h
  exact ⟨types, journal, change_retold b types journal f⟩

lemma Agrees.diagram (h : b.Agrees b') : b'.diagram = b.diagram := by
  obtain ⟨types, journal, rfl⟩ := h
  rfl

end Build

open Build

namespace Assembly

variable (types : List (String × String)) (journal : Journal)

/-! ## Props and processes -/

/-- A build with what was found on the way, told otherwise. -/
def retell {α : Type} (x : Build × α) : Build × α := (x.1.retold types journal, x.2)

lemma retell_mk {α : Type} (b : Build) (x : α) :
    retell types journal (b, x) = (b.retold types journal, x) := rfl

lemma addProp_retell (x : Build × List (String × String)) (p : InputProp) :
    addProp (retell types journal x) p = retell types journal (addProp x p) := by
  simp only [addProp, retell, addNode_retold]
  split <;> rfl

lemma addRoutine_retell (exported : Bool) (x : Build × List PlacedRoutine) (r : Routine) :
    addRoutine exported (retell types journal x) r =
      retell types journal (addRoutine exported x r) := by
  simp only [addRoutine, retell, addNode_retold]
  split
  · rfl
  · rw [annotate_retold]

lemma addNodes_retold (b : Build) (c : Component) :
    addNodes (b.retold types journal) c = retell types journal (addNodes b c) := by
  have hprops (b : Build) (props : List InputProp) :
      addProps (b.retold types journal) props = retell types journal (addProps b props) := by
    rw [addProps, addProps, ← retell_mk]
    exact List.foldl_hom (retell types journal) (addProp_retell types journal)
  have hroutines (b : Build) (exported : Bool) (rs : List Routine) :
      addRoutines (b.retold types journal) exported rs =
        retell types journal (addRoutines b exported rs) := by
    rw [addRoutines, addRoutines, ← retell_mk]
    exact List.foldl_hom (retell types journal) (addRoutine_retell types journal exported)
  simp only [addNodes, hprops, hroutines, retell]

lemma linkExternal_retell (x : NameIndex) (process : String) (y : Build × List (String × String))
    (callee : String) :
    linkExternal x process (retell types journal y) callee =
      retell types journal (linkExternal x process y callee) := by
  simp only [linkExternal, retell, addNode_retold, link_retold]
  split
  · rfl
  split <;> rfl

lemma linkRoutine_retell (x : NameIndex) (y : Build × List (String × String)) (p : PlacedRoutine) :
    linkRoutine x (retell types journal y) p = retell types journal (linkRoutine x y p) := by
  have hexternals (b : Build) (found : List (String × String)) :
      p.routine.externalCalls.foldl (linkExternal x p.id) (b.retold types journal, found) =
        retell types journal (p.routine.externalCalls.foldl (linkExternal x p.id) (b, found)) := by
    rw [← retell_mk]
    exact List.foldl_hom (retell types journal) (linkExternal_retell types journal x p.id)
  simp only [linkRoutine, retell, linkAll_retold, followAll_retold, hexternals]

lemma linkRoutines_retold (x : NameIndex) (b : Build) (placed : List PlacedRoutine) :
    linkRoutines x (b.retold types journal) placed =
      (linkRoutines x b placed).retold types journal := by
  rw [linkRoutines, linkRoutines, ← retell_mk,
    List.foldl_hom (retell types journal) (linkRoutine_retell types journal x)]
  rfl

end Assembly

/-! ## The layout -/

namespace Layout

/-- Two layouts that differ at most in the declared types and in the journal. -/
def Agrees (l l' : Layout) : Prop := ∃ b', l.build.Agrees b' ∧ l' = { l with build := b' }

variable {l l' : Layout}

lemma Agrees.place (h : l.Agrees l') (e : Element) (group : String) (scope : Scope) :
    (l.place e group scope).Agrees (l'.place e group scope) := by
  obtain ⟨_, ⟨types, journal, rfl⟩, rfl⟩ := h
  simp only [Layout.place, addNode_retold, addMember_retold]
  exact ⟨_, ⟨types, journal, rfl⟩, rfl⟩

lemma Agrees.openBranch (h : l.Agrees l') (c : Condition) (negated : Bool) (group : String)
    (scope : Scope) :
    (l.openBranch c negated group scope).2.Agrees (l'.openBranch c negated group scope).2 ∧
      (l'.openBranch c negated group scope).1 = (l.openBranch c negated group scope).1 := by
  obtain ⟨_, ⟨types, journal, rfl⟩, rfl⟩ := h
  simp only [Layout.openBranch, openGroup_retold, and_true]
  exact ⟨_, ⟨types, journal, rfl⟩, rfl⟩

lemma Agrees.enterBranch (h : l.Agrees l') (c : Condition) (negated : Bool) (group : String)
    (scope : Scope) (nodes : List RenderNode) :
    (l.enterBranch c negated group scope nodes).1.Agrees
        (l'.enterBranch c negated group scope nodes).1 ∧
      (l'.enterBranch c negated group scope nodes).2 =
        (l.enterBranch c negated group scope nodes).2 := by
  cases nodes with
  | nil => exact ⟨h, rfl⟩
  | cons n rest =>
    obtain ⟨hopened, hid⟩ := h.openBranch c negated group scope
    refine ⟨hopened, ?_⟩
    simp only [Layout.enterBranch, hid]

lemma agrees_joinLoop {b b' : Build} (h : b.Agrees b') (head : LoopHead) (group : String) :
    (joinLoop b head group).Agrees (joinLoop b' head group) :=
  (h.change _).record _ _ _

lemma Agrees.enterLoop (h : l.Agrees l') (head : LoopHead) (group : String) (kind : GroupKind)
    (scope : Scope) :
    (l.enterLoop head group kind scope).2.Agrees (l'.enterLoop head group kind scope).2 ∧
      (l'.enterLoop head group kind scope).1 = (l.enterLoop head group kind scope).1 := by
  obtain ⟨b', hb, rfl⟩ := h
  simp only [Layout.enterLoop]
  split
  · exact ⟨⟨_, agrees_joinLoop hb head group, rfl⟩, rfl⟩
  · obtain ⟨types, journal, rfl⟩ := hb
    simp only [openGroup_retold, and_true]
    exact ⟨_, ⟨types, journal, rfl⟩, rfl⟩

/-- One visit makes the same of layouts that agree, and leaves the same frames. -/
lemma Agrees.visit (h : l.Agrees l') (f : Frame) :
    (l.visit f).1.Agrees (l'.visit f).1 ∧ (l'.visit f).2 = (l.visit f).2 := by
  simp only [Layout.visit]
  split
  · refine ⟨?_, rfl⟩
    split
    · exact h.place _ _ _
    · exact h
  · rename_i c whenTrue whenFalse _
    obtain ⟨htrue, hframes⟩ := h.enterBranch c false f.group f.scope whenTrue
    obtain ⟨hfalse, hmore⟩ := htrue.enterBranch c true f.group f.scope whenFalse
    exact ⟨hfalse, by rw [hframes, hmore]⟩
  · rename_i head body _
    obtain ⟨hentered, hid⟩ := h.enterLoop head f.group f.kind f.scope
    refine ⟨hentered, ?_⟩
    simp only [hid]

lemma Agrees.walk (h : l.Agrees l') (fs : List Frame) : (l.walk fs).Agrees (l'.walk fs) := by
  -- The walk of one layout gives the induction; the other one takes the same frames.
  fun_induction Layout.walk l fs generalizing l' with
  | case1 l =>
    rw [Layout.walk]
    exact h
  | case2 l f rest ih =>
    rw [Layout.walk, (h.visit f).2]
    exact ih (h.visit f).1

lemma Agrees.addExported (h : l.Agrees l') (root : String) (handlers : List String) :
    (l.addExported root handlers).Agrees (l'.addExported root handlers) := by
  obtain ⟨_, ⟨types, journal, rfl⟩, rfl⟩ := h
  have hhandlers (b : Build) (group : String) :
      handlers.foldl (addHandlerTo group) (b.retold types journal) =
        (handlers.foldl (addHandlerTo group) b).retold types journal :=
    List.foldl_hom (fun b : Build => b.retold types journal) fun b id => by
      simp only [addHandlerTo, addMember_retold, annotate_retold]
  simp only [Layout.addExported, openGroup_retold, hhandlers]
  split
  · exact ⟨_, ⟨types, journal, rfl⟩, rfl⟩
  · exact ⟨_, ⟨types, journal, rfl⟩, rfl⟩

lemma agrees_pruneGroup {x x' : Build × List String} (h : x.1.Agrees x'.1 ∧ x'.2 = x.2)
    (id : String) :
    (pruneGroup x id).1.Agrees (pruneGroup x' id).1 ∧
      (pruneGroup x' id).2 = (pruneGroup x id).2 := by
  obtain ⟨hb, hremoved⟩ := h
  simp only [pruneGroup, hb.diagram, hremoved]
  split
  · obtain ⟨types, journal, hchanged⟩ := (hb.record _ _ _).change _
    exact ⟨⟨types, journal, congrArg (·.forget id) hchanged⟩, rfl⟩
  · exact ⟨hb, hremoved⟩

lemma Agrees.prune (h : l.Agrees l') : l.prune.Agrees l'.prune := by
  obtain ⟨b', hb, rfl⟩ := h
  have hpruned := List.foldl_rel (l := (l.build.diagram.groups.map (·.id)).reverse)
    (r := fun x x' : Build × List String => x.1.Agrees x'.1 ∧ x'.2 = x.2)
    (f := pruneGroup) (g := pruneGroup) (a := (l.build, [])) (b := (b', [])) ⟨hb, rfl⟩
    fun id _ x x' hx => agrees_pruneGroup hx id
  simp only [Layout.prune, hb.diagram, hpruned.2]
  exact ⟨_, hpruned.1, rfl⟩

lemma agrees_ofOutput {b b' : Build} (h : b.Agrees b') (output : List RenderNode)
    (exported : List String) :
    (ofOutput b output exported).Agrees (ofOutput b' output exported) := by
  obtain ⟨types, journal, rfl⟩ := h
  refine Agrees.prune ?_
  simp only [lay, openGroup_retold]
  exact (Agrees.walk ⟨_, ⟨types, journal, rfl⟩, rfl⟩ _).addExported _ _

end Layout

/-! ## Markup -/

namespace Assembly

variable {b b' : Build}

lemma agrees_linkControl (h : b.Agrees b') (x : NameIndex) (c : ControlFlow) :
    (linkControl x b c).Agrees (linkControl x b' c) := by
  obtain ⟨types, journal, rfl⟩ := h
  simp only [linkControl, diagram_retold, linkAll_retold]
  split
  · exact ⟨types, journal, rfl⟩
  · exact ⟨types, journal, rfl⟩

lemma agrees_meet (h : b.Agrees b') (x : NameIndex) (q : Request) :
    (meet x b q).Agrees (meet x b' q) := by
  cases q with
  | follow l =>
    obtain ⟨types, journal, rfl⟩ := h
    exact ⟨types, journal, follow_retold b types journal l⟩
  | note message => exact h.record _ _ _
  | handle element a calls assigns =>
    obtain ⟨types, journal, rfl⟩ := h
    refine ⟨types, journal, ?_⟩
    simp only [meet, addHandler, addNode_retold, link_retold, followAll_retold, linkAll_retold]

lemma agrees_finish (h : b.Agrees b') : (finish b).Agrees (finish b') := by
  have hunlabelled : b'.unlabelled = b.unlabelled := by
    obtain ⟨types, journal, rfl⟩ := h
    rfl
  simp only [finish, hunlabelled, h.diagram]
  split
  · obtain ⟨types, journal, rfl⟩ := h
    exact ⟨types, journal, rfl⟩
  · exact (h.record _ _ _).change _

lemma placed_retold (s : Session) (types : List (String × String)) (journal : Journal) :
    placed (s.retold types journal) = retell types journal (placed s) :=
  addNodes_retold types journal { session := s } s.component

lemma index_retold (s : Session) (types : List (String × String)) (journal : Journal) :
    index (s.retold types journal) = index s := by
  rw [index, index, placed_retold]
  rfl

lemma routed_retold (s : Session) (types : List (String × String)) (journal : Journal) :
    routed (s.retold types journal) = (routed s).retold types journal := by
  have hnamed : named (s.retold types journal) = (named s).retold types journal := by
    rw [named, named, index_retold, placed_retold]
    cases (index s).fault <;> rfl
  rw [routed, routed, related, related, hnamed, recordedLinks, recordedLinks, index_retold,
    placed_retold, followAll_retold, linkRoutines_retold]
  rfl

/-- The assembly makes the same of sessions that agree. -/
theorem agrees_assemble {s s' : Session} (h : s.Agrees s') :
    (assemble s).Agrees (assemble s') := by
  obtain ⟨types, journal, rfl⟩ := h
  have hlayout : (layout s).Agrees (layout (s.retold types journal)) := by
    rw [layout, layout, routed_retold, placed_retold]
    exact Layout.agrees_ofOutput ⟨types, journal, rfl⟩ _ _
  obtain ⟨b', hb, hlayout⟩ := hlayout
  rw [assemble_eq, assemble_eq, connected, connected, index_retold, hlayout]
  refine agrees_finish (List.foldl_rel ?_ fun q _ b b' hb => agrees_meet hb (index s) q)
  exact List.foldl_rel hb fun c _ b b' hb => agrees_linkControl hb (index s) c

end Assembly

end ComponentFlow
