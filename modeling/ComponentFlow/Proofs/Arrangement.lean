import ComponentFlow.Proofs.Census
import ComponentFlow.Proofs.Legibility

/-!
# The tree of groups

The groups of a layout form a tree, and everything that is laid out has one place in it
(`layout_arranged`). A step of the walk over the markup puts at most one thing into a group, of
which it is recorded. The walk keeps what each of its steps keeps (`Keeps.walk`), whatever that is,
so only the steps have to be looked at.
-/

namespace ComponentFlow

/-! ## Steps of the walk -/

namespace Build

variable {b : Build}

lemma openGroup_of_live {label p kind : String} {metadata : Metadata}
    (hlive : (b.openGroup label (some p) kind metadata).2.Live) :
    b.Live ∧ (b.newGroup label (some p) kind metadata).id ∉ b.diagram.ids ∧
      p ∈ b.diagram.groupIds ∧
      (b.openGroup label (some p) kind metadata).2.diagram = Diagram.enroll { b.diagram with
        nodes := b.diagram.nodes ++
          [Diagram.groupNode (b.newGroup label (some p) kind metadata)]
        groups := b.diagram.groups ++ [b.newGroup label (some p) kind metadata] }
          p (b.newGroup label (some p) kind metadata).id := by
  obtain ⟨hstopped, -⟩ | ⟨hb, d', hok, heq⟩ := b.openGroup_cases label (some p) kind metadata
  · exact absurd hlive hstopped
  · obtain ⟨hparent, hid, rfl⟩ := Diagram.addGroup_eq_ok_iff.mp hok
    exact ⟨hb, hid, hparent p rfl, heq⟩

end Build

namespace Layout

open Build

/-- What each step of a walk keeps: a property of the layout, and one of the groups in use. -/
structure Keeps (P : Layout → Prop) (Q : Layout → String → GroupKind → Prop) : Prop where
  place : ∀ {l group kind}, P l → Q l group kind → ∀ e scope,
    P (l.place e group scope) ∧ ∀ g k, Q l g k → Q (l.place e group scope) g k
  openBranch : ∀ {l group kind}, P l → Q l group kind → ∀ c negated scope,
    P (l.openBranch c negated group scope).2 ∧
      Q (l.openBranch c negated group scope).2 (l.openBranch c negated group scope).1
        .conditional ∧
      ∀ g k, Q l g k → Q (l.openBranch c negated group scope).2 g k
  enterLoop : ∀ {l group kind}, P l → Q l group kind → ∀ head scope,
    P (l.enterLoop head group kind scope).2 ∧
      Q (l.enterLoop head group kind scope).2 (l.enterLoop head group kind scope).1 .loop ∧
      ∀ g k, Q l g k → Q (l.enterLoop head group kind scope).2 g k

namespace Keeps

variable {P : Layout → Prop} {Q : Layout → String → GroupKind → Prop} {l : Layout}

lemma enterBranch (h : Keeps P Q) {group : String} {kind : GroupKind} (hP : P l)
    (hQ : Q l group kind) (c : Condition) (negated : Bool) (scope : Scope)
    (nodes : List RenderNode) :
    P (l.enterBranch c negated group scope nodes).1 ∧
      (∀ f ∈ (l.enterBranch c negated group scope nodes).2,
        Q (l.enterBranch c negated group scope nodes).1 f.group f.kind) ∧
      ∀ g k, Q l g k → Q (l.enterBranch c negated group scope nodes).1 g k := by
  cases nodes with
  | nil => exact ⟨hP, by simp [Layout.enterBranch], fun _ _ => id⟩
  | cons n rest =>
    obtain ⟨hP', hQ', hmono⟩ := h.openBranch hP hQ c negated scope
    refine ⟨hP', fun f hf => ?_, hmono⟩
    obtain ⟨node, -, rfl⟩ := List.mem_map.mp hf
    exact hQ'

lemma visit (h : Keeps P Q) {f : Frame} (hP : P l) (hQ : Q l f.group f.kind) :
    P (l.visit f).1 ∧ (∀ f' ∈ (l.visit f).2, Q (l.visit f).1 f'.group f'.kind) ∧
      ∀ g k, Q l g k → Q (l.visit f).1 g k := by
  unfold Layout.visit
  split
  · rename_i e children _
    have hbelow : ∀ l', Q l' f.group f.kind →
        ∀ f' ∈ frames f.group f.kind false f.scope children, Q l' f'.group f'.kind := by
      intro l' hQ' f' hf'
      obtain ⟨node, -, rfl⟩ := List.mem_map.mp hf'
      exact hQ'
    split
    · obtain ⟨hP', hmono⟩ := h.place hP hQ e f.scope
      exact ⟨hP', hbelow _ (hmono _ _ hQ), hmono⟩
    · exact ⟨hP, hbelow _ hQ, fun _ _ => id⟩
  · rename_i c whenTrue whenFalse _
    obtain ⟨htrue, hframes, hmono⟩ := h.enterBranch hP hQ c false f.scope whenTrue
    obtain ⟨hfalse, hframes', hmono'⟩ :=
      h.enterBranch htrue (hmono _ _ hQ) c true f.scope whenFalse
    refine ⟨hfalse, List.forall_mem_append.mpr ⟨fun f' hf' => ?_, hframes'⟩, fun g k hg => ?_⟩
    · exact hmono' _ _ (hframes f' hf')
    · exact hmono' _ _ (hmono _ _ hg)
  · rename_i head body _
    obtain ⟨hP', hQ', hmono⟩ := h.enterLoop hP hQ head f.scope
    refine ⟨hP', fun f' hf' => ?_, hmono⟩
    obtain ⟨node, -, rfl⟩ := List.mem_map.mp hf'
    exact hQ'

/-- What each step keeps, the whole walk keeps. -/
lemma walk (h : Keeps P Q) {fs : List Frame} (hP : P l) (hQ : ∀ f ∈ fs, Q l f.group f.kind) :
    P (l.walk fs) ∧ ∀ g k, Q l g k → Q (l.walk fs) g k := by
  fun_induction Layout.walk l fs with
  | case1 l => exact ⟨hP, fun _ _ => id⟩
  | case2 l f rest ih =>
    obtain ⟨hP', hframes, hmono⟩ := h.visit hP (hQ f List.mem_cons_self)
    obtain ⟨hwalk, hmono'⟩ := ih hP' (List.forall_mem_append.mpr ⟨hframes, fun f' hf' =>
      hmono _ _ (hQ f' (List.mem_cons_of_mem _ hf'))⟩)
    exact ⟨hwalk, fun g k hg => hmono' _ _ (hmono _ _ hg)⟩

end Keeps

/-- What each step of a layout keeps of the build alone. -/
structure Steady (P : Build → Prop) : Prop where
  addNode : ∀ (b : Build) (e : Element) group, P b → P (b.addNode (e.sketch group)).2
  openGroup : ∀ b label parent kind metadata, P b → P (b.openGroup label parent kind metadata).2
  modifyGroup : ∀ b id f, (∀ g : Group, (f g).id = g.id ∧ (f g).parent = g.parent) → P b →
    P (b.modifyGroup id f)
  annotate : ∀ b id value, P b → P (b.annotate id "subgraph" value)
  record : ∀ b level origin message, P b → P (b.record level origin message)

namespace Steady

variable {P : Build → Prop}

lemma keeps (h : Steady P) : Keeps (P ·.build) fun _ _ _ => True where
  place := by
    intro l group kind hP _ e scope
    exact ⟨h.modifyGroup _ _ _ (fun _ => ⟨rfl, rfl⟩) (h.addNode _ _ _ hP),
      fun _ _ _ => trivial⟩
  openBranch := by
    intro l group kind hP _ c negated scope
    exact ⟨h.openGroup l.build (conditionLabel c.expression negated) (some group)
      GroupKind.conditional.name [("expression", .str c.expression), ("negated", .bool negated)] hP,
      trivial, fun _ _ _ => trivial⟩
  enterLoop := by
    intro l group kind hP _ head scope
    refine ⟨?_, trivial, fun _ _ _ => trivial⟩
    have hopened := h.openGroup l.build "\x7bloop\x7d" (some group) GroupKind.loop.name
      [("collection", .str head.collection)] hP
    cases kind with
    | loop => exact h.record _ _ _ _ (h.modifyGroup _ _ _ (fun _ => ⟨rfl, rfl⟩) hP)
    | output => exact hopened
    | conditional => exact hopened
    | exported => exact hopened

/-- What holds once the outermost group is open holds at the end. -/
lemma lay (h : Steady P) {b : Build} (output : List RenderNode) (exported : List String)
    (hopened : P (b.openGroup "JSX Output" none GroupKind.output.name []).2) :
    P (lay b output exported).build := by
  simp only [Layout.lay, addExported]
  generalize b.openGroup "JSX Output" none GroupKind.output.name [] = opened at hopened ⊢
  have hwalk : P (walk { build := opened.2 } (frames opened.1 .output false [] output)).build :=
    (h.keeps.walk hopened fun _ _ => trivial).1
  split
  · exact hwalk
  · exact List.foldlRecOn exported _ (h.openGroup _ _ _ _ _ hwalk) fun b' hb' id _ =>
      h.annotate _ _ _ (h.modifyGroup _ _ _ (fun _ => ⟨rfl, rfl⟩) hb')

end Steady

/-- A layout whose groups have the members that they should have, as long as nothing is refused. -/
def Orderly (old : Diagram) (l : Layout) (handlers : List String) : Prop :=
  l.build.Live → Outline old l.build.diagram l.elements l.controls ∧
    Housed l.build.diagram l.elements handlers

/-- A group that is in use while markup is walked over. -/
def InUse (l : Layout) (group : String) (kind : GroupKind) : Prop :=
  l.build.Live → l.build.diagram.HasGroup group kind.name

variable {old : Diagram} {l : Layout}

lemma place_of_live {e : Element} {group : String} {scope : Scope}
    (hlive : (l.place e group scope).build.Live) :
    l.build.Live ∧ (l.build.newNode (e.sketch group)).id ∉ l.build.diagram.ids ∧
      (l.place e group scope).build.diagram = Diagram.enroll { l.build.diagram with
        nodes := l.build.diagram.nodes ++ [l.build.newNode (e.sketch group)] }
          group (l.build.newNode (e.sketch group)).id := by
  have hlive' : (l.build.addNode (e.sketch group)).2.Live :=
    ((grows_addMember _ group _).live.mp hlive).1
  obtain ⟨hb, hid, heq⟩ := addNode_of_live hlive'
  refine ⟨hb, hid, (diagram_modifyGroup_of_live hlive' group _).trans ?_⟩
  exact congrArg (Diagram.enroll · group (l.build.newNode (e.sketch group)).id) heq

lemma Orderly.place {group : String} {kind : GroupKind} (h : Orderly old l [])
    (hgroup : l.InUse group kind) (e : Element) (scope : Scope) :
    Orderly old (l.place e group scope) [] ∧
      ∀ g k, l.InUse g k → (l.place e group scope).InUse g k := by
  refine ⟨fun hlive => ?_, fun g k hg hlive => ?_⟩
  · obtain ⟨hb, hid, heq⟩ := place_of_live hlive
    obtain ⟨houtline, hhoused⟩ := h hb
    rw [heq]
    refine ⟨(houtline.place hid ?_).modifyGroup fun _ => ⟨rfl, rfl, rfl⟩,
      hhoused.place hid houtline.grouped rfl (hgroup hb).mem_groupIds rfl⟩
    exact ⟨rfl, ⟨_, rfl⟩, rfl, rfl, rfl⟩
  · obtain ⟨hb, -, heq⟩ := place_of_live hlive
    rw [heq, Diagram.HasGroup, Diagram.outline_enroll]
    exact hg hb

/-- A new group is in use, and the others stay so. -/
lemma Orderly.openGroup (h : Orderly old l []) (label group : String) (new : GroupKind)
    (metadata : Metadata) :
    let opened := l.build.openGroup label (some group) new.name metadata
    Orderly old { l with build := opened.2 } [] ∧
      InUse { l with build := opened.2 } opened.1 new ∧
      ∀ g k, l.InUse g k → InUse { l with build := opened.2 } g k := by
  intro opened
  have houtline : ∀ hlive : opened.2.Live, opened.2.diagram.outline =
      l.build.diagram.outline ++ [(opened.1, some group, new.name)] := by
    intro hlive
    obtain ⟨-, -, -, heq⟩ := openGroup_of_live hlive
    rw [heq, Diagram.outline_enroll, Diagram.outline, List.map_append]
    rfl
  refine ⟨fun hlive => ?_, fun hlive => ?_, fun g k hg hlive => ?_⟩
  · obtain ⟨hb, hid, hparent, heq⟩ := openGroup_of_live hlive
    obtain ⟨houtline, hhoused⟩ := h hb
    show Outline old opened.2.diagram _ _ ∧ Housed opened.2.diagram _ _
    rw [heq]
    exact ⟨(houtline.addGroup hid (by simp [newGroup])).modifyGroup fun _ => ⟨rfl, rfl, rfl⟩,
      hhoused.addGroup hid houtline.grouped rfl rfl hparent⟩
  · refine ⟨some group, ?_⟩
    show _ ∈ opened.2.diagram.outline
    rw [houtline hlive]
    simp
  · obtain ⟨hb, -⟩ := openGroup_of_live hlive
    obtain ⟨parent, hmem⟩ := hg hb
    refine ⟨parent, ?_⟩
    show _ ∈ opened.2.diagram.outline
    rw [houtline hlive]
    exact List.mem_append_left _ hmem

/-- The control flow of a group in use. -/
lemma Orderly.control {group : String} {kind : GroupKind} (h : Orderly old l [])
    (hgroup : l.InUse group kind) (references : List String) (label : String)
    (hlabel : (label, kind.name) ∈ controlKinds) :
    Orderly old { l with controls := l.controls ++ [⟨group, references, label⟩] } [] := by
  intro hlive
  obtain ⟨houtline, hhoused⟩ := h hlive
  exact ⟨houtline.control hlabel (hgroup hlive), hhoused⟩

lemma exists_joinLoop (b : Build) (head : LoopHead) (group : String) :
    ∃ (f : Group → Group) (message : String),
      (∀ g, (f g).id = g.id ∧ (f g).parent = g.parent ∧ (f g).kind = g.kind) ∧
      (∀ g, (f g).members = g.members) ∧
      joinLoop b head group = (b.modifyGroup group f).record .debug origin message := by
  refine ⟨_, _, ?_, ?_, rfl⟩
  · exact fun _ => ⟨rfl, rfl, rfl⟩
  · exact fun _ => rfl

/-- A loop that joins the one around it changes nothing but a note. -/
lemma Orderly.joinLoop (h : Orderly old l []) (group : String) (head : LoopHead) :
    Orderly old { l with build := Layout.joinLoop l.build head group } [] ∧
      ∀ g k, l.InUse g k → InUse { l with build := Layout.joinLoop l.build head group } g k := by
  obtain ⟨f, message, hf, hmembers, hjoin⟩ := exists_joinLoop l.build head group
  obtain ⟨-, -, hrecorded, -, hrecord⟩ :=
    record_kept (l.build.modifyGroup group f) .debug origin message
  have hgrows := grows_modifyGroup l.build group fun g => ⟨(hf g).1, (hf g).2.1⟩
  have hdiagram : ∀ hb : l.build.Live, ((l.build.modifyGroup group f).record .debug origin
      message).diagram = l.build.diagram.modifyGroup group f := fun hb =>
    hrecorded.trans (diagram_modifyGroup_of_live hb group f)
  rw [hjoin]
  refine ⟨fun hlive => ?_, fun g k hg hlive => ?_⟩
  · have hb := (hgrows.live.mp (hrecord.mp hlive)).1
    obtain ⟨houtline, hhoused⟩ := h hb
    simp only [hdiagram hb]
    exact ⟨houtline.modifyGroup hf, hhoused.modifyGroup hf hmembers⟩
  · have hb := (hgrows.live.mp (hrecord.mp hlive)).1
    simp only [Diagram.HasGroup, hdiagram hb, Diagram.outline_modifyGroup hf]
    exact hg hb

lemma keeps_orderly (old : Diagram) : Keeps (Orderly old · []) InUse where
  place := fun h hgroup e scope => h.place hgroup e scope
  openBranch := by
    intro l group kind h hgroup c negated scope
    obtain ⟨hopen, huse, hmono⟩ := h.openGroup (conditionLabel c.expression negated) group
      .conditional [("expression", .str c.expression), ("negated", .bool negated)]
    exact ⟨hopen.control huse _ _ (by simp [controlKinds]), huse, hmono⟩
  enterLoop := by
    intro l group kind h hgroup head scope
    obtain ⟨hopen, huse, hmono⟩ := h.openGroup "\x7bloop\x7d" group .loop
      [("collection", .str head.collection)]
    have hopened := hopen.control huse (loopVariables head scope) "iterates over"
      (by simp [controlKinds])
    cases kind with
    | loop =>
      obtain ⟨hjoin, hmono⟩ := h.joinLoop group head
      exact ⟨hjoin.control (hmono _ _ hgroup) _ _ (by simp [controlKinds]), hmono _ _ hgroup, hmono⟩
    | output => exact ⟨hopened, huse, hmono⟩
    | conditional => exact ⟨hopened, huse, hmono⟩
    | exported => exact ⟨hopened, huse, hmono⟩

/-! ## The whole layout -/

/-- The outermost group, in a diagram without groups. -/
lemma orderly_root {b : Build} (hgroups : b.diagram.groups = []) (label : String) :
    let opened := b.openGroup label none GroupKind.output.name []
    Orderly b.diagram { build := opened.2 } [] ∧ InUse { build := opened.2 } opened.1 .output := by
  intro opened
  have hopened : opened.2.Live →
      (b.newGroup label none GroupKind.output.name []).id ∉ b.diagram.ids ∧
      opened.2.diagram = { b.diagram with
        nodes := b.diagram.nodes ++
          [Diagram.groupNode (b.newGroup label none GroupKind.output.name [])]
        groups := [b.newGroup label none GroupKind.output.name []] } := by
    intro hlive
    obtain ⟨hstopped, -⟩ | ⟨-, d', hok, heq⟩ :=
      b.openGroup_cases label none GroupKind.output.name []
    · exact absurd hlive hstopped
    · obtain ⟨-, hid, rfl⟩ := Diagram.addGroup_eq_ok_iff.mp hok
      refine ⟨hid, heq.trans ?_⟩
      simp [hgroups]
  refine ⟨fun hlive => ?_, fun hlive => ?_⟩
  · obtain ⟨hid, heq⟩ := hopened hlive
    show Outline b.diagram opened.2.diagram [] [] ∧ Housed opened.2.diagram [] []
    rw [heq]
    generalize hg : b.newGroup label none GroupKind.output.name [] = g at hid
    have hparent : g.parent = none := by rw [← hg, newGroup]
    have hkind : g.kind = GroupKind.output.name := by rw [← hg, newGroup]
    have hmembers : g.members = [] := by rw [← hg, newGroup]
    refine ⟨⟨⟨g.id, [], ?_, by simp⟩, ?_, fun id hmem => ⟨?_, ?_⟩, by simp, fun id hmem => ?_,
      by simp, by simp, by simp⟩, [], ⟨by simp, by simp, ?_, by simp⟩, fun id => ?_⟩
    · simp [Diagram.outline, hparent, hkind]
    · simp [Diagram.groupIds, Diagram.ids, Diagram.groupNode]
    · simpa [Diagram.ids] using .inl (List.mem_map.mp hmem)
    · have hne : id ≠ g.id := fun heq => hid (heq ▸ hmem)
      simpa [Diagram.groupIds] using hne
    · have hcases : id ∈ b.diagram.ids ∨ id = g.id := by
        simpa [Diagram.ids, Diagram.groupNode] using hmem
      exact hcases.imp_right fun heq => .inl (by simp [Diagram.groupIds, heq])
    · simpa using hmembers
    · simp [Diagram.innerIds, Diagram.outline, hparent]
  · obtain ⟨-, heq⟩ := hopened hlive
    show opened.2.diagram.HasGroup opened.1 GroupKind.output.name
    rw [heq]
    exact ⟨none, List.mem_singleton.mpr rfl⟩

lemma addHandlerTo_of_live {b : Build} {group id : String}
    (hlive : (addHandlerTo group b id).Live) :
    b.Live ∧ (addHandlerTo group b id).diagram = (b.diagram.modifyNode id fun n =>
      { n with metadata := n.metadata.set "subgraph" (.str group) }).enroll group id := by
  have hlive' := ((grows_annotate true (b.addMember group id) id (.str group)
    (by simp [noteKeys] : "subgraph" ∈ noteKeys)).live.mp
    hlive).1
  have hb := ((grows_addMember b group id).live.mp hlive').1
  refine ⟨hb, ?_⟩
  rw [addHandlerTo, diagram_annotate_of_live hlive', addMember, diagram_modifyGroup_of_live hb]
  rfl

/-- Nodes that were there before are put into a group, one after the other. -/
lemma Orderly.addHandlers {group : String} {kind : GroupKind} {done handlers : List String}
    (h : Orderly old l done) (hgroup : l.InUse group kind) (hnodup : (done ++ handlers).Nodup)
    (hold : ∀ id ∈ handlers, id ∈ old.ids) :
    Orderly old { l with build := handlers.foldl (addHandlerTo group) l.build }
      (done ++ handlers) := by
  induction handlers generalizing l done with
  | nil => simpa using h
  | cons id rest ih =>
    have hid : id ∈ old.ids := hold id List.mem_cons_self
    have hnew : id ∉ done := fun hmem =>
      (List.nodup_append.mp hnodup).2.2 id hmem id List.mem_cons_self rfl
    have hstep : Orderly old { l with build := addHandlerTo group l.build id } (done ++ [id]) ∧
        InUse { l with build := addHandlerTo group l.build id } group kind := by
      refine ⟨fun hlive => ?_, fun hlive => ?_⟩
      · obtain ⟨hb, heq⟩ := addHandlerTo_of_live hlive
        obtain ⟨houtline, hhoused⟩ := h hb
        show Outline old (addHandlerTo group l.build id).diagram _ _ ∧
          Housed (addHandlerTo group l.build id).diagram _ _
        rw [heq]
        have helement : id ∉ l.elements.map (·.id) := by
          intro hmem
          obtain ⟨p, hp, rfl⟩ := List.mem_map.mp hmem
          exact (houtline.fresh p hp).1 hid
        refine ⟨houtline.congr ?_ ?_ fun p hp => ?_, ?_⟩
        · rw [Diagram.outline_enroll]
          rfl
        · exact Diagram.ids_modifyNode fun _ => rfl
        · -- the nodes of elements are not among those that were there before
          obtain ⟨n, hn, hshows⟩ := houtline.shown p hp
          have hne : n.id ≠ id := fun heq => (houtline.fresh p hp).1 (hshows.1 ▸ heq ▸ hid)
          exact ⟨n, List.mem_map.mpr ⟨n, hn, by simp [hne]⟩, hshows⟩
        · exact hhoused.handler (houtline.kept id hid).1 (houtline.kept id hid).2 helement hnew
            (hgroup hb).mem_groupIds fun n => ⟨rfl, n.metadata.get_set_self _ _⟩
      · obtain ⟨hb, heq⟩ := addHandlerTo_of_live hlive
        show (addHandlerTo group l.build id).diagram.HasGroup group kind.name
        rw [heq, Diagram.HasGroup, Diagram.outline_enroll]
        exact hgroup hb
    have hrest := ih hstep.1 hstep.2 (by simpa using hnodup) fun id' hid' =>
      hold id' (List.mem_cons_of_mem _ hid')
    simpa using hrest

lemma Orderly.addExported {root : String} {exported : List String} (h : Orderly old l [])
    (hnodup : exported.Nodup) (hold : ∀ id ∈ exported, id ∈ old.ids) :
    Orderly old (l.addExported root exported) exported := by
  rw [Layout.addExported]
  split
  · rename_i hempty
    rw [List.isEmpty_iff.mp hempty]
    exact h
  · obtain ⟨hopen, huse, -⟩ := h.openGroup "exported handlers" root .exported []
    exact hopen.addHandlers huse (by simpa using hnodup) hold

/-- The walk over markup keeps the members of groups in step with what is recorded. -/
lemma orderly_walk {b : Build} (hgroups : b.diagram.groups = []) (output : List RenderNode) :
    let opened := b.openGroup "JSX Output" none GroupKind.output.name []
    Orderly b.diagram (walk { build := opened.2 } (frames opened.1 .output false [] output))
      [] := by
  intro opened
  obtain ⟨hroot, huse⟩ := orderly_root hgroups "JSX Output"
  have hframes : ∀ f ∈ frames opened.1 .output false [] output,
      InUse { build := opened.2 } f.group f.kind := by
    intro f hf
    obtain ⟨node, -, rfl⟩ := List.mem_map.mp hf
    exact huse
  exact ((keeps_orderly b.diagram).walk hroot hframes).1

/-- **The layout of markup** keeps the members of groups in step with what is recorded. -/
lemma orderly_lay {b : Build} (hgroups : b.diagram.groups = []) (output : List RenderNode)
    {exported : List String} (hnodup : exported.Nodup)
    (hold : ∀ id ∈ exported, id ∈ b.diagram.ids) :
    Orderly b.diagram (lay b output exported) exported :=
  (orderly_walk hgroups output).addExported hnodup hold

end Layout

namespace Layout

open Build

/-- What the layout of markup over a diagram without groups comes to. -/
structure Complete (b : Build) (l : Layout) (exported : List String) : Prop where
  arranged : l.build.diagram.Arranged (l.elements.map (·.id) ++ exported)
  /-- Every node that is added stands for a group or for an element. -/
  added : ∀ id ∈ l.build.diagram.ids,
    id ∈ b.diagram.ids ∨ id ∈ l.build.diagram.groupIds ∨ id ∈ l.elements.map (·.id)
  once : (l.elements.map (·.id)).Nodup
  shown : ∀ p ∈ l.elements, ∃ n ∈ l.build.diagram.nodes, n.Shows p
  controlled : ∀ c ∈ l.controls, ∃ kind, (c.label, kind) ∈ controlKinds ∧
    l.build.diagram.HasGroup c.group kind

lemma complete_ofOutput {b : Build} (hb : b.diagram.Coherent) (hgroups : b.diagram.groups = [])
    (output : List RenderNode) {exported : List String} (hnodup : exported.Nodup)
    (hold : ∀ id ∈ exported, id ∈ b.diagram.ids)
    (hlive : (ofOutput b output exported).build.Live) :
    Complete b (ofOutput b output exported) exported := by
  have hinv := inv_lay hb output exported
  have horderly := orderly_lay hgroups output hnodup hold
  have hedits := hinv.laying.grows.edits
  have hcoherent := hedits.coherent hb
  have hnested : Diagram.Nested (lay b output exported).build.diagram.groups :=
    hedits.nested (hgroups ▸ Diagram.nested_nil)
  have hpruned := pruned_foldl hcoherent.groupIds_nodup hnested [] _ rfl
  obtain ⟨houtline, hhoused⟩ := horderly (hpruned.live.mp hlive).1
  have hdiagram : (ofOutput b output exported).build.diagram =
      (lay b output exported).build.diagram.without
        (hollow (lay b output exported).build.diagram.groups) := hpruned.diagram hlive
  refine ⟨?arranged, fun id hid => ?added, houtline.once, fun p hp => ?shown,
    fun c hc => ?controlled⟩
  case arranged =>
    rw [hdiagram]
    exact arranged_without hcoherent hnested houtline hhoused hold
  case added =>
    rw [hdiagram] at hid ⊢
    obtain ⟨hid, hkept⟩ := Diagram.mem_ids_without.mp hid
    obtain hid | hid | ⟨p, hp, rfl⟩ := houtline.added id hid
    · exact .inl hid
    · exact .inr (.inl (Diagram.mem_groupIds_without.mpr ⟨hid, hkept⟩))
    · exact .inr (.inr (List.mem_map_of_mem hp))
  case shown =>
    obtain ⟨n, hn, hshows⟩ := houtline.shown p hp
    refine ⟨n, ?_, hshows⟩
    rw [hdiagram]
    refine List.mem_filter.mpr ⟨hn, ?_⟩
    have hkept : n.id ∉ hollowIds (lay b output exported).build.diagram.groups := fun hid =>
      (houtline.fresh p hp).2 (hshows.1 ▸ hollowIds_subset _ hid)
    simpa [hollowIds] using hkept
  case controlled =>
    obtain ⟨hc, hkept⟩ := List.mem_filter.mp hc
    obtain ⟨kind, hlabel, parent, hgroup⟩ := houtline.controlled c hc
    refine ⟨kind, hlabel, parent, ?_⟩
    rw [hdiagram, Diagram.outline_without]
    refine List.mem_filter.mpr ⟨hgroup, ?_⟩
    rwa [hpruned.removed hlive] at hkept

end Layout

namespace Assembly

open Build

/-! ## The layout of a session -/

/-- The exported handlers of the component as they are placed. -/
def exportedRoutines (s : Session) : List PlacedRoutine :=
  (placed s).2.2.filter (·.exported)

/-- The layout of a session to which no groups were contributed. -/
lemma complete_layout {s : Session} (hs : s.diagram.Coherent) (hgroups : s.diagram.groups = [])
    (hlive : (layout s).build.Live) :
    Layout.Complete (routed s) (layout s) ((exportedRoutines s).map (·.id)) := by
  have hnested : Diagram.Nested s.diagram.groups := hgroups ▸ Diagram.nested_nil
  have hrouted := ((settled_layout hs hnested).live.mp hlive).1
  refine Layout.complete_ofOutput ((grows_before s).edits.coherent hs) ?_ _
    (exported_addNodes { session := s } s.component).1 (fun id hid => ?_) hlive
  · rw [groups_routed, hgroups]
  · obtain ⟨p, hp, rfl⟩ := List.mem_map.mp hid
    exact knows_routed s hrouted _ (.inr ((grows_addNodes { session := s } s.component).2.2 p
      (List.mem_filter.mp hp).1 p.id List.mem_cons_self))

/-- **One tree.** Over a diagram without groups, the layout of any markup and any exported handlers
goes through if the ids that it draws are free. Then its groups form a tree in which every other
group, every element and every exported handler has exactly one place, the one that is recorded, and
no group inside another one is empty. -/
theorem layout_arranged {s : Session} (hs : s.diagram.Coherent) (hgroups : s.diagram.groups = []) :
    ((layout s).build.Live ↔ (routed s).Live ∧ (routed s).Free (layout s).build) ∧
    (exportedRoutines s).map (·.routine) = s.component.exportedHandlers ∧
    ((layout s).build.Live →
      (layout s).build.diagram.Arranged
        ((layout s).elements.map (·.id) ++ (exportedRoutines s).map (·.id)) ∧
      ∀ id ∈ (layout s).build.diagram.ids, id ∈ (routed s).diagram.ids ∨
        id ∈ (layout s).build.diagram.groupIds ∨ id ∈ (layout s).elements.map (·.id)) := by
  have hnested : Diagram.Nested s.diagram.groups := hgroups ▸ Diagram.nested_nil
  refine ⟨?_, (exported_addNodes { session := s } s.component).2, fun hlive => ?_⟩
  · rw [(settled_layout hs hnested).live, groups_routed, hgroups]
    simp [hollow]
  · have hcomplete := complete_layout hs hgroups hlive
    exact ⟨hcomplete.arranged, hcomplete.added⟩

/-- A component that shows a button in a conditional, an empty loop, and a list of items in nested
loops, and that exports two handlers of one name. -/
def gallery : Component :=
  { name := "Gallery"
    exportedHandlers := [{ name := "reset" }, { name := "reset" }]
    output :=
      [.conditional { expression := "open" } [.element { tag := "button" } []] [],
       .loop { collection := "pages" } [],
       .loop { collection := "rows" }
         [.loop { collection := "cells" } [.element { tag := "td", display := ["cell"] } []]]] }

theorem layout_arranged_gallery :
    (layout (Session.start gallery [])).build.Live ∧
      (layout (Session.start gallery [])).build.diagram.Arranged
        ((layout (Session.start gallery [])).elements.map (·.id) ++
          (exportedRoutines (Session.start gallery [])).map (·.id)) := by
  have hsound : (Session.start gallery []).Sound := Session.sound_start gallery [] []
  obtain ⟨-, -, hlive, -⟩ := live_stages_of_sound hsound
  obtain ⟨-, -, harranged⟩ := layout_arranged hsound.coherent hsound.groupless
  exact ⟨hlive, (harranged hlive).1⟩

end Assembly

end ComponentFlow
