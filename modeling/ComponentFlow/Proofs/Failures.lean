import ComponentFlow.Component.Document
import ComponentFlow.Proofs.JsonValues
import Mathlib.Tactic.Lemma

/-!
# Failures of reading

How reading a component description can fail. Readers of parts fail with a fault that names neither
component nor file (`Plain`), whatever they are given. There is one exception, the binding of a
hook, which may be of a kind that cannot be looked up (`failsOnly_readBinding`). The whole
description adds name and file to every fault from below, so a fault of a description that names its
component always carries both (`ofValue_failures`).

A reader built of others fails only as they do (`FailsOnly.bind`, `FailsOnly.mapM`), so one line per
reader is enough.
-/

namespace ComponentFlow

/-- Whether a value cannot be looked up in a table. -/
def Value.isUnhashable : Value → Bool
  | .list _ => true
  | .map _ => true
  | .set _ => true
  | _ => false

namespace Reader

/-! ## Ways to fail -/

/-- Whether a result, if it is a failure, is one of the given kind. -/
def FailsOnly {α : Type} (P : ReadFailure → Prop) (r : Result α) : Prop :=
  ∀ e, r = .error e → P e

/-- A fault that names neither component nor file. -/
def Plain (e : ReadFailure) : Prop :=
  ∃ cause, e = .of cause

section

variable {α β : Type} {P Q : ReadFailure → Prop}

lemma failsOnly_ok (a : α) : FailsOnly P (.ok a) :=
  nofun

lemma failsOnly_pure (a : α) : FailsOnly P (pure a : Result α) :=
  nofun

lemma failsOnly_error {e : ReadFailure} (h : P e) : FailsOnly P (.error e : Result α) := by
  rintro _ ⟨⟩
  exact h

lemma plain_fail (cause : Fault) : FailsOnly Plain (fail cause : Result α) :=
  failsOnly_error ⟨cause, rfl⟩

lemma FailsOnly.mono {r : Result α} (h : FailsOnly P r) (hPQ : ∀ e, P e → Q e) : FailsOnly Q r :=
  fun e he => hPQ e (h e he)

lemma FailsOnly.bind {r : Result α} {f : α → Result β} (hr : FailsOnly P r)
    (hf : ∀ a, r = .ok a → FailsOnly P (f a)) : FailsOnly P (r >>= f) := by
  cases r with
  | error e => exact failsOnly_error (hr e rfl)
  | ok a => exact hf a rfl

lemma FailsOnly.map {r : Result α} (hr : FailsOnly P r) (f : α → β) : FailsOnly P (r.map f) := by
  cases r with
  | error e => exact failsOnly_error (hr e rfl)
  | ok a => exact failsOnly_ok _

lemma FailsOnly.mapM {f : α → Result β} {xs : List α} (h : ∀ x ∈ xs, FailsOnly P (f x)) :
    FailsOnly P (xs.mapM f) := by
  induction xs with
  | nil => exact failsOnly_pure _
  | cons x rest ih =>
    rw [List.mapM_cons]
    refine (h x List.mem_cons_self).bind fun _ _ => ?_
    exact (ih fun y hy => h y (List.mem_cons_of_mem _ hy)).bind fun _ _ => failsOnly_pure _

end

/-! ## Fields -/

lemma plain_listField (data : Entries) (key : String) : FailsOnly Plain (listField data key) := by
  unfold listField
  split
  · exact failsOnly_ok _
  · exact failsOnly_ok _
  · exact plain_fail _

lemma plain_mapping (item : Value) (what : String) : FailsOnly Plain (mapping item what) := by
  unfold mapping
  split
  · exact failsOnly_ok _
  · exact plain_fail _

lemma plain_nameField (data : Entries) (what key : String) :
    FailsOnly Plain (nameField data what key) := by
  unfold nameField
  split
  · split
    · exact plain_fail _
    · exact failsOnly_ok _
  · exact plain_fail _

lemma plain_namesField (data : Entries) (key : String) :
    FailsOnly Plain (namesField data key) := by
  unfold namesField
  split
  · exact failsOnly_ok _
  · exact failsOnly_ok _
  · split
    · exact failsOnly_ok _
    · exact plain_fail _
  · exact plain_fail _

/-! ## Parts of a component -/

lemma plain_readProp (item : Value) : FailsOnly Plain (readProp item) := by
  unfold readProp
  split
  · exact failsOnly_ok _
  · refine (plain_mapping _ _).bind fun data _ => ?_
    exact (plain_nameField _ _ _).bind fun name _ => failsOnly_pure _

lemma plain_readArgument (raw : Value) : FailsOnly Plain (readArgument raw) := by
  unfold readArgument
  split
  · unfold readArgumentMapping
    split
    · split
      · exact failsOnly_ok _
      · exact plain_fail _
    · split
      · exact failsOnly_ok _
      · exact plain_fail _
  all_goals exact failsOnly_ok _

lemma plain_readAliases (data : Entries) (hook : String) :
    FailsOnly Plain (readAliases data hook) := by
  simp only [readAliases]
  split
  · split
    · exact failsOnly_ok _
    · exact plain_fail _
  · exact failsOnly_ok _

lemma plain_rawArguments (data : Entries) (hook : String) :
    FailsOnly Plain (rawArguments data hook) := by
  simp only [rawArguments]
  split
  · split
    · exact failsOnly_ok _
    · exact plain_fail _
  · exact failsOnly_ok _

lemma plain_routineName (data : Entries) (cleanup : Bool) :
    FailsOnly Plain (routineName data cleanup) := by
  simp only [routineName]
  split
  · exact failsOnly_ok _
  · split
    · split
      · exact plain_fail _
      · exact failsOnly_ok _
    · exact plain_fail _

/-- Processes that clean up nest, and each of them fails like the one around it. -/
lemma plain_readRoutine (cleanup : Bool) (required : Option String) (item : Value) :
    FailsOnly Plain (readRoutine cleanup required item) := by
  unfold readRoutine
  split
  · rename_i data
    refine (plain_routineName _ _).bind fun _ _ => ?_
    refine (plain_namesField _ _).bind fun _ _ => ?_
    refine (plain_namesField _ _).bind fun _ _ => ?_
    refine (plain_namesField _ _).bind fun _ _ => ?_
    refine (plain_namesField _ _).bind fun _ _ => ?_
    refine (plain_namesField _ _).bind fun _ _ => ?_
    split
    · exact failsOnly_pure _
    · exact failsOnly_pure _
    · rename_i raw _ hraw
      have hsmaller : sizeOf raw < sizeOf (Value.map data) := by
        have := sizeOf_lookup_lt hraw
        simp only [Value.map.sizeOf_spec]
        omega
      exact ((plain_readRoutine true none raw).map some).bind fun _ _ => failsOnly_pure _
  · exact plain_fail _
termination_by item

lemma plain_readAtom (item : Value) : FailsOnly Plain (readAtom item) := by
  unfold readAtom
  split
  · exact failsOnly_ok _
  · refine (plain_mapping _ _).bind fun _ _ => ?_
    refine (plain_nameField _ _ _).bind fun _ _ => ?_
    exact (plain_namesField _ _).bind fun _ _ => failsOnly_pure _

lemma plain_readTypes (raw : Value) : FailsOnly Plain (readTypes raw) := by
  unfold readTypes
  split
  · exact failsOnly_ok _
  · exact failsOnly_ok _
  · exact plain_fail _

/-! ## Markup -/

lemma plain_readCode (data : Entries) (name : String) (form : CodeForm) (raw : Value) :
    FailsOnly Plain (readCode data name form raw) := by
  have hbody : ∀ body, FailsOnly Plain (do
      let calls ← namesField body "calls"
      let references ← namesField body "references"
      let assigns ← namesField body "assigns"
      return ({ name, content := .code form calls references assigns,
                source := (Value.field "source" data).scalarText? } : Attribute)) := by
    intro body
    refine (plain_namesField _ _).bind fun _ _ => ?_
    refine (plain_namesField _ _).bind fun _ _ => ?_
    exact (plain_namesField _ _).bind fun _ _ => failsOnly_pure _
  unfold readCode
  split
  · split
    · exact hbody _
    · exact plain_fail _
  · exact hbody []

lemma plain_readAttribute (item : Value) : FailsOnly Plain (readAttribute item) := by
  unfold readAttribute
  refine (plain_mapping _ _).bind fun _ _ => ?_
  refine (plain_nameField _ _ _).bind fun _ _ => ?_
  split
  · exact failsOnly_pure _
  · split
    · exact plain_readCode _ _ _ _
    · split
      · exact plain_readCode _ _ _ _
      · exact plain_fail _

lemma plain_readDisplayCall (item : Value) : FailsOnly Plain (readDisplayCall item) := by
  unfold readDisplayCall
  refine (plain_mapping _ _).bind fun _ _ => ?_
  refine (plain_nameField _ _ _).bind fun _ _ => ?_
  exact (plain_namesField _ _).bind fun _ _ => failsOnly_pure _

lemma plain_readShell (item : Value) : FailsOnly Plain (readShell item) := by
  unfold readShell
  refine (plain_mapping _ _).bind fun data _ => ?_
  split
  · refine (plain_namesField _ _).bind fun _ _ => ?_
    refine (plain_listField _ _).bind fun _ _ => ?_
    refine (FailsOnly.mapM fun _ _ => plain_readDisplayCall _).bind fun _ _ => ?_
    refine (plain_listField _ _).bind fun _ _ => ?_
    refine (FailsOnly.mapM fun _ _ => plain_readAttribute _).bind fun _ _ => ?_
    exact (plain_listField _ _).bind fun _ _ => failsOnly_pure _
  · refine (plain_namesField _ _).bind fun _ _ => ?_
    refine (plain_listField _ _).bind fun _ _ => ?_
    exact (plain_listField _ _).bind fun _ _ => failsOnly_pure _
  · refine (plain_namesField _ _).bind fun _ _ => ?_
    exact (plain_listField _ _).bind fun _ _ => failsOnly_pure _
  · exact plain_fail _

lemma plain_readLists (fuel : Nat) (pending : List (List Value)) :
    FailsOnly Plain (readLists fuel pending) := by
  fun_induction readLists fuel pending with
  | case1 | case2 => exact failsOnly_ok _
  | case3 fuel items pending ih =>
    refine (FailsOnly.mapM fun _ _ => plain_readShell _).bind fun read _ => ?_
    exact (ih _).bind fun _ _ => failsOnly_pure _

lemma plain_readOutput (items : List Value) : FailsOnly Plain (readOutput items) :=
  (plain_readLists _ _).map _

/-! ## Hooks -/

/-- A failure for a hook whose binding cannot be looked up. -/
def OddBinding (item : Value) (e : ReadFailure) : Prop :=
  ∃ data, item = .map data ∧ (Value.field "binding" data).isUnhashable = true ∧
    e = .unhashable (Value.field "binding" data).kindName

lemma failsOnly_readBinding (data : Entries) (hook : String) (bound : List String) :
    FailsOnly (fun e => Plain e ∨ OddBinding (.map data) e) (readBinding data hook bound) := by
  unfold readBinding
  split
  · split
    · exact failsOnly_ok _
    · split
      · exact failsOnly_ok _
      · split
        · exact failsOnly_ok _
        · exact failsOnly_ok _
  · rename_i h
    exact failsOnly_error (.inr ⟨data, rfl, by rw [h]; rfl, by rw [h]; rfl⟩)
  · rename_i h
    exact failsOnly_error (.inr ⟨data, rfl, by rw [h]; rfl, by rw [h]; rfl⟩)
  · rename_i h
    exact failsOnly_error (.inr ⟨data, rfl, by rw [h]; rfl, by rw [h]; rfl⟩)
  · split
    · exact failsOnly_ok _
    · exact (plain_fail _).mono fun _ => .inl

lemma failsOnly_readHook (item : Value) :
    FailsOnly (fun e => Plain e ∨ OddBinding item e) (readHook item) := by
  have hplain : ∀ {α : Type} {r : Result α}, FailsOnly Plain r →
      FailsOnly (fun e => Plain e ∨ OddBinding item e) r := fun h => h.mono fun _ => .inl
  unfold readHook
  refine (hplain (plain_mapping _ _)).bind fun data hdata => ?_
  refine (hplain (plain_nameField _ _ _)).bind fun name _ => ?_
  refine (hplain (plain_namesField _ _)).bind fun bound _ => ?_
  have hitem : item = .map data := by
    unfold mapping at hdata
    split at hdata
    · rw [Except.ok.inj hdata]
    · cases hdata
  refine FailsOnly.bind (hitem ▸ failsOnly_readBinding data name bound) fun _ _ => ?_
  refine (hplain (plain_readAliases _ _)).bind fun _ _ => ?_
  refine (hplain (plain_rawArguments _ _)).bind fun _ _ => ?_
  refine (hplain (FailsOnly.mapM fun _ _ => plain_readArgument _)).bind fun _ _ => ?_
  exact (hplain (plain_namesField _ _)).bind fun _ _ => failsOnly_pure _

end Reader

open Reader

/-! ## Whole descriptions -/

/-- A failure for a description with a hook whose binding cannot be looked up. -/
def OddHook (data : Entries) (e : ReadFailure) : Prop :=
  ∃ items, listField data "hooks" = .ok items ∧ ∃ item ∈ items, OddBinding item e

lemma failsOnly_readParts (data : Entries) (name : String) (file framework : Option String) :
    FailsOnly (fun e => Plain e ∨ OddHook data e) (readParts data name file framework) := by
  have hplain : ∀ {α : Type} {r : Result α}, FailsOnly Plain r →
      FailsOnly (fun e => Plain e ∨ OddHook data e) r := fun h => h.mono fun _ => .inl
  unfold readParts
  refine (hplain (plain_listField _ _)).bind fun _ _ => ?_
  refine (hplain (FailsOnly.mapM fun _ _ => plain_readProp _)).bind fun _ _ => ?_
  refine (hplain (plain_listField _ _)).bind fun hooks hhooks => ?_
  have hread : ∀ item ∈ hooks, FailsOnly (fun e => Plain e ∨ OddHook data e) (readHook item) :=
    fun item hitem => (failsOnly_readHook item).mono fun e he =>
      he.imp_right fun hodd => ⟨hooks, hhooks, item, hitem, hodd⟩
  refine (FailsOnly.mapM hread).bind fun _ _ => ?_
  refine (hplain (plain_listField _ _)).bind fun _ _ => ?_
  refine (hplain (FailsOnly.mapM fun _ _ => plain_readRoutine _ _ _)).bind fun _ _ => ?_
  refine (hplain (plain_listField _ _)).bind fun _ _ => ?_
  refine (hplain (FailsOnly.mapM fun _ _ => plain_readAtom _)).bind fun _ _ => ?_
  refine (hplain (plain_listField _ _)).bind fun _ _ => ?_
  refine (hplain (plain_readOutput _)).bind fun _ _ => ?_
  refine (hplain (plain_readTypes _)).bind fun _ _ => ?_
  refine (hplain (plain_listField _ _)).bind fun _ _ => ?_
  refine (hplain (FailsOnly.mapM fun _ _ => plain_readRoutine _ _ _)).bind fun _ _ => ?_
  exact failsOnly_pure _

lemma failsOnly_within {α : Type} {P Q : ReadFailure → Prop} {r : Result α} {name : String}
    {file : Option String} (hr : FailsOnly P r) (h : ∀ e, P e → Q (e.within name file)) :
    FailsOnly Q (Reader.Result.within name file r) := by
  cases r with
  | ok a => exact failsOnly_ok a
  | error e => exact failsOnly_error (h e (hr e rfl))

/-- A fault that names its component and file. -/
def NamedFault (name : String) (file : Option String) (e : ReadFailure) : Prop :=
  ∃ cause, e = .fault cause (some name) file

/-- A description that names its component fails with a fault that carries name and file, or for a
hook whose binding cannot be looked up. -/
lemma failsOnly_ofValue_of_named {data : Entries} {name : String}
    (hname : Value.field "component" data = .str name) (hblank : Text.trimmed name ≠ "") :
    FailsOnly
      (fun e => NamedFault name (Value.field "file" data).scalarText? e ∨ OddHook data e)
      (Component.ofValue (.map data)) := by
  have hblank : (Text.trimmed name == "") = false := beq_eq_false_iff_ne.mpr hblank
  simp only [Component.ofValue, hname, hblank]
  split
  · exact failsOnly_error (.inl ⟨_, rfl⟩)
  · refine FailsOnly.bind ?_ fun framework _ => ?_
    · unfold readFramework
      split
      · exact failsOnly_ok _
      · dsimp only
        split
        · exact failsOnly_ok _
        · exact failsOnly_error (.inl ⟨_, rfl⟩)
    · refine failsOnly_within (failsOnly_readParts _ _ _ _) fun e he => ?_
      obtain ⟨cause, rfl⟩ | ⟨items, hitems, item, hitem, entries, rfl, hodd, rfl⟩ := he
      · exact .inl ⟨cause, rfl⟩
      · exact .inr ⟨items, hitems, _, hitem, entries, rfl, hodd, rfl⟩

/-- A description that does not name its component is at fault, whatever else is in it. -/
lemma exists_fault_of_unnamed {v : Value}
    (h : ∀ data name, v = .map data → Value.field "component" data = .str name →
      Text.trimmed name = "") :
    ∃ cause component file, Component.ofValue v = .error (.fault cause component file) := by
  cases v with
  | map data =>
    simp only [Component.ofValue]
    split
    · exact ⟨_, _, _, rfl⟩
    · split
      · rename_i name hname
        rw [if_pos (beq_iff_eq.mpr (h data name rfl hname))]
        exact ⟨_, _, _, rfl⟩
      · exact ⟨_, _, _, rfl⟩
  | _ => exact ⟨_, _, _, rfl⟩

/-- Whether a description has a hook whose binding is a list or a mapping, of the given kind. -/
def Value.HasOddBinding (v : Value) (kind : String) : Prop :=
  ∃ data items entries, v = .map data ∧ Value.field "hooks" data = .list items ∧
    .map entries ∈ items ∧ kind = (Value.field "binding" entries).kindName ∧
    ((∃ xs, Value.field "binding" entries = .list xs) ∨
      ∃ m, Value.field "binding" entries = .map m)

lemma hasOddBinding_of_oddHook {data : Entries} (hjson : (Value.map data).isJson = true)
    {e : ReadFailure} (h : OddHook data e) :
    ∃ kind, e = .unhashable kind ∧ (Value.map data).HasOddBinding kind := by
  obtain ⟨items, hitems, item, hitem, entries, rfl, hodd, rfl⟩ := h
  have hlist : Value.field "hooks" data = .list items := by
    unfold listField at hitems
    split at hitems
    · rw [← Except.ok.inj hitems] at hitem
      cases hitem
    · rename_i hfield
      rw [hfield, Except.ok.inj hitems]
    · cases hitems
  refine ⟨_, rfl, data, items, entries, rfl, hlist, hitem, rfl, ?_⟩
  have hentries : (Value.map entries).isJson = true := by
    have hhooks : (Value.field "hooks" data).isJson = true := Value.isJson_field hjson "hooks"
    rw [hlist] at hhooks
    exact Value.isJson_of_mem hhooks hitem
  have hbinding : (Value.field "binding" entries).isJson = true :=
    Value.isJson_field hentries "binding"
  cases hvalue : Value.field "binding" entries <;> rw [hvalue] at hodd hbinding
  case list xs => exact .inl ⟨xs, rfl⟩
  case map m => exact .inr ⟨m, rfl⟩
  case set => cases hbinding
  all_goals cases hodd

/-- **Failures.** Whatever a JSON text holds, reading it as a description gives a component, ends
with a fault, or ends at a hook whose binding is a list or a mapping. Once the description names its
component, every fault carries that name and the file, which is missing if it is neither a text nor
a number. -/
theorem ofValue_failures (v : Value) (hv : v.isJson = true) :
    ((∃ c, Component.ofValue v = .ok c) ∨
      (∃ cause component file, Component.ofValue v = .error (.fault cause component file)) ∨
      ∃ kind, Component.ofValue v = .error (.unhashable kind) ∧ v.HasOddBinding kind) ∧
    ∀ data name, v = .map data → Value.field "component" data = .str name →
      Text.trimmed name ≠ "" → ∀ cause component file,
        Component.ofValue v = .error (.fault cause component file) →
          component = some name ∧ file = (Value.field "file" data).scalarText? := by
  refine ⟨?_, ?_⟩
  · by_cases hnamed : ∃ data name, v = .map data ∧ Value.field "component" data = .str name ∧
        Text.trimmed name ≠ ""
    · obtain ⟨data, name, rfl, hname, hblank⟩ := hnamed
      cases hread : Component.ofValue (.map data) with
      | ok c => exact .inl ⟨c, rfl⟩
      | error e =>
        obtain ⟨cause, rfl⟩ | hodd := failsOnly_ofValue_of_named hname hblank e hread
        · exact .inr (.inl ⟨_, _, _, rfl⟩)
        · obtain ⟨kind, rfl, hbinding⟩ := hasOddBinding_of_oddHook hv hodd
          exact .inr (.inr ⟨kind, rfl, hbinding⟩)
    · refine .inr (.inl (exists_fault_of_unnamed fun data name hdata hname => ?_))
      exact Classical.byContradiction fun hblank => hnamed ⟨data, name, hdata, hname, hblank⟩
  · rintro data name rfl hname hblank cause component file hfault
    obtain ⟨_, heq⟩ | ⟨_, -, _, -, _, -, -, heq⟩ :=
      failsOnly_ofValue_of_named hname hblank _ hfault
    · obtain ⟨-, rfl, rfl⟩ := ReadFailure.fault.inj heq
      exact ⟨rfl, rfl⟩
    · cases heq

/-- A description with a number as its file and with a single hook. -/
def panel (hook : Value) : Value :=
  .map [(.str "component", .str "Panel"), (.str "file", .int 7), (.str "hooks", .list [hook])]

/-- A hook that is no mapping is a fault that carries name and file. A list as the binding of a hook
ends reading in the other way. -/
theorem ofValue_failures_panel :
    (∃ cause component file,
      Component.ofValue (panel (.int 3)) = .error (.fault cause component file) ∧
        component = some "Panel" ∧ file = some "7") ∧
      (panel (.map [(.str "name", .str "useMenu"), (.str "binding", .list [])])).HasOddBinding
        "list" := by
  obtain ⟨-, hnamed⟩ := ofValue_failures (panel (.int 3)) rfl
  obtain ⟨⟨c, hc⟩ | ⟨cause, component, file, hfault⟩ | ⟨kind, hkind, hodd⟩, -⟩ := ofValue_failures
    (panel (.map [(.str "name", .str "useMenu"), (.str "binding", .list [])])) rfl
  · cases hc
  · cases hfault
  · obtain rfl : "list" = kind := ReadFailure.unhashable.inj (Except.error.inj hkind)
    exact ⟨⟨_, _, _, rfl, hnamed _ "Panel" rfl rfl (by decide) _ _ _ rfl⟩, hodd⟩

end ComponentFlow
