import ComponentFlow.Hook.Invocation
import Mathlib.Data.List.Nodup
import Mathlib.Tactic.Lemma

/-!
# Roles of variables

Which role a variable of a hook call gets (`classifyBy_decided`). A builtin gives some roles itself,
without a look at the variables: to the only name that its result is bound to, or by position to an
array of names (`Hook.Gives`). All other variables are judged by their names and by what an oracle
knows about their types, and only these have a verdict on record. The hooks of libraries get no
roles at all.

A variable may be bound more than once. Positions are gone through in order and each one replaces
the role given before, so the last position with a role counts (`lookup_ofList_eq_some_iff`). A
variable that is judged twice gets the same verdict both times.
-/

namespace ComponentFlow

namespace Assoc

/-- Of several values for a key the last one counts. -/
lemma lookup_insertAll_reverse {κ α : Type} [BEq κ] [LawfulBEq κ] (entries news : List (κ × α))
    (k : κ) :
    (insertAll entries news).lookup k = (news.reverse.lookup k).or (entries.lookup k) := by
  induction news generalizing entries with
  | nil => rfl
  | cons e rest ih =>
    rw [insertAll, List.foldl_cons]
    refine (ih (insert e.1 e.2 entries)).trans ?_
    rw [lookup_insert, List.reverse_cons, List.lookup_append, List.lookup_cons, List.lookup_nil,
      Option.or_assoc]
    by_cases hk : k == e.1 <;> simp [hk]

lemma lookup_ofList_eq_some_iff {κ α : Type} [BEq κ] [LawfulBEq κ] {entries : List (κ × α)} {k : κ}
    {value : α} : (ofList entries).lookup k = some value ↔
      ∃ n : Nat, entries[n]? = some (k, value) ∧ ∀ m, n < m → ∀ v, entries[m]? ≠ some (k, v) := by
  rw [ofList, lookup_insertAll_reverse, List.lookup_nil, Option.or_none, List.lookup_eq_some_iff]
  constructor
  · rintro ⟨later, earlier, heq, hlater⟩
    have hentries : entries = earlier.reverse ++ (k, value) :: later.reverse := by
      rw [← List.reverse_reverse entries, heq]
      simp
    refine ⟨earlier.length, by simp [hentries], fun m hm v hv => ?_⟩
    obtain ⟨j, rfl⟩ : ∃ j, m = earlier.reverse.length + (j + 1) := ⟨m - earlier.length - 1, by
      rw [List.length_reverse]
      omega⟩
    rw [hentries, List.getElem?_append_right (Nat.le_add_right _ _), Nat.add_sub_cancel_left,
      List.getElem?_cons_succ] at hv
    have hne := hlater _ (List.mem_reverse.mp (List.mem_of_getElem? hv))
    simp at hne
  · rintro ⟨n, hn, hlast⟩
    obtain ⟨hlength, hvalue⟩ := List.getElem?_eq_some_iff.mp hn
    refine ⟨(entries.drop (n + 1)).reverse, (entries.take n).reverse, ?_, fun e he => ?_⟩
    · have hsplit : entries = entries.take n ++ (k, value) :: entries.drop (n + 1) := by
        rw [← hvalue, List.getElem_cons_drop, List.take_append_drop]
      conv_lhs => rw [hsplit]
      simp
    · obtain ⟨j, hj, hvalue'⟩ := List.mem_drop_iff_getElem.mp (List.mem_reverse.mp he)
      rw [bne_iff_ne]
      rintro rfl
      have hj' : n + 1 + j < entries.length := by omega
      exact hlast (n + 1 + j) (by omega) e.2 (List.getElem?_eq_some_iff.mpr ⟨hj', hvalue'⟩)

/-- A value that is determined by its key can be put there any number of times. -/
lemma lookup_insertAll_map {κ α : Type} [BEq κ] [LawfulBEq κ] [DecidableEq κ] (f : κ → α)
    (entries : List (κ × α)) (keys : List κ) (k : κ) :
    (insertAll entries (keys.map fun key => (key, f key))).lookup k =
      if k ∈ keys then some (f k) else entries.lookup k := by
  induction keys generalizing entries with
  | nil => rfl
  | cons key rest ih =>
    rw [List.map_cons, insertAll, List.foldl_cons]
    refine (ih (insert key (f key) entries)).trans ?_
    rw [lookup_insert]
    by_cases hk : k = key <;> simp [hk]

end Assoc

/-- Whether the hook belongs to a library, whose processor decides on the roles. -/
def Hook.IsDelegated (h : Hook) : Prop :=
  ∃ b, builtinHook? h.name = some b ∧ b.delegated = true

/-- The roles that a builtin gives itself, whatever its variables are called. Of the positions of a
variable in an array the last one with a role counts. -/
inductive Hook.Gives (h : Hook) : String → Role → Prop
  | readOnly {b : BuiltinHook} {name : String} (hknown : builtinHook? h.name = some b)
      (hread : b.readOnly = true) (hbinding : h.binding = .identifier) (hbound : h.bound = [name]) :
      h.Gives name .data
  | sole {b : BuiltinHook} {name : String} {role : Role} (hknown : builtinHook? h.name = some b)
      (hrole : b.positionalRoles.head? = some role) (hbinding : h.binding = .identifier)
      (hbound : h.bound = [name]) : h.Gives name role
  | position {b : BuiltinHook} {name : String} {role : Role} {n : Nat}
      (hknown : builtinHook? h.name = some b) (hbinding : h.binding = .array)
      (hname : h.bound[n]? = some name) (hrole : b.positionalRoles[n]? = some role)
      (hlast : ∀ m, n < m → h.bound[m]? = some name → b.positionalRoles[m]? = none) :
      h.Gives name role

/-- Whether the role of a variable is left to its name and its type: the builtin gives none. -/
def Hook.Leaves (h : Hook) (name : String) : Prop :=
  name ∈ h.bound ∧ ∀ role, ¬ h.Gives name role

namespace Classifier

variable (c : Classifier) (file : Option String) (h : Hook)

/-- Whether the oracle knows a variable and says that it is a function, or that it is not. -/
def Answers (name : String) (isFunction : Bool) : Prop :=
  ∃ t, (c.resolution file h name).1 = some t ∧ t.isFunction = isFunction

/-- Whether the name of a variable or its type is that of a function. -/
def TakesForFunction (name : String) : Prop :=
  c.naming.isFunctionName name = true ∨ c.Answers file h name true

/-- Whether the verdict on a variable rests on its type: a type that says data yields to a name that
reads like that of a function. -/
def RestsOnType (name : String) : Prop :=
  (∃ isFunction, c.Answers file h name isFunction) ∧
    ¬ (c.Answers file h name false ∧ c.naming.isFunctionName name = true)

/-- The verdict on a variable that is judged. -/
def verdictOn (name : String) : Verdict :=
  c.verdict (c.resolution file h name).1 name

/-- What a verdict on a variable has to say. -/
structure Supports (name : String) (v : Verdict) : Prop where
  function : c.TakesForFunction file h name → v.role = .function
  data : ¬ c.TakesForFunction file h name → v.role = .data
  byType : c.RestsOnType file h name → v.source = oracleSource
  byName : ¬ c.RestsOnType file h name → v.source = heuristicSource

/-! ## One variable -/

lemma verdict_none (name : String) : c.verdict none name = c.naming.verdict name := rfl

/-- The name only counts against a type that says data. -/
lemma verdict_some (t : TypeResolution) (name : String) :
    c.verdict (some t) name = if t.isFunction = false ∧ c.naming.isFunctionName name = true
      then c.naming.verdict name else Verdict.ofType t := by
  unfold Classifier.verdict resolveVerdicts
  cases ht : t.isFunction <;> cases hn : c.naming.isFunctionName name <;>
    simp [Verdict.outweighs, Verdict.ofType, Naming.verdict, ht, hn, Role.data, Role.function]

lemma supports_verdictOn (name : String) : c.Supports file h name (c.verdictOn file h name) := by
  unfold verdictOn
  cases hanswer : (c.resolution file h name).1 with
  | none =>
    have hrests : ¬ c.RestsOnType file h name := by simp [RestsOnType, Answers, hanswer]
    have htakes : c.TakesForFunction file h name ↔ c.naming.isFunctionName name = true := by
      simp [TakesForFunction, Answers, hanswer]
    rw [verdict_none]
    refine ⟨fun hf => if_pos (htakes.mp hf), fun hf => if_neg (mt htakes.mpr hf), fun hr => ?_,
      fun _ => rfl⟩
    exact absurd hr hrests
  | some t =>
    have hrests : c.RestsOnType file h name ↔
        ¬ (t.isFunction = false ∧ c.naming.isFunctionName name = true) := by
      simp [RestsOnType, Answers, hanswer]
    have htakes : c.TakesForFunction file h name ↔
        c.naming.isFunctionName name = true ∨ t.isFunction = true := by
      simp [TakesForFunction, Answers, hanswer]
    rw [verdict_some]
    by_cases houtweighed : t.isFunction = false ∧ c.naming.isFunctionName name = true
    · rw [if_pos houtweighed]
      refine ⟨fun _ => if_pos houtweighed.2, fun hf => ?_, fun hr => ?_, fun _ => rfl⟩
      · exact absurd (htakes.mpr (.inl houtweighed.2)) hf
      · exact absurd houtweighed (hrests.mp hr)
    · rw [if_neg houtweighed]
      refine ⟨fun hf => ?_, fun hf => ?_, fun _ => rfl,
        fun hr => absurd (hrests.mpr houtweighed) hr⟩
      · obtain hname | htype := htakes.mp hf
        · refine if_pos ?_
          by_contra htype
          exact houtweighed ⟨Bool.eq_false_iff.mpr htype, hname⟩
        · exact if_pos htype
      · exact if_neg fun htype => hf (htakes.mpr (.inr htype))

end Classifier

/-- A read-only builtin returns no tuple. -/
lemma positionalRoles_of_readOnly {b : BuiltinHook} (hb : b ∈ builtinHooks)
    (hread : b.readOnly = true) : b.positionalRoles = [] := by
  revert b
  decide

lemma mem_of_builtinHook? {name : String} {b : BuiltinHook} (hb : builtinHook? name = some b) :
    b ∈ builtinHooks :=
  List.mem_of_find?_eq_some hb

/-! ## The roles given by a builtin -/

namespace Hook

/-- The roles of the variables before any of them is judged. -/
def given (h : Hook) : List (String × Role) :=
  match soleRole? (builtinHook? h.name) h with
  | some sole => [sole]
  | none => arrayRoles (builtinHook? h.name) h

variable {h : Hook} {name : String} {role : Role}

lemma lookup_rolesByPosition {b : BuiltinHook} {names : List String} :
    (b.rolesByPosition names).lookup name = some role ↔
      ∃ n : Nat, names[n]? = some name ∧ b.positionalRoles[n]? = some role ∧
        ∀ m, n < m → names[m]? = some name → b.positionalRoles[m]? = none := by
  rw [BuiltinHook.rolesByPosition, Assoc.lookup_ofList_eq_some_iff]
  simp only [List.getElem?_zip_eq_some, ne_eq, not_and, and_assoc]
  refine exists_congr fun n => and_congr_right fun _ => and_congr_right fun _ => forall₂_congr
    fun m _ => ?_
  rw [Option.eq_none_iff_forall_ne_some]
  exact forall_comm

/-- Only a read-only builtin or one that returns a tuple gives a role to a single variable, and none
is both. -/
lemma soleRole?_eq_some_iff {b : BuiltinHook} (hb : b ∈ builtinHooks) :
    b.soleRole? = some role ↔
      b.readOnly = true ∧ role = .data ∨ b.positionalRoles.head? = some role := by
  unfold BuiltinHook.soleRole?
  by_cases hread : b.readOnly = true
  · simp [hread, positionalRoles_of_readOnly hb hread, eq_comm]
  · simp [hread]

lemma given_of_unknown (hknown : builtinHook? h.name = none) : h.given = [] := by
  simp [given, soleRole?, arrayRoles, hknown]

lemma given_of_array {b : BuiltinHook} (hknown : builtinHook? h.name = some b)
    (hbinding : h.binding = .array) : h.given = b.rolesByPosition h.bound := by
  simp [given, soleRole?, arrayRoles, hknown, hbinding]

lemma given_of_identifier {b : BuiltinHook} (hknown : builtinHook? h.name = some b)
    (hbinding : h.binding = .identifier) (hbound : h.bound = [name]) :
    h.given = (b.soleRole?.map (name, ·)).toList := by
  cases hrole : b.soleRole? <;> simp [given, soleRole?, arrayRoles, hknown, hbinding, hbound, hrole]

lemma lookup_given_of_gives (hgives : h.Gives name role) : h.given.lookup name = some role := by
  cases hgives with
  | readOnly hknown hread hbinding hbound =>
    have hsole := (soleRole?_eq_some_iff (mem_of_builtinHook? hknown)).mpr (.inl ⟨hread, rfl⟩)
    simp [given_of_identifier hknown hbinding hbound, hsole]
  | sole hknown hrole hbinding hbound =>
    have hsole := (soleRole?_eq_some_iff (mem_of_builtinHook? hknown)).mpr (.inr hrole)
    simp [given_of_identifier hknown hbinding hbound, hsole]
  | position hknown hbinding hname hrole hlast =>
    rw [given_of_array hknown hbinding, lookup_rolesByPosition]
    exact ⟨_, hname, hrole, hlast⟩

lemma gives_of_lookup_given (hgiven : h.given.lookup name = some role) : h.Gives name role := by
  cases hknown : builtinHook? h.name with
  | none => simp [given_of_unknown hknown] at hgiven
  | some b =>
    cases hbinding : h.binding with
    | array =>
      rw [given_of_array hknown hbinding, lookup_rolesByPosition] at hgiven
      obtain ⟨n, hname, hrole, hlast⟩ := hgiven
      exact .position hknown hbinding hname hrole hlast
    | identifier =>
      rcases hbound : h.bound with _ | ⟨first, _ | ⟨second, rest⟩⟩
      · simp [given, soleRole?, arrayRoles, hknown, hbinding, hbound] at hgiven
      · rw [given_of_identifier hknown hbinding hbound] at hgiven
        cases hsole : b.soleRole? with
        | none => simp [hsole] at hgiven
        | some sole =>
          obtain ⟨rfl, rfl⟩ : name = first ∧ sole = role := by
            by_cases hname : name == first
            · exact ⟨eq_of_beq hname, by simpa [hsole, List.lookup_cons, hname] using hgiven⟩
            · simp [hsole, List.lookup_cons, hname] at hgiven
          obtain ⟨hread, rfl⟩ | hrole :=
            (soleRole?_eq_some_iff (mem_of_builtinHook? hknown)).mp hsole
          · exact .readOnly hknown hread hbinding hbound
          · exact .sole hknown hrole hbinding hbound
      · simp [given, soleRole?, arrayRoles, hknown, hbinding, hbound] at hgiven
    | _ => simp [given, soleRole?, arrayRoles, hknown, hbinding] at hgiven

lemma lookup_given_eq_none_iff : h.given.lookup name = none ↔ ∀ role, ¬ h.Gives name role := by
  rw [Option.eq_none_iff_forall_ne_some]
  exact forall_congr' fun role => not_congr ⟨gives_of_lookup_given, lookup_given_of_gives⟩

lemma mem_keys_given : name ∈ h.given.map Prod.fst ↔ ∃ role, h.Gives name role := by
  rw [← not_iff_not, not_exists, ← lookup_given_eq_none_iff, List.lookup_eq_none_iff]
  simp only [List.mem_map, not_exists, not_and, bne_iff_ne]
  exact forall₂_congr fun e _ => ne_comm

/-- Builtins give roles to variables of the call only. -/
lemma Gives.mem_bound (hgives : h.Gives name role) : name ∈ h.bound := by
  cases hgives with
  | readOnly _ _ _ hbound => simp [hbound]
  | sole _ _ _ hbound => simp [hbound]
  | position _ _ hname _ _ => exact List.mem_of_getElem? hname

lemma nodup_given (h : Hook) : (h.given.map Prod.fst).Nodup := by
  unfold given
  split
  · simp
  · unfold arrayRoles
    split
    · exact Assoc.nodup_keys_insertAll _ List.nodup_nil
    · simp

end Hook

/-! ## The variables of a call -/

/-- The variables of a call that are judged, in order. -/
def Hook.judged (h : Hook) : List String :=
  h.bound.filter fun name => (h.given.lookup name).isNone

lemma Hook.mem_judged_iff {h : Hook} {name : String} : name ∈ h.judged ↔ h.Leaves name := by
  rw [judged, List.mem_filter, Option.isNone_iff_eq_none, lookup_given_eq_none_iff, Leaves]

namespace Classifier

variable (c : Classifier) (file : Option String) (h : Hook)

lemma foldl_judge (names : List String) (j : Judgement) :
    (names.foldl (c.judge file h) j).roles =
        Assoc.insertAll j.roles (names.map fun name => (name, (c.verdictOn file h name).role)) ∧
      (names.foldl (c.judge file h) j).verdicts =
        Assoc.insertAll j.verdicts (names.map fun name => (name, c.verdictOn file h name)) := by
  induction names generalizing j with
  | nil => exact ⟨rfl, rfl⟩
  | cons name rest ih => exact ih (c.judge file h j name)

/-- A call whose only variable has a given role leaves nothing to judge. -/
lemma assignRoles_eq : c.assignRoles file (builtinHook? h.name) h =
    h.judged.foldl (c.judge file h) { roles := h.given } := by
  cases hsole : soleRole? (builtinHook? h.name) h with
  | none => simp only [assignRoles, Hook.judged, Hook.given, hsole]
  | some sole =>
    have hbound : h.bound = [sole.1] := by
      unfold soleRole? at hsole
      split at hsole
      · rename_i hbound
        obtain ⟨role, -, rfl⟩ := Option.map_eq_some_iff.mp hsole
        exact hbound
      · cases hsole
    simp [assignRoles, Hook.judged, Hook.given, hsole, hbound]

lemma judgement_of_delegated (hdelegated : h.IsDelegated) : c.judgement file h = {} := by
  obtain ⟨b, hb, hd⟩ := hdelegated
  simp [judgement, hb, hd]

lemma judgement_eq (hdelegated : ¬ h.IsDelegated) :
    c.judgement file h = h.judged.foldl (c.judge file h) { roles := h.given } := by
  rw [← assignRoles_eq]
  unfold judgement
  split
  · rename_i b hb
    have hown : ¬ b.delegated = true := fun hd => hdelegated ⟨b, hb, hd⟩
    rw [if_neg hown, hb]
  · rename_i hb
    rw [hb]

lemma lookup_reducerPart : (c.reducerPart file h).1.lookup "verdicts" = none := by
  have hnamed : (h.firstIdentifier.toList.map fun name =>
      (("reducer_name", .str name) : String × Value)).lookup "verdicts" = none := by
    cases h.firstIdentifier <;> rfl
  simp only [reducerPart, reducerFacts]
  split
  · split
    · exact hnamed
    · split
      · split
        · exact hnamed
        · rw [List.lookup_append, hnamed]
          rfl
      · exact hnamed
  · rfl

end Classifier

lemma Judgement.lookup_metadata (j : Judgement) (builtin : Bool) {reducer : Metadata}
    (hreducer : reducer.lookup "verdicts" = none) :
    (j.metadata builtin reducer).lookup "verdicts" =
      if j.verdicts = [] then none
      else some (.map (j.verdicts.map fun v => (.str v.1, v.2.toValue))) := by
  rw [Judgement.metadata, List.lookup_append, List.lookup_append, hreducer]
  cases j.verdicts <;> rfl

/-- Whether these are the verdicts on record: without any there is no record at all. -/
def Classification.Records (k : Classification) (verdicts : List (String × Verdict)) : Prop :=
  k.metadata.lookup "verdicts" = if verdicts = [] then none
    else some (.map (verdicts.map fun v => (.str v.1, v.2.toValue)))

namespace Classifier

/-- What the roles of a call and the verdicts on its variables have to be. -/
structure Decides (c : Classifier) (file : Option String) (h : Hook) (roles : List (String × Role))
    (verdicts : List (String × Verdict)) : Prop where
  once : (roles.map Prod.fst).Nodup
  covers : ∀ name, name ∈ roles.map Prod.fst ↔ name ∈ h.bound
  given : ∀ name role, h.Gives name role → roles.lookup name = some role
  judgedOnce : (verdicts.map Prod.fst).Nodup
  judges : ∀ name, name ∈ verdicts.map Prod.fst ↔ h.Leaves name
  judged : ∀ name v, verdicts.lookup name = some v →
    roles.lookup name = some v.role ∧ c.Supports file h name v

variable (c : Classifier) (file : Option String) (h : Hook)

lemma records_classify : (c.classify file h).1.Records (c.judgement file h).verdicts :=
  Judgement.lookup_metadata _ _ (c.lookup_reducerPart file h)

lemma decides_judgement (hdelegated : ¬ h.IsDelegated) :
    c.Decides file h (c.judgement file h).roles (c.judgement file h).verdicts := by
  obtain ⟨hroles, hverdicts⟩ := c.foldl_judge file h h.judged { roles := h.given }
  rw [judgement_eq c file h hdelegated, hroles, hverdicts]
  refine ⟨Assoc.nodup_keys_insertAll _ h.nodup_given, fun name => ?_, fun name role hgives => ?_,
    Assoc.nodup_keys_insertAll _ List.nodup_nil, fun name => ?_, fun name v hv => ?_⟩
  · rw [Assoc.mem_keys_insertAll, Hook.mem_keys_given]
    simp only [List.map_map, Function.comp_def, List.map_id', Hook.mem_judged_iff, Hook.Leaves]
    constructor
    · rintro (⟨role, hgives⟩ | ⟨hbound, -⟩)
      · exact hgives.mem_bound
      · exact hbound
    · intro hbound
      by_cases hgives : ∃ role, h.Gives name role
      · exact .inl hgives
      · exact .inr ⟨hbound, not_exists.mp hgives⟩
  · have hjudged : name ∉ h.judged := fun hmem => (Hook.mem_judged_iff.mp hmem).2 role hgives
    rw [Assoc.lookup_insertAll_map, if_neg hjudged]
    exact Hook.lookup_given_of_gives hgives
  · rw [Assoc.mem_keys_insertAll]
    simp [Function.comp_def, Hook.mem_judged_iff]
  · rw [Assoc.lookup_insertAll_map] at hv ⊢
    split at hv
    · rename_i hjudged
      obtain rfl := Option.some.inj hv
      exact ⟨if_pos hjudged, c.supports_verdictOn file h name⟩
    · cases hv

end Classifier

/-- **Roles are decided.** Classifying a call that has not been classified succeeds. A call of a
library hook gets no roles and no verdicts. In every other call exactly the bound variables get a
role: some from the builtin, and all others by name and type with a verdict on record. -/
theorem Invocation.classifyBy_decided (c : Classifier) (file : Option String) (h : Hook) :
    ∃ k journal, ({ hook := h } : Invocation).classifyBy c file =
        (.ok { hook := h, classification := some k }, journal) ∧
      (h.IsDelegated → k.roles = [] ∧ k.Records []) ∧
      (¬ h.IsDelegated → ∃ verdicts, k.Records verdicts ∧ c.Decides file h k.roles verdicts) := by
  refine ⟨(c.classify file h).1, _, rfl, fun hdelegated => ?_, fun hdelegated => ?_⟩
  · have hjudgement : c.judgement file h = {} := c.judgement_of_delegated file h hdelegated
    have hrecords := c.records_classify file h
    rw [hjudgement] at hrecords
    exact ⟨congrArg Judgement.roles hjudgement, hrecords⟩
  · exact ⟨_, c.records_classify file h, c.decides_judgement file h hdelegated⟩

/-- A state whose first two values are bound to the same name. -/
def Hook.repeated : Hook :=
  { name := "useState", bound := ["pair", "pair", "isStale"], binding := .array }

theorem Invocation.classifyBy_decided_repeated : ¬ Hook.repeated.IsDelegated ∧
    ∃ k journal, ({ hook := Hook.repeated } : Invocation).classifyBy {} none =
        (.ok { hook := Hook.repeated, classification := some k }, journal) ∧
      k.roles.lookup "pair" = some .function ∧ "isStale" ∈ k.roles.map Prod.fst := by
  have hknown : builtinHook? Hook.repeated.name = some { BuiltinHook.plain "state" "react" with
      name := "useState", positionalRoles := [.data, .function] } := by decide
  have hdelegated : ¬ Hook.repeated.IsDelegated := by
    rintro ⟨b, hb, hd⟩
    rw [hknown] at hb
    obtain rfl := Option.some.inj hb
    cases hd
  have hgives : Hook.repeated.Gives "pair" .function := by
    refine .position (n := 1) hknown rfl rfl rfl fun m hm _ => ?_
    exact List.getElem?_eq_none hm
  obtain ⟨k, journal, heq, -, hdecides⟩ := classifyBy_decided {} none Hook.repeated
  obtain ⟨verdicts, -, hdecides⟩ := hdecides hdelegated
  exact ⟨hdelegated, k, journal, heq, hdecides.given _ _ hgives,
    (hdecides.covers "isStale").mpr (by decide)⟩

end ComponentFlow
