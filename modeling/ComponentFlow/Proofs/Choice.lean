import ComponentFlow.Proofs.Runs
import Mathlib.Data.List.Induction

/-!
# Which processor gets a call

Processors are registered one after the other, and one whose id is taken is refused. So the entries
of a registry are the first attempts for each id (`entries_ofAttempts`). They are asked in the order
of their priorities, and of equal priority in the order of the attempts: sorting keeps the order of
equals, so those asked are a chain for `Precedes` (`pairwise_precedes_mergeSort`). The first one in
it that accepts a call is the only one that precedes all others that do (`select?_eq_some_iff`).

Among the processors that discovery gives there is always the one for all other hooks. It accepts
every call and comes after all others, so no call is left over, and it gets those calls that no
other one accepts (`discover_falls_back`).
-/

namespace ComponentFlow

namespace Registry

/-! ## Attempts to register -/

/-- The registry after an attempt to register a processor: as it was, if the attempt is refused. -/
def attempt (r : Registry) (p : Processor) : Registry :=
  match r.register p with
  | .ok extended => extended
  | .error _ => r

/-- The registry after several attempts. -/
def ofAttempts (attempts : List Processor) : Registry := attempts.foldl attempt {}

/-- The attempts that go through, with their numbers: those with an id that none before has. -/
def accepted (attempts : List Processor) : List (Processor × Nat) :=
  attempts.zipIdx.filter fun e => e.1.id ∉ (attempts.take e.2).map Processor.id

lemma register_eq (r : Registry) (p : Processor) : r.register p =
    if p.id ∈ r.entries.map Processor.id then .error (alreadyRegistered p.id)
    else .ok { entries := r.entries ++ [p] } := by
  have htaken : r.entries.any (·.id == p.id) = true ↔ p.id ∈ r.entries.map Processor.id := by
    simp [List.mem_map]
  rw [register]
  exact if_congr htaken rfl rfl

lemma entries_attempt (r : Registry) (p : Processor) : (r.attempt p).entries =
    if p.id ∈ r.entries.map Processor.id then r.entries else r.entries ++ [p] := by
  rw [attempt, register_eq]
  split_ifs <;> rfl

/-- Every id that was attempted is taken, and no other one. -/
lemma mem_ids_ofAttempts {attempts : List Processor} {id : String} :
    id ∈ (ofAttempts attempts).entries.map Processor.id ↔ id ∈ attempts.map Processor.id := by
  induction attempts using List.reverseRecOn with
  | nil => rfl
  | append_singleton attempts p ih =>
    have hlast : ofAttempts (attempts ++ [p]) = (ofAttempts attempts).attempt p := by
      simp [ofAttempts]
    rw [hlast, entries_attempt, List.map_append, List.mem_append, ← ih]
    split
    · rename_i htaken
      refine (or_iff_left_of_imp fun hid => ?_).symm
      rw [List.map_singleton, List.mem_singleton] at hid
      rwa [hid]
    · rw [List.map_append, List.mem_append]

lemma accepted_concat (attempts : List Processor) (p : Processor) :
    accepted (attempts ++ [p]) = accepted attempts ++
      if p.id ∈ attempts.map Processor.id then [] else [(p, attempts.length)] := by
  have hbefore : ∀ e ∈ attempts.zipIdx,
      (attempts ++ [p]).take e.2 = attempts.take e.2 := by
    intro e he
    have hlt := (List.mem_zipIdx' he).1
    rw [List.take_append_of_le_length hlt.le]
  rw [accepted, List.zipIdx_append, List.filter_append]
  congr 1
  · refine List.filter_congr fun e he => ?_
    rw [hbefore e he]
  · have hlast : (attempts ++ [p]).take attempts.length = attempts := List.take_left
    rw [List.zipIdx_singleton, List.filter_singleton, Nat.zero_add, hlast]
    by_cases htaken : p.id ∈ attempts.map Processor.id
    · rw [if_pos htaken, decide_eq_false (not_not_intro htaken)]
      rfl
    · rw [if_neg htaken, decide_eq_true htaken]
      rfl

/-- The entries are the attempts that went through. -/
lemma entries_ofAttempts (attempts : List Processor) :
    (ofAttempts attempts).entries = (accepted attempts).map Prod.fst := by
  induction attempts using List.reverseRecOn with
  | nil => rfl
  | append_singleton attempts p ih =>
    have hlast : ofAttempts (attempts ++ [p]) = (ofAttempts attempts).attempt p := by
      simp [ofAttempts]
    rw [hlast, entries_attempt, accepted_concat, List.map_append, ← ih]
    simp only [mem_ids_ofAttempts]
    split
    · rw [List.map_nil, List.append_nil]
    · rfl

lemma numbers_zipIdx (ps : List Processor) : ps.zipIdx.Pairwise fun e e' => e.2 < e'.2 := by
  rw [← List.pairwise_map (f := Prod.snd) (R := (· < ·)), List.zipIdx_map_snd]
  exact List.pairwise_lt_range'

lemma numbers_accepted (attempts : List Processor) :
    (accepted attempts).Pairwise fun e e' => e.2 < e'.2 :=
  (numbers_zipIdx attempts).sublist List.filter_sublist

/-! ## The order in which processors are asked -/

/-- Whether a processor with a number is asked before another one: by its priority, or else by its
number. -/
def Precedes (e e' : Processor × Nat) : Prop :=
  e'.1.priority < e.1.priority ∨ e'.1.priority = e.1.priority ∧ e.2 < e'.2

lemma Precedes.asymm {e e' : Processor × Nat} (h : Precedes e e') : ¬ Precedes e' e := by
  unfold Precedes at *
  omega

/-- Whether a numbered processor has the priority of another one at least. -/
def matchesPriority (e e' : Processor × Nat) : Bool := decide (e'.1.priority ≤ e.1.priority)

lemma matchesPriority_trans (a b c : Processor × Nat) (hab : matchesPriority a b = true)
    (hbc : matchesPriority b c = true) : matchesPriority a c = true := by
  simp only [matchesPriority, decide_eq_true_eq] at *
  omega

lemma matchesPriority_total (a b : Processor × Nat) :
    (matchesPriority a b || matchesPriority b a) = true := by
  simp only [matchesPriority, Bool.or_eq_true, decide_eq_true_eq]
  omega

/-- Sorting by priority keeps the order of the numbers where priorities are equal. -/
lemma pairwise_precedes_mergeSort {es : List (Processor × Nat)}
    (hes : es.Pairwise fun e e' => e.2 < e'.2) :
    (es.mergeSort matchesPriority).Pairwise Precedes := by
  induction es with
  | nil => simp
  | cons e es ih =>
    obtain ⟨hnumber, hrest⟩ := List.pairwise_cons.mp hes
    -- the first one is put before all that have no higher priority
    obtain ⟨before, after, hsorted, hothers, hhigher⟩ :=
      List.mergeSort_cons matchesPriority_trans matchesPriority_total e es
    have hmem : ∀ e' ∈ after, e' ∈ es := by
      intro e' he'
      refine List.mem_mergeSort.mp (?_ : e' ∈ es.mergeSort matchesPriority)
      rw [hothers]
      exact List.mem_append_right _ he'
    have hlower : ∀ e' ∈ after, matchesPriority e e' = true := by
      have hpairwise :=
        List.pairwise_mergeSort matchesPriority_trans matchesPriority_total (e :: es)
      rw [hsorted] at hpairwise
      exact (List.pairwise_cons.mp (List.pairwise_append.mp hpairwise).2.1).1
    have hchain := ih hrest
    rw [hothers, List.pairwise_append] at hchain
    obtain ⟨hbefore, hafter, hacross⟩ := hchain
    rw [hsorted, List.pairwise_append, List.pairwise_cons]
    refine ⟨hbefore, ⟨fun e' he' => ?_, hafter⟩, fun e' he' =>
      List.forall_mem_cons.mpr ⟨?_, hacross e' he'⟩⟩
    · have hle : e'.1.priority ≤ e.1.priority := of_decide_eq_true (hlower e' he')
      have hlt := hnumber e' (hmem e' he')
      unfold Precedes
      omega
    · have hlt : ¬ e'.1.priority ≤ e.1.priority := by
        simpa [matchesPriority] using hhigher e' he'
      exact .inl (by omega)

lemma ordered_eq_map (es : List (Processor × Nat)) :
    ordered ⟨es.map Prod.fst⟩ = (es.mergeSort matchesPriority).map Prod.fst := by
  refine (List.map_mergeSort fun e _ e' _ => ?_).symm
  rfl

/-- What is selected accepts the call and precedes all others that do. -/
lemma precedes_of_select? {es : List (Processor × Nat)} (hes : es.Pairwise fun e e' => e.2 < e'.2)
    {i : Invocation} {framework : Option String} {p : Processor}
    (h : select? ⟨es.map Prod.fst⟩ i framework = some p) :
    ∃ k, (p, k) ∈ es ∧ p.accepts i framework = true ∧
      ∀ e ∈ es, e ≠ (p, k) → e.1.accepts i framework = true → Precedes (p, k) e := by
  have hperm := List.mergeSort_perm es matchesPriority
  have hchain := pairwise_precedes_mergeSort hes
  rw [select?, ordered_eq_map, List.find?_map] at h
  obtain ⟨⟨p, k⟩, hfound, rfl⟩ := Option.map_eq_some_iff.mp h
  obtain ⟨haccepts, before, after, hsorted, hbefore⟩ := List.find?_eq_some_iff_append.mp hfound
  rw [hsorted] at hperm hchain
  refine ⟨k, hperm.mem_iff.mp (by simp), haccepts, fun e he hne hother => ?_⟩
  obtain he | he := List.mem_append.mp (hperm.mem_iff.mpr he)
  · have hrefused := hbefore e he
    rw [Function.comp_apply, hother] at hrefused
    cases hrefused
  · obtain rfl | he := List.mem_cons.mp he
    · exact absurd rfl hne
    · exact (List.pairwise_cons.mp (List.pairwise_append.mp hchain).2.1).1 e he

/-- A processor gets a call if it accepts the call and precedes all others that do. -/
lemma select?_eq_some_iff {es : List (Processor × Nat)} (hes : es.Pairwise fun e e' => e.2 < e'.2)
    {i : Invocation} {framework : Option String} {p : Processor} :
    select? ⟨es.map Prod.fst⟩ i framework = some p ↔
      ∃ k, (p, k) ∈ es ∧ p.accepts i framework = true ∧
        ∀ e ∈ es, e ≠ (p, k) → e.1.accepts i framework = true → Precedes (p, k) e := by
  refine ⟨precedes_of_select? hes, ?_⟩
  rintro ⟨k, hp, haccepts, hprecedes⟩
  have hsome : (select? ⟨es.map Prod.fst⟩ i framework).isSome = true :=
    List.find?_isSome.mpr ⟨p, mem_ordered.mpr (List.mem_map_of_mem hp), haccepts⟩
  obtain ⟨q, hq⟩ := Option.isSome_iff_exists.mp hsome
  obtain ⟨j, hmem, hother, hfirst⟩ := precedes_of_select? hes hq
  -- of two, each cannot precede the other
  by_cases heq : (q, j) = (p, k)
  · rw [hq, (Prod.mk.inj heq).1]
  · exact absurd (hfirst _ hp (Ne.symm heq) haccepts) (hprecedes _ hmem heq hother).asymm

lemma select?_eq_none_iff {r : Registry} {i : Invocation} {framework : Option String} :
    r.select? i framework = none ↔ ∀ p ∈ r.entries, p.accepts i framework = false := by
  rw [select?, List.find?_eq_none]
  simp only [mem_ordered, Bool.not_eq_true]

/-- **The choice of a processor.** After any attempts to register processors, exactly those ids are
taken that were attempted, and those processors are asked, in some order, that were the first with
their ids. A processor gets a call exactly if it is one of these, accepts the call, and all others
of these that accept it have a lower priority, or the same priority and were registered later. No
processor gets a call exactly if none of these accepts it. -/
theorem select?_ofAttempts (attempts : List Processor) (i : Invocation)
    (framework : Option String) :
    (∀ p, (ofAttempts attempts).register p = .error (alreadyRegistered p.id) ↔
      ∃ q ∈ attempts, q.id = p.id) ∧
    (ofAttempts attempts).ordered.Perm ((accepted attempts).map Prod.fst) ∧
    (∀ p, (ofAttempts attempts).select? i framework = some p ↔
      ∃ k, (p, k) ∈ accepted attempts ∧ p.accepts i framework = true ∧
        ∀ q j, (q, j) ∈ accepted attempts → (q, j) ≠ (p, k) → q.accepts i framework = true →
          q.priority < p.priority ∨ q.priority = p.priority ∧ k < j) ∧
    ((ofAttempts attempts).select? i framework = none ↔
      ∀ q j, (q, j) ∈ accepted attempts → q.accepts i framework = false) := by
  have hentries := entries_ofAttempts attempts
  have heta : ofAttempts attempts = ⟨(accepted attempts).map Prod.fst⟩ := by rw [← hentries]
  refine ⟨fun p => ?_, ?_, fun p => ?_, ?_⟩
  · rw [register_eq, ← List.mem_map (f := Processor.id)]
    simp only [mem_ids_ofAttempts]
    split_ifs with htaken
    · exact iff_of_true rfl htaken
    · exact iff_of_false (fun h => by cases h) htaken
  · rw [← hentries]
    exact List.mergeSort_perm _ _
  · rw [heta, select?_eq_some_iff (numbers_accepted attempts)]
    simp only [Prod.forall, Precedes]
  · rw [select?_eq_none_iff, hentries]
    simp

/-- Whoever accepts a call has no higher priority than the processor that gets it. -/
lemma priority_le_of_select? {r : Registry} {i : Invocation} {framework : Option String}
    {p q : Processor} (h : r.select? i framework = some p) (hq : q ∈ r.entries)
    (haccepts : q.accepts i framework = true) : q.priority ≤ p.priority := by
  have hnumbered : r.entries.zipIdx.map Prod.fst = r.entries := List.zipIdx_map_fst 0 r.entries
  have hr : r = ⟨r.entries.zipIdx.map Prod.fst⟩ := by rw [hnumbered]
  rw [hr] at h
  obtain ⟨k, -, -, hprecedes⟩ := precedes_of_select? (numbers_zipIdx r.entries) h
  rw [← hnumbered] at hq
  obtain ⟨⟨q, j⟩, hmem, rfl⟩ := List.mem_map.mp hq
  by_cases heq : (q, j) = (p, k)
  · exact Int.le_of_eq (congrArg (·.1.priority) heq)
  · obtain hlt | ⟨hsame, -⟩ := hprecedes _ hmem heq haccepts
    · exact Int.le_of_lt hlt
    · exact Int.le_of_eq hsame

end Registry

/-! ## Processors that discovery gives -/

lemma key_of_mem_builtin : ∀ p ∈ builtinProcessors, p.key = p.id := by
  decide +kernel

/-- The processor for all other hooks comes after all other built-in ones. -/
lemma priority_of_mem_builtin : ∀ p ∈ builtinProcessors,
    if p.id = "custom-hook" then p.priority = 0 else 0 < p.priority := by
  decide +kernel

namespace Selection

lemma mem_allowed_iff {sel : Selection} {name : String} : name ∈ sel.allowed.getD [] ↔
    sel.enabled ≠ [] ∧ (name ∈ sel.enabled.map Text.lower ∨ name = "custom-hook") := by
  rw [allowed]
  by_cases hnone : sel.enabled = []
  · simp [hnone]
  · have hsome : sel.enabled.isEmpty = false := by simpa using hnone
    rw [hsome]
    simp [hnone, Text.mem_distinct, requiredProcessor, Custom.info]

/-- The processor for all other hooks is asked for, and so are those that are enabled, if any are,
and not disabled. -/
lemma admits_iff {sel : Selection} {name : String} : sel.admits name = true ↔
    name = "custom-hook" ∨ (sel.enabled = [] ∨ name ∈ sel.enabled.map Text.lower) ∧
      name ∉ sel.disabled.map Text.lower := by
  have hforbidden : name ∈ sel.forbidden ↔
      name ∈ sel.disabled.map Text.lower ∧ name ≠ "custom-hook" := by
    rw [forbidden, List.mem_filter, bne_iff_ne]
    rfl
  have hallowed : sel.allowed.all (·.contains name) = true ↔
      (sel.enabled = [] ∨ name ∈ sel.enabled.map Text.lower) ∨ name = "custom-hook" := by
    rw [allowed]
    by_cases hnone : sel.enabled = []
    · simp [hnone]
    · simp [hnone, Text.mem_distinct, requiredProcessor, Custom.info]
  rw [admits, Bool.and_eq_true, Bool.not_eq_true', ← Bool.not_eq_true, List.contains_iff_mem,
    hforbidden, hallowed]
  by_cases hcustom : name = "custom-hook"
  · simp [hcustom]
  · simp only [hcustom, ne_eq, not_false_iff, and_true, or_false, false_or]
    exact and_comm

end Selection

/-- The processors that take part, as far as they are asked for by their ids. -/
lemma filter_admits (sel : Selection) : builtinProcessors.filter (sel.admits ·.key) =
    builtinProcessors.filter fun p => p.id = "custom-hook" ∨
      (sel.enabled = [] ∨ p.id ∈ sel.enabled.map Text.lower) ∧
        p.id ∉ sel.disabled.map Text.lower := by
  refine List.filter_congr fun p hp => ?_
  rw [key_of_mem_builtin p hp, Bool.eq_iff_iff, Selection.admits_iff, decide_eq_true_eq]

lemma mem_keys_filter_admits {sel : Selection} {name : String} :
    name ∈ (builtinProcessors.filter (sel.admits ·.key)).map Processor.key ↔
      name ∈ builtinProcessors.map Processor.id ∧ sel.admits name = true := by
  constructor
  · intro h
    obtain ⟨p, hp, rfl⟩ := List.mem_map.mp h
    obtain ⟨hp, hadmits⟩ := List.mem_filter.mp hp
    exact ⟨List.mem_map.mpr ⟨p, hp, (key_of_mem_builtin p hp).symm⟩, hadmits⟩
  · rintro ⟨h, hadmits⟩
    obtain ⟨p, hp, rfl⟩ := List.mem_map.mp h
    rw [← key_of_mem_builtin p hp] at hadmits ⊢
    exact List.mem_map_of_mem (List.mem_filter.mpr ⟨hp, hadmits⟩)

/-- When discovery goes through. -/
lemma exists_discover_iff {sel : Selection} : (∃ ps, discover sel [] = .ok ps) ↔
    ∀ name ∈ sel.enabled.map Text.lower, name ∈ builtinProcessors.map Processor.id ∧
      (name = "custom-hook" ∨ name ∉ sel.disabled.map Text.lower) := by
  have hknown : (∃ ps, discover sel [] = .ok ps) ↔ ∀ name ∈ sel.allowed.getD [],
      name ∈ builtinProcessors.map Processor.id ∧ sel.admits name = true := by
    simp only [discover_builtin_iff, exists_eq_left, mem_keys_filter_admits]
  rw [hknown]
  constructor
  · intro h name hname
    have henabled : sel.enabled ≠ [] := by
      rintro heq
      simp [heq] at hname
    obtain ⟨hbuiltin, hadmits⟩ := h name (Selection.mem_allowed_iff.mpr ⟨henabled, .inl hname⟩)
    exact ⟨hbuiltin, (Selection.admits_iff.mp hadmits).imp_right And.right⟩
  · intro h name hname
    obtain ⟨-, hname | rfl⟩ := Selection.mem_allowed_iff.mp hname
    · obtain ⟨hbuiltin, hadmits⟩ := h name hname
      exact ⟨hbuiltin, Selection.admits_iff.mpr (hadmits.imp_right fun h => ⟨.inr hname, h⟩)⟩
    · exact ⟨by decide +kernel, Selection.admits_iff.mpr (.inl rfl)⟩

/-- Among built-in processors, the one for all other hooks gets a call if none but it accepts it. -/
lemma select?_fallback_iff {ps : List Processor} (hps : ps ⊆ builtinProcessors) {i : Invocation}
    {framework : Option String} {p : Processor}
    (h : Registry.select? ⟨ps⟩ i framework = some p) :
    p.id = "custom-hook" ↔
      ∀ q ∈ ps, q.id ≠ "custom-hook" → q.accepts i framework = false := by
  obtain ⟨hp, haccepts⟩ := Registry.select?_eq_some h
  constructor
  · intro hid q hq hother
    have hlast := priority_of_mem_builtin p (hps hp)
    have hhigher := priority_of_mem_builtin q (hps hq)
    rw [if_pos hid] at hlast
    rw [if_neg hother] at hhigher
    rw [← Bool.not_eq_true]
    intro hq'
    have hle := Registry.priority_le_of_select? h hq hq'
    omega
  · intro hnone
    by_contra hid
    rw [hnone p hp hid] at haccepts
    cases haccepts

/-- **Discovery and the fallback.** Without extensions, discovery goes through exactly if each name
that is enabled is in lower case the id of a built-in processor, and either that of the one for all
other hooks or not disabled. It gives the built-in processors in their order: those that are
enabled, or all if none is, without those that are disabled, always with the one for all other
hooks, and none twice. In the registry of these every call gets a processor, and it is the one for
all other hooks exactly if no other one accepts the call. -/
theorem discover_falls_back (sel : Selection) :
    ((∃ ps, discover sel [] = .ok ps) ↔
      ∀ name ∈ sel.enabled.map Text.lower, name ∈ builtinProcessors.map Processor.id ∧
        (name = "custom-hook" ∨ name ∉ sel.disabled.map Text.lower)) ∧
    ∀ ps, discover sel [] = .ok ps →
      (ps = builtinProcessors.filter fun p => p.id = "custom-hook" ∨
        (sel.enabled = [] ∨ p.id ∈ sel.enabled.map Text.lower) ∧
          p.id ∉ sel.disabled.map Text.lower) ∧
      Custom.processor ∈ ps ∧ (ps.map Processor.id).Nodup ∧
      ∃ r, createRegistry sel [] = .ok r ∧ ∀ i framework, ∃ p ∈ ps,
        r.select? i framework = some p ∧
          (p.id = "custom-hook" ↔
            ∀ q ∈ ps, q.id ≠ "custom-hook" → q.accepts i framework = false) := by
  refine ⟨exists_discover_iff, fun ps hps => ?_⟩
  obtain ⟨hregistry, hbuiltin, hcustom⟩ := createRegistry_builtin hps
  obtain ⟨hfilter, -⟩ := discover_builtin_iff.mp hps
  have hnodup : (ps.map Processor.id).Nodup := by
    rw [hfilter]
    exact nodup_builtin_ids.sublist (List.filter_sublist.map _)
  refine ⟨hfilter.trans (filter_admits sel), hcustom, hnodup, _, hregistry,
    fun i framework => ?_⟩
  obtain ⟨p, hp⟩ := Option.isSome_iff_exists.mp
    (Registry.isSome_select? (r := ⟨ps⟩) hcustom i framework)
  exact ⟨p, (Registry.select?_eq_some hp).1, hp, select?_fallback_iff hbuiltin hp⟩

/-- A selection that enables one library and disables two processors, one of them in vain. -/
def swrOnly : Selection := { enabled := ["SWR"], disabled := ["React", "Custom-Hook"] }

/-- A hook that no library knows is left to the fallback. -/
theorem discover_falls_back_swr :
    ∃ ps r, discover swrOnly [] = .ok ps ∧ ps.map Processor.id = ["swr", "custom-hook"] ∧
      createRegistry swrOnly [] = .ok r ∧
      ∀ classification framework, ∃ p,
        r.select? ⟨{ name := "useTheme" }, classification⟩ framework = some p ∧
          p.id = "custom-hook" := by
  obtain ⟨ps, hps⟩ := (discover_falls_back swrOnly).1.mpr (by decide +kernel)
  obtain ⟨hfilter, -, -, r, hr, hselect⟩ := (discover_falls_back swrOnly).2 ps hps
  have hlisted : ps = [Remote.swr, Custom.processor] := hfilter.trans rfl
  refine ⟨ps, r, hps, by rw [hlisted]; rfl, hr, fun classification framework => ?_⟩
  obtain ⟨p, -, hp, hid⟩ := hselect ⟨{ name := "useTheme" }, classification⟩ framework
  refine ⟨p, hp, hid.mpr ?_⟩
  rw [hlisted]
  exact List.forall_mem_cons.mpr ⟨fun _ => rfl, List.forall_mem_singleton.mpr fun h => absurd rfl h⟩

end ComponentFlow
