import ComponentFlow.Processor.Discovery
import Mathlib.Data.List.Nodup
import Mathlib.Tactic.Lemma

/-!
# Registries of built-in processors

Which processors take part if there are no extensions: those of the built-in ones whose name is
asked for, in their order (`discover_builtin_iff`). The one for all other hooks is always among them
(`admits_custom`). Their ids differ, so they can be registered (`createRegistry_builtin`).
-/

namespace ComponentFlow

/-- The name under which a processor is asked for. -/
def Processor.key (p : Processor) : String := Text.lower p.id

lemma nodup_builtin_keys : (builtinProcessors.map Processor.key).Nodup := by
  decide +kernel

lemma nodup_builtin_ids : (builtinProcessors.map Processor.id).Nodup := by
  have hkeys : (builtinProcessors.map Processor.id).map Text.lower =
      builtinProcessors.map Processor.key := by
    rw [List.map_map]
    rfl
  exact List.Nodup.of_map Text.lower (hkeys ▸ nodup_builtin_keys)

/-- The processor for all other hooks is asked for by every selection. -/
lemma admits_custom (sel : Selection) : sel.admits Custom.processor.key = true := by
  have hkey : Custom.processor.key = requiredProcessor := by decide +kernel
  have hallowed : sel.allowed.all (·.contains requiredProcessor) = true := by
    rw [Selection.allowed]
    split
    · rfl
    · simp [Text.mem_distinct]
  rw [Selection.admits, hkey, hallowed]
  simp [Selection.forbidden]

/-- Processors with different names are collected if they are asked for. -/
lemma foldlM_add (sel : Selection) {ps : List Processor} {c : Collected}
    (hnodup : (ps.map Processor.key).Nodup) (hnew : ∀ p ∈ ps, p.key ∉ c.seen) :
    ps.foldlM (fun c p => Collected.add sel c p.id (.ok p)) c = .ok
      { processors := c.processors ++ ps.filter (sel.admits ·.key)
        seen := c.seen ++ (ps.filter (sel.admits ·.key)).map Processor.key } := by
  induction ps generalizing c with
  | nil => simp [pure, Except.pure]
  | cons p rest ih =>
    obtain ⟨hp, hrest⟩ := List.nodup_cons.mp hnodup
    obtain ⟨hpnew, hrestnew⟩ := List.forall_mem_cons.mp hnew
    have hkey : Text.lower p.id = p.key := rfl
    have hseen : c.seen.contains p.key = false := by simpa using hpnew
    rw [List.foldlM_cons, Collected.add, hkey, hseen, Bool.false_or]
    by_cases hadmits : sel.admits p.key = true
    · have hstep : ∀ q ∈ rest, q.key ∉ c.seen ++ [p.key] := by
        intro q hq hmem
        obtain hmem | hmem := List.mem_append.mp hmem
        · exact hrestnew q hq hmem
        · exact hp (List.mem_singleton.mp hmem ▸ List.mem_map_of_mem hq)
      have hcollected := ih (c := { processors := c.processors ++ [p], seen := c.seen ++ [p.key] })
        hrest hstep
      simpa [hadmits, Except.map, bind, Except.bind] using hcollected
    · simpa [hadmits, bind, Except.bind] using ih hrest hrestnew

/-- Without extensions those built-in processors take part that are asked for. A selection is
accepted if all names that it enables are among theirs. -/
theorem discover_builtin_iff {sel : Selection} {ps : List Processor} : discover sel [] = .ok ps ↔
    ps = builtinProcessors.filter (sel.admits ·.key) ∧
      ∀ name ∈ sel.allowed.getD [], name ∈ ps.map Processor.key := by
  have hcollected := foldlM_add sel (c := {}) nodup_builtin_keys (by simp)
  rw [discover, hcollected]
  simp only [bind, Except.bind, List.foldlM_nil, pure, Except.pure, List.nil_append,
    List.isEmpty_iff, List.filter_eq_nil_iff, Bool.not_eq_true', Bool.not_eq_false,
    List.contains_iff_mem]
  constructor
  · intro h
    split at h
    · rename_i hknown
      obtain rfl := Except.ok.inj h
      exact ⟨rfl, hknown⟩
    · cases h
  · rintro ⟨rfl, hknown⟩
    rw [if_pos hknown]

/-- Processors with different ids can be registered. -/
lemma ofList_of_nodup {ps : List Processor} (h : (ps.map Processor.id).Nodup) :
    Registry.ofList ps = .ok { entries := ps } := by
  have hfold : ∀ done : List Processor, ((done ++ ps).map Processor.id).Nodup →
      ps.foldlM Registry.register { entries := done } = .ok { entries := done ++ ps } := by
    clear h
    induction ps with
    | nil => simp [pure, Except.pure]
    | cons p rest ih =>
      intro done hnodup
      have hfree : (done.any fun q => q.id == p.id) = false := by
        rw [List.any_eq_false]
        intro q hq heq
        rw [List.map_append, List.nodup_append] at hnodup
        exact hnodup.2.2 _ (List.mem_map_of_mem hq) _ (List.mem_map_of_mem List.mem_cons_self)
          (eq_of_beq heq)
      have hrest := ih (done ++ [p]) (by simpa using hnodup)
      rw [List.foldlM_cons, Registry.register]
      simpa [hfree, bind, Except.bind] using hrest
  exact hfold [] h

/-- **Registries of built-in processors.** A selection that discovery accepts without extensions
gives a registry of built-in processors, with the one for all other hooks. -/
theorem createRegistry_builtin {sel : Selection} {ps : List Processor}
    (h : discover sel [] = .ok ps) : createRegistry sel [] = .ok { entries := ps } ∧
      ps ⊆ builtinProcessors ∧ Custom.processor ∈ ps := by
  obtain ⟨rfl, -⟩ := discover_builtin_iff.mp h
  have hnodup : ((builtinProcessors.filter (sel.admits ·.key)).map Processor.id).Nodup :=
    nodup_builtin_ids.sublist (List.filter_sublist.map _)
  refine ⟨?_, List.filter_subset_self _, ?_⟩
  · rw [createRegistry, h]
    simp only [bind, Except.bind, ofList_of_nodup hnodup, pure, Except.pure]
  · exact List.mem_filter.mpr ⟨by simp [builtinProcessors], admits_custom sel⟩

end ComponentFlow
