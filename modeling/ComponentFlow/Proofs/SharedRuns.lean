import ComponentFlow.Proofs.AssembledIdentities
import ComponentFlow.Proofs.SharedLinks

/-!
# Calls and what they share

What one call attaches stays attached, since later calls only add to the diagram
(`files_handOver`). So after all calls there is a catalogue of the nodes that they share, and every
call is attached to them (`attached_dispatchAll`). The assembly adds props and functions from
outside to this, each of them once. So in the finished diagram no two nodes stand for the same
(`execute_identities`).
-/

namespace ComponentFlow

open Session

variable {holder : String → Option String} {s s' : Session}

/-- The stores that variables hold after some calls. -/
def heldAfter (holder : String → Option String) (calls : List (Invocation × Outcome)) :
    String → Option String :=
  calls.foldl (fun holder call name =>
    (heldBy call.2.processor call.1.hook name).or (holder name)) holder

/-- A call keeps the catalogue and is attached to what it shares. -/
lemma Registry.files_handOver {p : Processor} {i : Invocation} (hs : s.Sound)
    (hcatalogued : s.Catalogued holder) (hserves : p.Serves) (hp : p.Catalogues)
    (haccepts : p.accepts i s.component.framework = true) :
    (handOver s p i).1.Catalogued (heldAfter holder [(i, (handOver s p i).2)]) ∧
      s.diagram.Within (handOver s p i).1.diagram ∧
      (handOver s p i).2.Attached holder (handOver s p i).1.diagram i.hook := by
  obtain ⟨s', c, hprocess, hoffers, heq⟩ := handOver_serves hs hserves haccepts
  have hfiles := hp (announced s p i) i c holder (hs.record _ _ _) (hcatalogued.record _ _ _)
    haccepts
  rw [hprocess] at hfiles
  obtain ⟨hresources, hregisters, hbinds, hattached⟩ := hfiles rfl { hoffers with }
  rw [heq]
  have hdiagram : (s'.applied c).diagram = c.onto s.diagram := by
    rw [← hoffers.diagram]
    rfl
  have hfiled : s.Registers c (heldBy p.id i.hook) := { hregisters with }
  refine ⟨hfiled.catalogued hs hcatalogued hoffers hresources hbinds, ?_, ?_⟩
  · rw [hdiagram]
    exact hfiled.within hs hoffers
  · rw [hdiagram]
    exact hattached

/-- **Attached calls.** After all calls there is a catalogue of what they share, and every call is
attached to what it shares, given the stores that variables hold after the calls before it. -/
lemma Analyzer.attached_dispatchAll {r : Registry} (hr : ∀ p ∈ r.entries, p ∈ builtinProcessors)
    {is : List Invocation} {outcomes : List Outcome} (hs : s.Sound)
    (hcatalogued : s.Catalogued holder) (h : dispatchAll r s is = (s', .ok outcomes)) :
    (∃ holder', s'.Catalogued holder') ∧ s.diagram.Within s'.diagram ∧
      ∀ before call after, is.zip outcomes = before ++ call :: after →
        call.2.Attached (heldAfter holder before) s'.diagram call.1.hook := by
  induction is generalizing s holder outcomes with
  | nil =>
    obtain ⟨rfl, -⟩ := Prod.mk.inj h
    exact ⟨⟨holder, hcatalogued⟩, s.diagram.within_refl, by simp⟩
  | cons i rest ih =>
    obtain ⟨p, others, hselect, hrest, rfl⟩ := dispatchAll_cons_eq_ok_iff.mp h
    obtain ⟨hmem, haccepts⟩ := Registry.select?_eq_some hselect
    have hserves := serves_of_mem_builtin p (hr p hmem)
    obtain ⟨hnext, hwithin, hattached⟩ := Registry.files_handOver hs hcatalogued hserves
      (catalogues_of_mem_builtin p (hr p hmem)) haccepts
    obtain ⟨hlast, hlater, hothers⟩ :=
      ih (Registry.sound_handOver hs hserves haccepts).1 hnext hrest
    refine ⟨hlast, hwithin.trans hlater, fun before call after hsplit => ?_⟩
    rw [List.zip_cons_cons] at hsplit
    cases before with
    | nil =>
      obtain ⟨rfl, -⟩ := List.cons.inj hsplit
      exact hattached.within hlater
    | cons first before =>
      obtain ⟨rfl, hzip⟩ := List.cons.inj hsplit
      exact hothers before call after hzip

namespace Analyzer

/-- **One node for each identity.** Whatever is analysed with any selection of built-in processors
that discovery accepts, no two nodes of the diagram stand for the same address, atom, store, server,
prop or function from outside. Every hook has an outcome, and the call is attached to all that it
shares, given the stores that variables hold after the calls before it. -/
theorem execute_identities (a : Analyzer) (c : Component) (source : Option String)
    (sel : Selection) (ps : List Processor) (hsel : discover sel [] = .ok ps)
    (hr : a.registry = createRegistry sel []) :
    ∃ run, (a.execute c source).2 = .ok run ∧ run.diagram.identities.Nodup ∧
      run.hooks.map (·.hook) = c.hooks ∧ run.outcomes.map (·.hook) = c.hooks.map (·.name) ∧
      ∀ before call after, run.hooks.zip run.outcomes = before ++ call :: after →
        call.2.Attached (heldAfter (fun _ => none) before) run.diagram call.1.hook := by
  obtain ⟨hbuiltin, s', outcomes, hall, hexecute⟩ := execute_of_discover c source hsel hr
  have hsound := sound_recordUnhandled (sound_dispatchAll hbuiltin sound_begun hall).1 outcomes
  obtain ⟨⟨holder, hcatalogued⟩, -, hattached⟩ :=
    attached_dispatchAll hbuiltin sound_begun (catalogued_start _ _ _) hall
  have hdiagram := (recordUnhandled_kept s' outcomes).1
  have hrun : Run.diagram
      { session := recordFaults (Assembly.assemble (recordUnhandled s' outcomes)).session
        hooks := a.classified c source, outcomes } =
      (Assembly.assemble (recordUnhandled s' outcomes)).diagram := (recordFaults_kept _).1
  refine ⟨_, hexecute, ?_, hooks_classifyHooks a _, ?_, ?_⟩
  · rw [hrun]
    refine Assembly.nodup_identities_assemble ?_ fun m hm => ?_
    · rw [hdiagram]
      exact hcatalogued.nodup (hdiagram ▸ hsound.coherent)
    · rw [hdiagram] at hm
      obtain ⟨n, hn, hidentity⟩ := List.mem_filterMap.mp hm
      exact hcatalogued.shared n hn m hidentity
  · rw [hooks_dispatchAll hall, names_classified]
  · intro before call after hsplit
    rw [hrun]
    refine (hattached before call after hsplit).within ?_
    rw [← hdiagram]
    exact Assembly.within_assemble hsound

/-- A selection that enables the library for atoms. -/
def jotaiOnly : Selection := { enabled := ["jotai"] }

/-- An analyzer with the processor for atoms and the one for all other hooks. -/
def jotaiAnalyzer : Analyzer := ⟨{}, none, createRegistry jotaiOnly [], none⟩

lemma discover_jotaiOnly : discover jotaiOnly [] = .ok [Jotai.processor, Custom.processor] := by
  refine discover_builtin_iff.mpr ⟨rfl, ?_⟩
  decide +kernel

/-- Two calls for one atom: one takes two fields of its value, the other one its setter. -/
def profile : Component :=
  { name := "Profile", framework := some "react"
    hooks := [{ name := "useAtomValue", bound := ["name", "email"], binding := .object
                arguments := [⟨.identifier, some "userAtom"⟩] },
              { name := "useSetAtom", bound := ["setUser"], binding := .identifier
                arguments := [⟨.identifier, some "userAtom"⟩] }] }

lemma exists_run_profile : ∃ run, (jotaiAnalyzer.execute profile none).2 = .ok run ∧
    (∀ call ∈ run.hooks.zip run.outcomes, call.2.processor = "jotai" ∧
      call.1.hook.firstIdentifier = some "userAtom") ∧
    (∃ call ∈ run.hooks.zip run.outcomes, "email" ∈ call.1.hook.bound) ∧
    run.diagram.identities = [.shared (.atom "userAtom")] ∧
    ∀ n ∈ run.diagram.nodes, ¬ n.Names "email" := by
  have hselect : ∀ h framework, Registry.select? ⟨[Jotai.processor, Custom.processor]⟩ h framework =
      [Jotai.processor, Custom.processor].find? (·.accepts h framework) :=
    Registry.select?_of_pairwise (by decide)
  have hregistry : jotaiAnalyzer.registry = .ok ⟨[Jotai.processor, Custom.processor]⟩ :=
    (createRegistry_builtin discover_jotaiOnly).1
  rw [execute_eq hregistry]
  refine ⟨_, build_eq_ok_iff.mpr ⟨_, _, dispatchAll_cons_eq_ok_iff.mpr ⟨Jotai.processor, _,
    hselect _ _, dispatchAll_cons_eq_ok_iff.mpr ⟨Jotai.processor, [], hselect _ _, rfl, rfl⟩, rfl⟩,
    ?_, rfl⟩, ?_⟩
  · rw [Build.Live]
    decide +kernel
  · decide +kernel

/-- Both calls are attached to the node of the atom, and there is only one. -/
theorem execute_identities_profile :
    ∃ run, (jotaiAnalyzer.execute profile none).2 = .ok run ∧
      run.diagram.identities = [.shared (.atom "userAtom")] ∧
      run.hooks.map (·.hook) = profile.hooks ∧
      ∀ call ∈ run.hooks.zip run.outcomes,
        (Shared.atom "userAtom").Attached run.diagram call.1.hook call.2.nodes.head? := by
  obtain ⟨run, hrun, -, hhooks, -, hattached⟩ :=
    execute_identities jotaiAnalyzer profile none jotaiOnly _ discover_jotaiOnly rfl
  obtain ⟨run', hrun', hcalls, -, hidentities, -⟩ := exists_run_profile
  obtain rfl : run' = run := Except.ok.inj (hrun'.symm.trans hrun)
  refine ⟨run', hrun, hidentities, hhooks, fun call hcall => ?_⟩
  obtain ⟨hprocessor, hfirst⟩ := hcalls call hcall
  obtain ⟨before, after, hsplit⟩ := List.append_of_mem hcall
  refine hattached before call after hsplit _ ?_
  rw [hprocessor]
  change _ ∈ call.1.hook.firstIdentifier.toList.map Shared.atom
  rw [hfirst]
  exact List.mem_singleton_self _

/-- A variable by which a call does not access its atom is lost: only the first of the fields that
are taken of the value is merged into the node. -/
theorem execute_profile_unmerged :
    ∃ run, (jotaiAnalyzer.execute profile none).2 = .ok run ∧
      ∃ call ∈ run.hooks.zip run.outcomes, call.2.processor = "jotai" ∧
        call.1.hook.firstIdentifier = some "userAtom" ∧ "email" ∈ call.1.hook.bound ∧
        ∀ n ∈ run.diagram.nodes, ¬ n.Names "email" := by
  obtain ⟨run, hrun, hcalls, ⟨call, hcall, hbound⟩, -, hunnamed⟩ := exists_run_profile
  obtain ⟨hprocessor, hfirst⟩ := hcalls call hcall
  exact ⟨run, hrun, call, hcall, hprocessor, hfirst, hbound, hunnamed⟩

end Analyzer

end ComponentFlow
