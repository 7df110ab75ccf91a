import ComponentFlow.Proofs.Catalogue
import ComponentFlow.Proofs.Runs

/-!
# Sharing nodes between calls

Which things the call of a hook shares with other calls depends on the processor that gets it:
`sharedBy` says so for the built-in ones. A processor keeps the catalogue (`Processor.Catalogues`)
if it registers the nodes that it makes for these things and attaches the call to them.

Most processors share nothing between calls, so they keep the catalogue since the nodes that they
make are of other categories (`Processor.IsPlain`).
-/

namespace ComponentFlow

open Session

/-! ## What a call shares -/

/-- The addresses that a routing hook reads and writes. -/
def Navigation.Router.addresses (r : Navigation.Router) (h : Hook) : List Shared :=
  match r.kindOf h.name with
  | .reads => [.addressRead]
  | .guard => [.addressRead]
  | .navigates => [.addressWritten]
  | .both => [.addressRead, .addressWritten]

/-- The server behind a call for remote data: that of its endpoint, if one is known, or the one that
configuration hooks refer to. -/
def Remote.servers (configuration : List String) (endpoint : Hook → Option String) (h : Hook) :
    List Shared :=
  if configuration.contains h.name then [.server "*"] else (endpoint h).toList.map .server

/-- The processors whose calls share something, with what their calls share. A call that takes
references from a variable shares the store that the variable holds. -/
def sharers : List (String × (Hook → (String → Option String) → List Shared)) :=
  [("jotai", fun h _ => h.firstIdentifier.toList.map .atom),
   ("zustand", fun h _ => [.store h.name]),
   ("pinia", fun h holder => if h.name == "storeToRefs" then
      (h.firstIdentifier.bind holder).toList.map .store else [.store h.name]),
   ("next", fun h _ => Navigation.next.addresses h),
   ("react-router", fun h _ => Navigation.reactRouter.addresses h),
   ("tanstack-router", fun h _ => Navigation.tanstackRouter.addresses h),
   ("vue-router", fun h _ => Navigation.vueRouter.addresses h),
   ("sveltekit", fun h _ => Navigation.svelteKit.addresses h),
   ("swr", fun h _ => Remote.servers ["useSWRConfig"] Hook.firstLiteral h),
   ("tanstack-query", fun h _ => Remote.servers [] Hook.firstLiteral h),
   ("apollo", fun h _ => Remote.servers [] (fun h => h.firstIdentifier.or h.firstLiteral) h),
   ("rtk-query", fun h _ => Remote.servers [] Remote.rtkEndpoint h),
   ("trpc", fun h _ => Remote.servers [] Remote.trpcEndpoint h)]

/-- What a call that a processor gets shares with other calls, if variables hold stores as given. -/
def sharedBy (processor : String) (h : Hook) (holder : String → Option String) : List Shared :=
  match sharers.lookup processor with
  | some shared => shared h holder
  | none => []

/-- The store that a variable holds because of a call: the result of a store hook as a whole. -/
def heldBy (processor : String) (h : Hook) (name : String) : Option String :=
  if (processor = "zustand" ∨ processor = "pinia" ∧ h.name ≠ "storeToRefs") ∧
      h.binding = .identifier ∧ name ∈ h.bound then some h.name
  else none

/-- Whether a call with an outcome is attached to all that it shares. -/
def Outcome.Attached (o : Outcome) (holder : String → Option String) (d : Diagram) (h : Hook) :
    Prop :=
  ∀ k ∈ sharedBy o.processor h holder, k.Attached d h o.nodes.head?

variable {holder holds : String → Option String}

lemma Outcome.Attached.within {o : Outcome} {d d' : Diagram} {h : Hook}
    (hattached : o.Attached holder d h) (hwithin : d.Within d') : o.Attached holder d' h :=
  fun k hk => (hattached k hk).within hwithin

lemma Outcome.attached_of_lookup {o : Outcome} (h : sharers.lookup o.processor = none)
    (d : Diagram) (hook : Hook) : o.Attached holder d hook := by
  intro k hk
  rw [sharedBy, h] at hk
  cases hk

/-- Only store processors leave stores in variables. -/
lemma heldBy_eq_none {processor : String} (h : processor ≠ "zustand" ∧ processor ≠ "pinia")
    (hook : Hook) (name : String) : heldBy processor hook name = none :=
  if_neg fun hheld => hheld.1.elim h.1 fun hpinia => h.2 hpinia.1

/-- The outcome of a call whose contribution is applied. -/
def Registry.served (p : Processor) (i : Invocation) (c : Contribution) : Outcome :=
  { hook := i.hook.name, processor := p.id, handled := c.handled, nodes := c.nodes.map (·.id) }

/-- A contribution to a call that keeps the catalogue: it registers the shared nodes that are made
for the call and the variables that hold its store, and it attaches the call to what it shares. -/
structure Processor.Files (p : Processor) (i : Invocation) (holder : String → Option String)
    (s s' : Session) (c : Contribution) : Prop where
  resources : s'.resources = s.resources
  registers : s.Registers c (heldBy p.id i.hook)
  binds : ∀ name, c.resources.lookup (Stores.variableKey name) = none →
    heldBy p.id i.hook name = none
  attached : (Registry.served p i c).Attached holder (c.onto s.diagram) i.hook

/-- A processor that keeps the catalogue, whatever call it gets. -/
def Processor.Catalogues (p : Processor) : Prop :=
  ∀ s i c holder, s.Sound → s.Catalogued holder → p.accepts i s.component.framework = true →
    (p.process s i).2 = .ok c → Offers s (p.process s i).1 c →
    p.Files i holder s (p.process s i).1 c

/-! ## Nodes of a fixed form -/

/-- The categories of nodes that calls share. -/
def sharedCategories : List String :=
  ["url", "jotai-atom", "zustand-store", "pinia-store", "server"]

lemma get_buildNode_null (s : Session) (stem label : String) (t : NodeType)
    (i : Option Invocation) {draft : Draft} {key : String} (hkey : key ≠ "hook" ∧ key ≠ "library")
    (hdraft : ∀ v, (key, some v) ∉ draft) :
    (buildNode s stem label t i draft).1.metadata.get key = .null := by
  have hlookup : (draft.complete i).lookup key = none := by
    rw [Draft.lookup_complete draft i hkey.1 hkey.2, List.lookup_eq_none_iff]
    intro e he
    obtain ⟨⟨k, value⟩, hmem, hv⟩ := List.mem_filterMap.mp he
    obtain ⟨v, rfl, rfl⟩ := Option.map_eq_some_iff.mp hv
    refine bne_iff_ne.mpr fun heq => hdraft v ?_
    rwa [heq]
  rw [Metadata.get]
  exact congrArg (·.getD .null) hlookup

lemma text?_buildNode (s : Session) (stem label : String) (t : NodeType) (i : Option Invocation)
    {draft : Draft} {key text : String} (hkey : key ≠ "hook" ∧ key ≠ "library")
    (hdraft : draft.lookup key = some (some (.str text))) :
    (buildNode s stem label t i draft).1.text? key = some text := by
  rw [Node.text?, get_buildNode s stem label t i hkey hdraft]
  rfl

/-- A node of any other category stands for nothing in particular. -/
lemma Node.identity?_eq_none {n : Node} {category : String}
    (htext : n.text? "category" = some category) (hcategory : category ∉ sharedCategories) :
    n.identity? = none := by
  simp only [sharedCategories, List.mem_cons, List.not_mem_nil, or_false, not_or] at hcategory
  obtain ⟨hurl, hatom, hzustand, hpinia, hserver⟩ := hcategory
  simp [Node.identity?, htext, Node.sharedAs, hurl, hatom, hzustand, hpinia, hserver]

lemma Node.identity?_eq_some {n : Node} {category : String} {k : Shared}
    (hcategory : n.text? "category" = some category) (hk : n.sharedAs category = some k) :
    n.identity? = some (.shared k) := by
  simp [identity?, hcategory, hk]

lemma Node.sharedAs_atom {n : Node} {atom : String} (h : n.text? "atom_name" = some atom) :
    n.sharedAs "jotai-atom" = some (.atom atom) := by
  rw [sharedAs, if_neg (by decide), if_pos rfl, h]
  rfl

lemma Node.sharedAs_store {n : Node} {category hook : String}
    (hcategory : category ∈ ["zustand-store", "pinia-store"])
    (h : n.text? "store_name" = some hook) : n.sharedAs category = some (.store hook) := by
  simp only [List.mem_cons, List.not_mem_nil, or_false] at hcategory
  have hne : category ≠ "url" ∧ category ≠ "jotai-atom" := by
    obtain rfl | rfl := hcategory <;> decide
  rw [sharedAs, if_neg hne.1, if_neg hne.2, if_pos hcategory, h]
  rfl

/-- Which lists of a node are one does not tell what it stands for. -/
lemma Node.identity?_linked (n : Node) (linked : List (String × String)) :
    { n with linked }.identity? = n.identity? := rfl

lemma identity?_buildNode (s : Session) (stem label : String) (t : NodeType)
    (i : Option Invocation) {draft : Draft} {category : String}
    (hdraft : draft.lookup "category" = some (some (.str category)))
    (hcategory : category ∉ sharedCategories) :
    (buildNode s stem label t i draft).1.identity? = none :=
  Node.identity?_eq_none (text?_buildNode s stem label t i (by decide) hdraft) hcategory

lemma names_buildNode (s : Session) (stem label : String) (t : NodeType) (i : Option Invocation)
    {draft : Draft} {roles : List (String × Role)}
    (hdraft : draft.lookup "variables" = some (some (.ofRoles roles))) {name : String}
    (hname : name ∈ roles.map Prod.fst) : (buildNode s stem label t i draft).1.Names name := by
  obtain ⟨r, hr, rfl⟩ := List.mem_map.mp hname
  exact Node.names_iff.mpr ⟨_, .str r.2.name, get_buildNode s stem label t i (by decide) hdraft,
    List.mem_map.mpr ⟨(r.1, r.2.name), List.mem_map_of_mem hr, rfl⟩⟩

lemma Node.names_linked (n : Node) (linked : List (String × String)) (name : String) :
    { n with linked }.Names name ↔ n.Names name := Iff.rfl

namespace Contribution

/-- A contribution of nodes that calls do not share. -/
structure Plain (c : Contribution) : Prop where
  resources : c.resources = []
  updates : c.updates = []
  nodes : ∀ n ∈ c.nodes, n.identity? = none

lemma plain_empty (handled : Bool) : Plain { handled } := ⟨rfl, rfl, by simp⟩

lemma Plain.addNode {c : Contribution} (h : c.Plain) {n : Node} (hn : n.identity? = none) :
    (c.addNode n).Plain :=
  ⟨h.resources, h.updates,
    List.forall_mem_append.mpr ⟨h.nodes, List.forall_mem_singleton.mpr hn⟩⟩

lemma plain_ofNode {n : Option Node} (hn : ∀ m ∈ n, m.identity? = none) : (ofNode n).Plain :=
  ⟨rfl, rfl, fun m hm => hn m (Option.mem_toList.mp hm)⟩

lemma Plain.registers {c : Contribution} (h : c.Plain) (s : Session) : s.Registers c holds where
  keys := by simp [h.resources]
  nodes := by
    intro n hn m hm
    rw [h.nodes n hn] at hm
    cases hm
  entries := by simp [h.resources]
  held := by simp [h.resources]
  updates := by simp [h.updates]

end Contribution

/-- A processor that binds nothing and whose contributions are of nodes that calls do not share. -/
def Processor.IsPlain (p : Processor) : Prop :=
  ∀ s i, (p.process s i).1.resources = s.resources ∧ ∀ c, (p.process s i).2 = .ok c → c.Plain

/-- A processor that is none of those whose calls share something. -/
lemma Processor.IsPlain.catalogues {p : Processor} (hplain : p.IsPlain)
    (hsharers : sharers.lookup p.id = none) : p.Catalogues := by
  have hid : p.id ≠ "zustand" ∧ p.id ≠ "pinia" := by
    constructor <;> intro heq <;> rw [heq] at hsharers <;> cases hsharers
  intro s i c holder _ _ _ hok _
  obtain ⟨hresources, hc⟩ := hplain s i
  exact
    { resources := hresources
      registers := (hc c hok).registers s
      binds := fun name _ => heldBy_eq_none hid i.hook name
      attached := Outcome.attached_of_lookup hsharers _ _ }

/-! ## Processors whose calls share nothing -/

open Contribution

lemma plain_stateNode (s : Session) (i : Invocation) {category : String} (processor : String)
    (selfWritable : Bool) (hcategory : category ∉ sharedCategories) :
    (stateNode s i category processor selfWritable).2.resources = s.resources ∧
      (ofNode (stateNode s i category processor selfWritable).1).Plain := by
  rw [stateNode]
  cases i.boundRoles with
  | nil => exact ⟨rfl, plain_ofNode (by simp)⟩
  | cons first rest =>
    refine ⟨rfl, plain_ofNode fun m hm => ?_⟩
    obtain rfl := Option.some.inj hm
    exact identity?_buildNode s _ _ _ _ rfl hcategory

lemma plain_derivedNode (s : Session) (i : Invocation) {category : String} (processor : String)
    (dependencies : List String) (hcategory : category ∉ sharedCategories) :
    (derivedNode s i category processor dependencies).2.resources = s.resources ∧
      (ofNode (derivedNode s i category processor dependencies).1).Plain := by
  rw [derivedNode]
  cases i.hook.bound with
  | nil => exact ⟨rfl, plain_ofNode (by simp)⟩
  | cons label rest =>
    refine ⟨rfl, plain_ofNode fun m hm => ?_⟩
    obtain rfl := Option.some.inj hm
    exact identity?_buildNode s _ _ _ _ rfl hcategory

/-- A processor that never fails. -/
lemma Processor.isPlain_of_process {p : Processor}
    {process : Session → Invocation → Session × Contribution}
    (hprocess : p.process = fun s i => ((process s i).1, .ok (process s i).2))
    (hplain : ∀ s i, (process s i).1.resources = s.resources ∧ (process s i).2.Plain) :
    p.IsPlain := by
  intro s i
  rw [hprocess]
  refine ⟨(hplain s i).1, fun c hc => ?_⟩
  obtain rfl := Except.ok.inj hc
  exact (hplain s i).2

lemma Custom.isPlain : Custom.processor.IsPlain := by
  refine Processor.isPlain_of_process rfl fun s i => ⟨rfl, plain_ofNode fun m hm => ?_⟩
  obtain rfl := Option.some.inj hm
  exact identity?_buildNode s _ _ _ _ rfl (by decide)

namespace React

lemma plain_reducerNode (s : Session) (i : Invocation) :
    (reducerNode s i).2.resources = s.resources ∧ (ofNode (reducerNode s i).1).Plain := by
  rw [reducerNode]
  cases i.hook.bound with
  | nil => exact ⟨rfl, plain_ofNode (by simp)⟩
  | cons state rest =>
    refine ⟨rfl, plain_ofNode fun m hm => ?_⟩
    obtain rfl := Option.some.inj hm
    exact (Node.identity?_linked _ _).trans (identity?_buildNode s _ _ _ _ rfl (by decide))

lemma isPlain : processor.IsPlain := by
  refine Processor.isPlain_of_process rfl fun s i => ?_
  simp only [process]
  split
  · exact ⟨rfl, plain_empty true⟩
  split
  · exact plain_stateNode s i _ _ (by decide)
  split
  · exact plain_reducerNode s i
  split
  · refine List.foldlRecOn _ (contextNode i) (motive := fun st : Session × Contribution =>
      st.1.resources = s.resources ∧ st.2.Plain) ⟨rfl, plain_empty true⟩ ?_
    rintro st ⟨hresources, hplain⟩ bound -
    exact ⟨hresources, hplain.addNode (identity?_buildNode _ _ _ _ _ rfl (by decide))⟩
  · exact plain_derivedNode s i _ _ (by decide)

end React

namespace Vue

lemma isPlain : processor.IsPlain := by
  refine Processor.isPlain_of_process rfl fun s i => ?_
  simp only [process]
  split
  · exact plain_stateNode s i _ _ (by decide)
  split
  · exact plain_derivedNode s i _ _ (by decide)
  split
  · refine List.foldlRecOn _ (injectedNode i) (motive := fun st : Session × Contribution =>
      st.1.resources = s.resources ∧ st.2.Plain) ⟨rfl, plain_empty true⟩ ?_
    rintro st ⟨hresources, hplain⟩ name -
    exact ⟨hresources, hplain.addNode (identity?_buildNode _ _ _ _ _ rfl (by decide))⟩
  split
  · refine ⟨rfl, plain_ofNode fun m hm => ?_⟩
    obtain rfl := Option.some.inj hm
    exact identity?_buildNode s _ _ _ _ rfl (by decide)
  · exact ⟨rfl, plain_empty true⟩

end Vue

namespace Svelte

lemma isPlain : processor.IsPlain := by
  refine Processor.isPlain_of_process rfl fun s i => ?_
  simp only [process]
  split
  · exact plain_stateNode s i _ _ (by decide)
  split
  · exact plain_derivedNode s i _ _ (by decide)
  · exact ⟨rfl, plain_empty true⟩

lemma isPlain_store : storeProcessor.IsPlain := by
  refine Processor.isPlain_of_process rfl fun s i => ?_
  simp only [processStore]
  split
  · exact plain_stateNode s i _ _ (by decide)
  split
  · exact plain_stateNode s i _ _ (by decide)
  split
  · exact plain_derivedNode s i _ _ (by decide)
  · exact ⟨rfl, plain_empty true⟩

end Svelte

lemma Stores.isPlain_mobx : mobx.IsPlain := by
  refine Processor.isPlain_of_process rfl fun s i => ?_
  simp only [processMobx]
  split
  · exact plain_stateNode s i _ _ (by decide)
  · exact ⟨rfl, plain_empty true⟩

lemma Forms.isPlain : Forms.processor.IsPlain := by
  intro s i
  change (process s i).1.resources = s.resources ∧ ∀ c, (process s i).2 = .ok c → c.Plain
  rw [process]
  cases ResultShape.find? ResultShape.forms i.hook.name with
  | none => exact ⟨rfl, by simp⟩
  | some shape =>
    refine ⟨rfl, fun c hc => ?_⟩
    obtain rfl := Except.ok.inj hc
    refine plain_ofNode fun m hm => ?_
    obtain rfl := Option.some.inj hm
    exact identity?_buildNode s _ _ _ _ rfl (by decide)

end ComponentFlow
