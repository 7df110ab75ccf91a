import ComponentFlow.Proofs.Untouched

/-!
# Servers behind calls

The node of a call for remote data carries a note: the server behind the call and its endpoint
(`Noted`). Calls of built-in processors are noted when they are handled, and the note stays as it
is, since no later call is about that node (`notedAll_step`).

Two calls have the same server exactly if they have the same endpoint, with one exception: the
server that configuration hooks refer to goes by a star, and so does the server of an endpoint that
is named by a star (`dispatchAll_servers`).
-/

namespace ComponentFlow

open Session

variable {holder : String → Option String} {s : Session}

namespace Remote

/-- The processors for remote data, with the endpoint behind a call. -/
def targets : List (String × (Hook → Option (Option String))) :=
  [("swr", target ["useSWRConfig"] Hook.firstLiteral),
   ("tanstack-query", target [] Hook.firstLiteral),
   ("apollo", target [] fun h => h.firstIdentifier.or h.firstLiteral),
   ("rtk-query", target [] rtkEndpoint),
   ("trpc", target [] trpcEndpoint)]

/-- Whether the node of a call carries the note about the server behind it: its endpoint, if it has
one, and the id of a node for that server. Without a known server there is no such note. -/
def Noted (nodes : List Node) (n : Node) : Option (Option String) → Prop
  | none => n.text? "server_node_id" = none
  | some endpoint => n.text? "endpoint" = endpoint ∧ ∃ server ∈ nodes,
      n.text? "server_node_id" = some server.id ∧
        server.identity? = some (.shared (.server (endpoint.getD "*")))

lemma Noted.mono {nodes nodes' : List Node} {n : Node} {endpoint : Option (Option String)}
    (h : Noted nodes n endpoint) (hnodes : ∀ m ∈ nodes, ∃ m' ∈ nodes', m'.Enriches m) :
    Noted nodes' n endpoint := by
  cases endpoint with
  | none => exact h
  | some endpoint =>
    obtain ⟨hendpoint, server, hserver, hnote, hidentity⟩ := h
    obtain ⟨server', hserver', henriches⟩ := hnodes server hserver
    exact ⟨hendpoint, server', hserver', henriches.id ▸ hnote, henriches.identity.trans hidentity⟩

/-! ## One call -/

/-- Whether a contribution starts with the node of a call, which carries the note. -/
def Opens (s : Session) (c : Contribution) (endpoint : Option (Option String)) : Prop :=
  ∃ n rest, c.nodes = n :: rest ∧ n.identity? = none ∧
    Noted (s.diagram.nodes ++ c.nodes) n endpoint

lemma text?_callNode_eq_none (id : String) (shape : ResultShape) (i : Invocation) (s : Session)
    {key : String} (hkey : key ∈ ["endpoint", "server_node_id"]) :
    (callNode id shape i s).1.text? key = none := by
  have hnull : (callNode id shape i s).1.metadata.get key = .null := by
    refine get_buildNode_null s _ _ _ _ ?_ ?_
    · revert key
      decide
    · intro v hv
      simp only [List.mem_cons, List.not_mem_nil, or_false] at hkey
      obtain rfl | rfl := hkey <;> simp [ResultShape.summary] at hv
  rw [Node.text?, hnull]
  rfl

lemma text?_noteServer_server (endpoint : Option String) (server : String) (n : Node) :
    (noteServer endpoint server n).text? "server_node_id" = some server := by
  have hset : ((n.metadata.set "server_node_id" (.str server)).get "server_node_id").asText? =
      some server := by
    rw [Metadata.get_set_self]
    rfl
  cases endpoint with
  | none => exact hset
  | some e =>
    exact (congrArg Value.asText? (Metadata.get_set_of_ne _ _ (by decide))).trans hset

lemma text?_noteServer_endpoint {n : Node} (h : n.text? "endpoint" = none)
    (endpoint : Option String) (server : String) :
    (noteServer endpoint server n).text? "endpoint" = endpoint := by
  cases endpoint with
  | none =>
    exact (congrArg Value.asText? (Metadata.get_set_of_ne n.metadata _ (by decide))).trans h
  | some e => exact congrArg Value.asText? (Metadata.get_set_self _ _ _)

/-- The node of a call is the first one, and it is noted which server was found or made. -/
lemma opens_linkServer (hs : s.Sound) (hcatalogued : s.Catalogued holder) (dialect : Dialect)
    (shape : ResultShape) (endpoint : Option String) (id : String) (i : Invocation) :
    Opens s (linkServer dialect shape endpoint (callNode id shape i s).1
      (callNode id shape i s).2).2 (some endpoint) := by
  have hfound : Found s _ endpoint (fun _ => none) _ :=
    found_server hs hcatalogued endpoint id shape i
  have hcategory := text?_callNode id shape i s
  generalize hshared : (callNode id shape i s).2.sharedNode _ _ _ = found at hfound
  -- which edge is added does not matter for the nodes
  have hnodes : (linkServer dialect shape endpoint (callNode id shape i s).1
      (callNode id shape i s).2).2.nodes = (found.2.1.modifyNode (callNode id shape i s).1.id
        (noteServer endpoint found.1.id)).nodes := by
    simp only [linkServer, hshared]
    cases shape.operation <;> exact Contribution.nodes_addEdge _ _
  obtain ⟨rest, hrest⟩ := hfound.first
  have hfirst : (linkServer dialect shape endpoint (callNode id shape i s).1
      (callNode id shape i s).2).2.nodes =
        noteServer endpoint found.1.id (callNode id shape i s).1 ::
          rest.map fun n => if n.id == (callNode id shape i s).1.id then
            noteServer endpoint found.1.id n else n := by
    rw [hnodes, Contribution.modifyNode, ← hrest]
    simp
  have hunnoted : (callNode id shape i s).1.text? "endpoint" = none :=
    text?_callNode_eq_none id shape i s (by simp)
  refine ⟨_, _, hfirst, ?_, text?_noteServer_endpoint hunnoted endpoint _, found.1, ?_,
    text?_noteServer_server endpoint _ _, hfound.identity⟩
  · rw [identity?_noteServer hcategory]
    exact Node.identity?_eq_none hcategory (by decide)
  · refine List.mem_append.mpr ((List.mem_append.mp hfound.server).imp_right fun hmem => ?_)
    rw [hnodes]
    refine List.mem_map.mpr ⟨found.1, hmem, if_neg fun heq => ?_⟩
    exact hfound.apart (eq_of_beq heq).symm

lemma Queries.opens {p : Processor} {configuration : List String}
    {endpoint : Hook → Option String} (h : Queries p configuration endpoint) (hs : s.Sound)
    (hcatalogued : s.Catalogued holder) {i : Invocation} {c : Contribution}
    (hok : (p.process s i).2 = .ok c) : Opens s c (target configuration endpoint i.hook) := by
  obtain ⟨info, dialect, rfl, rfl, hshapes⟩ := h
  change (process info.id dialect s i).2 = .ok c at hok
  obtain ⟨shape, hshape, -, rfl⟩ := process_eq_ok hok
  obtain ⟨e, htarget, heq⟩ | ⟨htarget, -, heq⟩ :=
    processShaped_cases info.id dialect s (hshapes i.hook shape hshape)
  · rw [htarget, heq]
    exact opens_linkServer hs hcatalogued dialect shape e info.id i
  · rw [htarget, heq]
    exact ⟨_, [], rfl, Node.identity?_eq_none (text?_callNode info.id shape i s) (by decide),
      text?_callNode_eq_none info.id shape i s (by simp)⟩

lemma exists_queries_of_targets : ∀ p ∈ builtinProcessors, ∀ endpoint,
    targets.lookup p.id = some endpoint →
      ∃ configuration named, Queries p configuration named ∧
        endpoint = target configuration named := by
  simp only [builtinProcessors, List.forall_mem_cons]
  refine ⟨?_, ?_, ?_, ?_, ?_, ?swr, ?tanstackQuery, ?apollo, ?rtkQuery, ?trpc, ?_, ?_, ?_, ?_, ?_,
    ?_, ?_, ?_, ?_, ?_, by simp⟩
  case swr => exact fun _ h => ⟨_, _, queries_swr, (Option.some.inj h).symm⟩
  case tanstackQuery => exact fun _ h => ⟨_, _, queries_tanstackQuery, (Option.some.inj h).symm⟩
  case apollo => exact fun _ h => ⟨_, _, queries_apollo, (Option.some.inj h).symm⟩
  case rtkQuery => exact fun _ h => ⟨_, _, queries_rtkQuery, (Option.some.inj h).symm⟩
  case trpc => exact fun _ h => ⟨_, _, queries_trpc, (Option.some.inj h).symm⟩
  all_goals exact fun _ h => nomatch h

/-! ## All calls -/

/-- Whether the nodes of the calls for remote data carry the notes about the servers behind them. -/
def NotedAll (calls : List (Invocation × Outcome)) (s : Session) : Prop :=
  ∀ call ∈ calls, ∀ endpoint, targets.lookup call.2.processor = some endpoint →
    ∃ n ∈ s.diagram.nodes, call.2.nodes.head? = some n.id ∧ n.identity? = none ∧
      Noted s.diagram.nodes n (endpoint call.1.hook)

/-- A call is noted, and the notes about earlier calls stay. -/
lemma notedAll_step (calls : List (Invocation × Outcome)) (s : Session)
    (holder : String → Option String) (p : Processor) (i : Invocation) (c : Contribution)
    (hs : s.Sound) (hcatalogued : s.Catalogued holder) (hp : p ∈ builtinProcessors)
    (hstep : Registry.Step s p i holder c) (hcalls : NotedAll calls s) :
    NotedAll (calls ++ [(i, Registry.served p i c)]) (Registry.handOver s p i).1 := by
  have hwithin : ∀ m ∈ s.diagram.nodes ++ c.nodes,
      ∃ m' ∈ (Registry.handOver s p i).1.diagram.nodes, m'.Enriches m := by
    intro m hm
    obtain ⟨m', hm', henriches, -⟩ := hstep.registers.exists_amended hs hstep.offers hm
    exact ⟨m', hstep.diagram ▸ hm', henriches⟩
  -- the node of a call stands for nothing that calls share
  have hkept {n : Node} (hn : n ∈ s.diagram.nodes ++ c.nodes) (hnone : n.identity? = none) :
      n ∈ (Registry.handOver s p i).1.diagram.nodes :=
    hstep.mem_nodes hs hn fun k _ => by simp [hnone]
  intro call hcall endpoint hendpoint
  obtain hcall | hcall := List.mem_append.mp hcall
  · obtain ⟨n, hn, hid, hnone, hnoted⟩ := hcalls call hcall endpoint hendpoint
    exact ⟨n, hkept (List.mem_append_left _ hn) hnone, hid, hnone,
      hnoted.mono fun m hm => hwithin m (List.mem_append_left _ hm)⟩
  · obtain rfl := List.mem_singleton.mp hcall
    obtain ⟨configuration, named, hqueries, rfl⟩ := exists_queries_of_targets p hp _ hendpoint
    obtain ⟨n, rest, hnodes, hnone, hnoted⟩ :=
      hqueries.opens (hs.record _ _ _) (hcatalogued.record _ _ _) hstep.process
    have hn : n ∈ s.diagram.nodes ++ c.nodes :=
      List.mem_append_right _ (hnodes ▸ List.mem_cons_self)
    refine ⟨n, hkept hn hnone, ?_, hnone, hnoted.mono hwithin⟩
    simp [Registry.served, hnodes]

/-- Whether the node of a call carries the note of a server, with this endpoint. -/
def ServedBy (d : Diagram) (call : Outcome) (endpoint : Option String) (server : Node) : Prop :=
  ∃ n ∈ d.nodes, call.nodes.head? = some n.id ∧ n.text? "endpoint" = endpoint ∧
    server ∈ d.nodes ∧ n.text? "server_node_id" = some server.id

/-- The server that a call carries the note of is the one for the endpoint. -/
lemma identity_of_servedBy {calls : List (Invocation × Outcome)} (hs : s.Sound)
    (hcalls : NotedAll calls s) {call : Invocation × Outcome} (hcall : call ∈ calls)
    (hremote : (targets.lookup call.2.processor).isSome = true) {endpoint : Option String}
    {server : Node} (h : ServedBy s.diagram call.2 endpoint server) :
    server ∈ s.diagram.nodes ∧
      server.identity? = some (.shared (.server (endpoint.getD "*"))) := by
  obtain ⟨target, htarget⟩ := Option.isSome_iff_exists.mp hremote
  obtain ⟨n, hn, hid, -, hnoted⟩ := hcalls call hcall target htarget
  obtain ⟨n', hn', hid', hendpoint, hserver, hnote⟩ := h
  obtain rfl : n = n' := Diagram.eq_of_id hs.coherent.ids_nodup hn hn'
    (Option.some.inj (hid.symm.trans hid'))
  cases hknown : target call.1.hook with
  | none =>
    rw [hknown] at hnoted
    change n.text? "server_node_id" = none at hnoted
    rw [hnoted] at hnote
    cases hnote
  | some known =>
    rw [hknown] at hnoted
    obtain ⟨hknown', server', hserver', hnote', hidentity⟩ := hnoted
    obtain rfl : known = endpoint := hknown'.symm.trans hendpoint
    obtain rfl : server' = server := Diagram.eq_of_id hs.coherent.ids_nodup hserver' hserver
      (Option.some.inj (hnote'.symm.trans hnote))
    exact ⟨hserver, hidentity⟩

lemma getD_star_eq_iff {e e' : Option String} : e.getD "*" = e'.getD "*" ↔
    e = e' ∨ (e = none ∧ e' = some "*") ∨ (e = some "*" ∧ e' = none) := by
  cases e <;> cases e' <;> simp [eq_comm]

end Remote

namespace Analyzer

open Remote

/-- **Servers.** Whatever hooks are dispatched with any selection of built-in processors that
discovery accepts, the node of every call for remote data carries the note about the server behind
it, if that is known. Two such nodes have the same server exactly if they have the same endpoint,
or if one is that of a configuration hook, without endpoint, and the endpoint of the other is named
by a star. -/
theorem dispatchAll_servers (component : Component) (atoms : List Atom) (sel : Selection)
    (ps : List Processor) (hsel : discover sel [] = .ok ps) (is : List Invocation) :
    createRegistry sel [] = .ok ⟨ps⟩ ∧ ∃ s outcomes,
      dispatchAll ⟨ps⟩ (Session.start component atoms) is = (s, .ok outcomes) ∧
      outcomes.map (·.hook) = is.map (·.hook.name) ∧
      (∀ call ∈ is.zip outcomes, ∀ endpoint, targets.lookup call.2.processor = some endpoint →
        ∃ n ∈ s.diagram.nodes, call.2.nodes.head? = some n.id ∧
          Noted s.diagram.nodes n (endpoint call.1.hook)) ∧
      ∀ call ∈ is.zip outcomes, ∀ call' ∈ is.zip outcomes,
        (targets.lookup call.2.processor).isSome = true →
        (targets.lookup call'.2.processor).isSome = true →
        ∀ e e' server server', ServedBy s.diagram call.2 e server →
          ServedBy s.diagram call'.2 e' server' →
          (server = server' ↔
            e = e' ∨ (e = none ∧ e' = some "*") ∨ (e = some "*" ∧ e' = none)) := by
  obtain ⟨hregistry, hbuiltin, hcustom⟩ := createRegistry_builtin hsel
  obtain ⟨s, outcomes, hall⟩ := exists_dispatchAll hcustom (Session.start component atoms) is
  obtain ⟨hs, ⟨holder, hcatalogued⟩, hcalls⟩ := dispatchAll_induction hbuiltin (P := NotedAll)
    notedAll_step (sound_start component atoms []) (catalogued_start component atoms [])
    (by simp [NotedAll]) hall
  refine ⟨hregistry, s, outcomes, hall, hooks_dispatchAll hall, ?_, ?_⟩
  · intro call hcall endpoint hendpoint
    obtain ⟨n, hn, hid, -, hnoted⟩ := hcalls call hcall endpoint hendpoint
    exact ⟨n, hn, hid, hnoted⟩
  · intro call hcall call' hcall' hremote hremote' e e' server server' hserved hserved'
    obtain ⟨hserver, hidentity⟩ := identity_of_servedBy hs hcalls hcall hremote hserved
    obtain ⟨hserver', hidentity'⟩ := identity_of_servedBy hs hcalls hcall' hremote' hserved'
    rw [← getD_star_eq_iff]
    constructor
    · rintro rfl
      simpa [hidentity] using hidentity'
    · intro heq
      rw [heq] at hidentity
      exact hcatalogued.eq_of_identity hs hserver hserver' hidentity hidentity'

/-- A selection that enables one library for remote data. -/
def swrOnly : Selection := { enabled := ["swr"] }

lemma discover_swrOnly : discover swrOnly [] = .ok [Remote.swr, Custom.processor] := by
  refine discover_builtin_iff.mpr ⟨rfl, ?_⟩
  decide +kernel

/-- A component that shows a feed. -/
def feed : Component := { name := "Feed", framework := some "react" }

/-- The call of a configuration hook. -/
def configCall : Invocation :=
  { hook := { name := "useSWRConfig", bound := ["mutate"], binding := .object } }

/-- A query whose endpoint is named by a star. -/
def starCall : Invocation :=
  { hook := { name := "useSWR", bound := ["data"], binding := .object
              arguments := [⟨.literal, some "*"⟩] } }

lemma exists_run_starCall : ∃ s outcomes,
    dispatchAll ⟨[Remote.swr, Custom.processor]⟩ (Session.start feed []) [configCall, starCall] =
      (s, .ok outcomes) ∧ outcomes.map (·.processor) = ["swr", "swr"] := by
  have hselect : ∀ h framework, Registry.select? ⟨[Remote.swr, Custom.processor]⟩ h framework =
      [Remote.swr, Custom.processor].find? (·.accepts h framework) :=
    Registry.select?_of_pairwise (by decide)
  refine ⟨_, _, dispatchAll_cons_eq_ok_iff.mpr ⟨Remote.swr, _, hselect _ _,
    dispatchAll_cons_eq_ok_iff.mpr ⟨Remote.swr, [], hselect _ _, rfl, rfl⟩, rfl⟩, ?_⟩
  decide +kernel

/-- The two calls have different endpoints, and one server. -/
theorem dispatchAll_servers_star : ∃ s outcomes,
    dispatchAll ⟨[Remote.swr, Custom.processor]⟩ (Session.start feed []) [configCall, starCall] =
      (s, .ok outcomes) ∧ ∃ first second server, outcomes = [first, second] ∧
        ServedBy s.diagram first none server ∧ ServedBy s.diagram second (some "*") server := by
  obtain ⟨-, s, outcomes, hall, -, hnoted, hservers⟩ :=
    dispatchAll_servers feed [] swrOnly _ discover_swrOnly [configCall, starCall]
  obtain ⟨s', outcomes', hall', hprocessors⟩ := exists_run_starCall
  obtain ⟨rfl, houtcomes⟩ := Prod.mk.inj (hall'.symm.trans hall)
  obtain rfl := Except.ok.inj houtcomes
  obtain ⟨first, rest, rfl, hfirst, hrest⟩ := List.map_eq_cons_iff.mp hprocessors
  obtain ⟨second, rest, rfl, hsecond, hnil⟩ := List.map_eq_cons_iff.mp hrest
  obtain rfl := List.map_eq_nil_iff.mp hnil
  have hmem : (configCall, first) ∈ [configCall, starCall].zip [first, second] := by simp
  have hmem' : (starCall, second) ∈ [configCall, starCall].zip [first, second] := by simp
  have hlookup : targets.lookup first.processor =
      some (target ["useSWRConfig"] Hook.firstLiteral) := by
    rw [hfirst]
    rfl
  have hlookup' : targets.lookup second.processor =
      some (target ["useSWRConfig"] Hook.firstLiteral) := by
    rw [hsecond]
    rfl
  obtain ⟨n, hn, hid, hendpoint, server, hserver, hnote, -⟩ :=
    hnoted (configCall, first) hmem _ hlookup
  obtain ⟨n', hn', hid', hendpoint', server', hserver', hnote', -⟩ :=
    hnoted (starCall, second) hmem' _ hlookup'
  have hserved : ServedBy s'.diagram first none server := ⟨n, hn, hid, hendpoint, hserver, hnote⟩
  have hserved' : ServedBy s'.diagram second (some "*") server' :=
    ⟨n', hn', hid', hendpoint', hserver', hnote'⟩
  obtain rfl : server = server' := (hservers _ hmem _ hmem' (by simp [hlookup]) (by simp [hlookup'])
    _ _ _ _ hserved hserved').mpr (.inr (.inl ⟨rfl, rfl⟩))
  exact ⟨s', _, hall', first, second, server, rfl, hserved, hserved'⟩

end Analyzer

end ComponentFlow
