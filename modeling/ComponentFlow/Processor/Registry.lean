import ComponentFlow.Processor.Basic

/-!
# Registries

Processors in the order in which they are asked: higher priority first, and of equal priority the
one registered first. The first one that accepts a call gets it, and no other one sees it. A fault
of a processor, or of its contribution, is noted, and the analysis goes on.
-/

namespace ComponentFlow

/-- Registered processors, in the order of registration. -/
structure Registry where
  entries : List Processor := []
  deriving Inhabited

/-- What became of one call. -/
structure Outcome where
  hook : String
  processor : String
  handled : Bool
  nodes : List String := []
  error : Option String := none
  deriving Repr, DecidableEq, Inhabited

namespace Registry

/-- The message for an id that is taken. -/
def alreadyRegistered (id : String) : String :=
  "Processor '" ++ id ++ "' is already registered"

/-- The message for a call that no processor accepts. -/
def unaccepted (hook : String) : String :=
  "No processor accepts hook '" ++ hook ++ "'"

/-- Registers a processor with a new id. -/
def register (r : Registry) (p : Processor) : Except String Registry :=
  if r.entries.any (·.id == p.id) then .error (alreadyRegistered p.id)
  else .ok { entries := r.entries ++ [p] }

/-- The registry of several processors. -/
def ofList (processors : List Processor) : Except String Registry :=
  processors.foldlM register {}

/-- The processors in the order in which they are asked. -/
def ordered (r : Registry) : List Processor :=
  r.entries.mergeSort fun p q => decide (q.priority ≤ p.priority)

/-- The processor with an id. -/
def get? (r : Registry) (id : String) : Option Processor :=
  r.entries.find? (·.id == id)

/-- The processors that accept a call, in order. -/
def accepting (r : Registry) (i : Invocation) (framework : Option String) : List Processor :=
  r.ordered.filter (·.accepts i framework)

/-- The processor that gets a call. -/
def select? (r : Registry) (i : Invocation) (framework : Option String) : Option Processor :=
  r.ordered.find? (·.accepts i framework)

/-- Notes that a processor failed on a call. -/
def fail (s : Session) (p : Processor) (h : Hook) (message : String) : Session × Outcome :=
  ((s.record .warning "processors.registry"
      ("Processor " ++ p.id ++ " failed on " ++ h.name ++ ": " ++ message)).noteFault
    ⟨p.id, h.name, message⟩,
   { hook := h.name, processor := p.id, handled := false, error := some message })

/-- Gives a call to a processor and commits its contribution. -/
def handOver (s : Session) (p : Processor) (i : Invocation) : Session × Outcome :=
  let s := s.record .debug "processors.registry"
    ("Dispatching " ++ i.hook.name ++ " to " ++ p.id)
  match p.process s i with
  | (s, .error message) => fail s p i.hook message
  | (s, .ok c) =>
    match s.commit c with
    | (s, some e) => fail s p i.hook e.message
    | (s, none) =>
      (s, { hook := i.hook.name, processor := p.id, handled := c.handled
            nodes := c.nodes.map (·.id) })

/-- Routes a call to its processor; none if no processor accepts it. -/
def dispatch? (r : Registry) (s : Session) (i : Invocation) : Option (Session × Outcome) :=
  (r.select? i s.component.framework).map fun p => handOver s p i

end Registry

end ComponentFlow
