import ComponentFlow.Hook.Invocation
import ComponentFlow.Session
import ComponentFlow.Text.Glob

/-!
# Processors

A processor knows the hooks of one framework or library and turns a call into a contribution. It is
chosen by the name of the hook, by the package the hook is imported from and by the framework of
the component. It holds no state: what calls share lies in the session.
-/

namespace ComponentFlow

/-- Hook names a processor knows: a fixed name, or names with a fixed start and end and a run of
characters of one class between them. -/
inductive NamePattern where
  | exactly (name : String)
  | between (starts : List String) (inner : Char → Bool) (least : Nat) (tail : String)

/-- Whether a name fits a pattern as a whole. -/
def NamePattern.fits (p : NamePattern) (name : String) : Bool :=
  match p with
  | exactly n => n == name
  | between starts inner least tail =>
    starts.any fun start =>
      match (Text.afterStart? start.toList name.toList).bind (Text.beforeEnd? tail.toList) with
      | some middle => least ≤ middle.length && middle.all inner
      | none => false

/-- Patterns for fixed names. -/
def NamePattern.names (names : List String) : List NamePattern :=
  names.map .exactly

/-- Who a processor is and what it is responsible for. -/
structure ProcessorInfo where
  id : String
  library : String
  packages : List String := []
  hooks : List NamePattern := []
  priority : Int := 50
  description : String := ""
  frameworks : List String := []

namespace ProcessorInfo

/-- Whether the processor is responsible for a framework. Without frameworks it is for all, and a
component of unknown framework is for all processors. -/
def appliesTo (p : ProcessorInfo) (framework : Option String) : Bool :=
  p.frameworks.isEmpty || framework.all p.frameworks.contains

/-- Whether the processor knows hooks of a name. -/
def handlesName (p : ProcessorInfo) (name : String) : Bool :=
  p.hooks.any (·.fits name)

/-- Whether the processor knows a package. -/
def handlesPackage (p : ProcessorInfo) (library : String) : Bool :=
  p.packages.any (Text.globMatches · library)

/-- Whether the processor is responsible for a hook call. The package counts only if both the call
and the processor name one. -/
def accepts (p : ProcessorInfo) (h : Hook) (framework : Option String) : Bool :=
  p.appliesTo framework && p.handlesName h.name &&
    (if !p.packages.isEmpty && isPackageName h.library then
       p.handlesPackage (h.library.getD "")
     else true)

end ProcessorInfo

/-- A processor: who it is, which calls it accepts, and what it makes of a call. Unless it says
otherwise it accepts calls by their hook, whatever its variables are taken for. Processing may fail
with a message; ids that were taken and records that were written before stay. -/
structure Processor where
  info : ProcessorInfo
  accepts : Invocation → Option String → Bool := fun i => info.accepts i.hook
  process : Session → Invocation → Session × Except String Contribution

instance : Inhabited Processor :=
  ⟨{ info := { id := "", library := "" }, process := fun s _ => (s, .ok {}) }⟩

/-- The id of a processor. -/
def Processor.id (p : Processor) : String := p.info.id

/-- The priority of a processor. -/
def Processor.priority (p : Processor) : Int := p.info.priority

/-- Entries of a record that may be missing. -/
abbrev Draft := List (String × Option Value)

/-- A text as an entry, if there is one. -/
def Draft.text (s : Option String) : Option Value :=
  s.map .str

/-- The entries that are there, followed by where they come from. -/
def Draft.complete (draft : Draft) (invocation : Option Invocation) : Metadata :=
  let given : Metadata := draft.filterMap fun e => e.2.map (e.1, ·)
  match invocation with
  | none => given
  | some i =>
    let named := given.setDefault "hook" (.str i.hook.name)
    match i.hook.library with
    | some library => if library == "" then named else named.setDefault "library" (.str library)
    | none => named

/-- A new node with a new id. -/
def buildNode (s : Session) (stem label : String) (type : NodeType)
    (invocation : Option Invocation) (draft : Draft) : Node × Session :=
  let (id, s) := s.nextId stem
  ({ id, label, type := type.name
     position := invocation.bind (·.hook.position)
     metadata := draft.complete invocation }, s)

end ComponentFlow
