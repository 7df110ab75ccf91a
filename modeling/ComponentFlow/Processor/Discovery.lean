import ComponentFlow.Processor.Custom
import ComponentFlow.Processor.Forms
import ComponentFlow.Processor.Jotai
import ComponentFlow.Processor.Navigation
import ComponentFlow.Processor.React
import ComponentFlow.Processor.Registry
import ComponentFlow.Processor.Remote
import ComponentFlow.Processor.Stores
import ComponentFlow.Processor.Svelte
import ComponentFlow.Processor.Vue

/-!
# Discovery

Which processors take part in an analysis: the built-in ones and installed extensions, restricted to
those that are enabled, without those that are disabled. Names are compared without regard to case.
The processor for all other hooks always takes part.
-/

namespace ComponentFlow

/-- What an extension provides. -/
inductive ExtensionContent where
  | processor (p : Processor)
  /-- A value that is no processor and does not make one. -/
  | unusable
  /-- The extension cannot be loaded. -/
  | broken (message : String)

/-- An installed extension. -/
structure Extension where
  name : String
  content : ExtensionContent

/-- Why processors cannot be collected. -/
inductive DiscoveryError where
  | notLoaded (name message : String)
  | notAProcessor
  | unknownNames (names : List String)
  | alreadyRegistered (message : String)
  deriving Repr, DecidableEq, Inhabited

/-- The message for a discovery error. -/
def DiscoveryError.message : DiscoveryError → String
  | notLoaded name message =>
    "Failed to load processor entry point '" ++ name ++ "': " ++ message
  | notAProcessor => "Processor entry point must be a Processor subclass or factory"
  | unknownNames names => "Unknown processors requested: " ++ ", ".intercalate names
  | alreadyRegistered message => message

/-- The built-in processors. Of processors with equal priority the first one is asked first. -/
def builtinProcessors : List Processor :=
  [React.processor, Vue.processor, Svelte.processor, Stores.pinia, Stores.zustand, Remote.swr,
   Remote.tanstackQuery, Remote.apollo, Remote.rtkQuery, Remote.trpc, Jotai.processor,
   Navigation.next.processor, Navigation.reactRouter.processor,
   Navigation.tanstackRouter.processor, Forms.processor, Stores.mobx,
   Navigation.vueRouter.processor, Svelte.storeProcessor, Navigation.svelteKit.processor,
   Custom.processor]

/-- The id of the processor that always takes part. -/
def requiredProcessor : String := Custom.info.id

/-- Which processors are asked for. -/
structure Selection where
  enabled : List String := []
  disabled : List String := []
  deriving Repr, DecidableEq, Inhabited

namespace Selection

/-- The enabled names, in lower case; none if there is no restriction. -/
def allowed (sel : Selection) : Option (List String) :=
  if sel.enabled.isEmpty then none
  else some (Text.distinct (sel.enabled.map Text.lower ++ [requiredProcessor]))

/-- The disabled names, in lower case. -/
def forbidden (sel : Selection) : List String :=
  (sel.disabled.map Text.lower).filter (· != requiredProcessor)

/-- Whether a name in lower case is asked for. -/
def admits (sel : Selection) (key : String) : Bool :=
  !sel.forbidden.contains key && sel.allowed.all (·.contains key)

end Selection

/-- Processors collected so far, with the names they were found under. -/
structure Collected where
  processors : List Processor := []
  seen : List String := []

/-- Adds a processor under its name, if the name is asked for and new. -/
def Collected.add (sel : Selection) (c : Collected) (name : String)
    (content : Except DiscoveryError Processor) : Except DiscoveryError Collected :=
  let key := Text.lower name
  if c.seen.contains key || !sel.admits key then .ok c
  else content.map fun p => { processors := c.processors ++ [p], seen := c.seen ++ [key] }

/-- Adds an extension. It is loaded whether it is asked for or not. -/
def Collected.addExtension (sel : Selection) (c : Collected) (e : Extension) :
    Except DiscoveryError Collected :=
  match e.content with
  | .broken message => .error (.notLoaded e.name message)
  | .unusable => c.add sel e.name (.error .notAProcessor)
  | .processor p => c.add sel e.name (.ok p)

/-- The processors that take part. -/
def discover (sel : Selection) (extensions : List Extension) :
    Except DiscoveryError (List Processor) := do
  let builtin ← builtinProcessors.foldlM (fun c p => Collected.add sel c p.id (.ok p)) {}
  let all ← extensions.foldlM (Collected.addExtension sel) builtin
  let missing := (sel.allowed.getD []).filter fun name => !all.seen.contains name
  if missing.isEmpty then return all.processors
  else throw (.unknownNames (missing.mergeSort fun a b => decide (a ≤ b)))

/-- The registry of the processors that take part. -/
def createRegistry (sel : Selection) (extensions : List Extension) :
    Except DiscoveryError Registry := do
  let processors ← discover sel extensions
  match Registry.ofList processors with
  | .ok r => return r
  | .error message => throw (.alreadyRegistered message)

end ComponentFlow
