import ComponentFlow.Text.Case
import ComponentFlow.Text.Names

/-!
# Naming conventions

What the name of a variable, an attribute, a prop or a package tells about it. Names of functions
start with a verb, event attributes follow the conventions of the frameworks, and relative paths
are no packages.
-/

namespace ComponentFlow

/-- Verbs and words at the start of function names. -/
def functionPrefixes : List String :=
  ["on", "handle", "set", "get", "update", "delete", "create", "fetch", "load", "toggle", "is",
   "has", "can", "should"]

/-- Names that are functions as they stand. -/
def functionNames : List String :=
  ["increment", "decrement", "dispatch", "navigate", "logout", "login", "submit", "reset", "clear"]

/-- Verbs at the start of the names of store members that change the store. -/
def actionPrefixes : List String :=
  ["set", "update", "add", "remove", "delete", "create", "fetch", "load", "save", "clear", "reset",
   "toggle", "increment", "decrement", "increase", "decrease", "push", "pop", "shift", "unshift",
   "handle", "on", "dispatch"]

/-- Prefixes and names of functions besides the usual ones. -/
structure Naming where
  prefixes : List String := []
  names : List String := []
  deriving Repr, DecidableEq, Inhabited

/-- Characters that start the next word of a name after a verb. -/
def startsWord (c : Char) : Bool :=
  c.isUpper || c.isDigit || c == '_'

/-- Whether a name consists of the given start and at least one further word. -/
def hasVerb (name start : String) : Bool :=
  match Text.afterStart? start.toList name.toList with
  | some (c :: _) => startsWord c
  | _ => false

/-- Whether a name reads like that of a function. -/
def Naming.isFunctionName (naming : Naming) (name : String) : Bool :=
  functionNames.contains name || naming.names.contains name ||
    (functionPrefixes ++ naming.prefixes).any (hasVerb name)

/-- Whether the name of a store member reads like an action on the store. -/
def looksLikeAction (name : String) : Bool :=
  actionPrefixes.any (Text.startsWith (Text.lower name))

/-- Characters of event names after an at sign or a directive. -/
def isEventChar (c : Char) : Bool :=
  Text.isWord c || c == '.' || c == '-'

/-- Whether the text is not empty and all its characters satisfy `p`. -/
def someAll (p : Char → Bool) (s : List Char) : Bool :=
  !s.isEmpty && s.all p

/-- Whether the text has the form of an event attribute. -/
def isEventForm (s : List Char) : Bool :=
  match s with
  | '@' :: rest => someAll isEventChar rest
  | 'o' :: 'n' :: ':' :: rest => someAll Text.isWord rest
  | 'o' :: 'n' :: c :: rest =>
    (c.isUpper && rest.all Text.isWord) || (c :: rest).all Char.isLower
  | _ =>
    match Text.afterStart? "v-on:".toList s with
    | some rest => someAll isEventChar rest
    | none => false

/-- Whether an attribute is an event handler: `onClick`, `onclick`, `on:click`, `@click` or
`v-on:click`. A line break at the end is overlooked. -/
def isEventAttribute (name : String) : Bool :=
  isEventForm (Text.withoutFinalBreak name.toList)

/-- Whether an attribute binds a value in both directions. -/
def isTwoWayAttribute (name : String) : Bool :=
  name == "v-model" || Text.startsWith name "bind:" || Text.startsWith name "v-model:"

/-- Whether a prop is named like a callback: `on` and a capital letter. -/
def isCallbackName (name : String) : Bool :=
  match name.toList with
  | 'o' :: 'n' :: c :: _ => c.isUpper
  | _ => false

/-- Starts of import sources that are modules of the project itself. -/
def localImports : List String := [".", "/", "@/", "~/", "$lib/"]

/-- Whether an import source names an installed package. -/
def isPackageName (library : Option String) : Bool :=
  match library with
  | none => false
  | some name => name != "" && !localImports.any (Text.startsWith name)

/-- Whether two variables are named like a value and its setter: `count` and `setCount`. -/
def isReadWritePair (read write : Option String) : Bool :=
  match read, write with
  | some r, some w => r != "" && w != "" && w == "set" ++ Text.capitalize r
  | _, _ => false

end ComponentFlow
