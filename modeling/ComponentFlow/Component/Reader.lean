import ComponentFlow.Assoc
import ComponentFlow.Component.Basic
import ComponentFlow.Component.Fault
import ComponentFlow.Text.Blank
import ComponentFlow.Text.Names

/-!
# Reading the parts of a component

Readers for the parts of a component description apart from the rendered markup. Each reads its
fields in a fixed order, and the first field at fault decides the failure.
-/

namespace ComponentFlow.Reader

/-- What a reader gives: a part of a component, or a failure. -/
abbrev Result (α : Type) := Except ReadFailure α

/-- Ends reading with a fault. -/
def fail {α : Type} (cause : Fault) : Result α :=
  .error (.of cause)

/-- The entries of a mapping. A missing field counts as null throughout. -/
abbrev Entries := List (Value × Value)

/-- A field that holds a list; a missing field is the empty list. -/
def listField (data : Entries) (key : String) : Result (List Value) :=
  match Value.field key data with
  | .null => .ok []
  | .list items => .ok items
  | _ => fail (.notAList key)

/-- The entries of an item that has to be a mapping. -/
def mapping (item : Value) (what : String) : Result Entries :=
  match item with
  | .map entries => .ok entries
  | v => fail (.entryNotAMapping what v.kindName)

/-- The name of an entry. -/
def nameField (data : Entries) (what key : String) : Result String :=
  match Value.field key data with
  | .str s => if s == "" then fail (.entryUnnamed what key) else .ok s
  | _ => fail (.entryUnnamed what key)

/-- The texts of values that are all strings. -/
def texts? (items : List Value) : Option (List String) :=
  items.mapM Value.asText?

/-- A field that lists names; one name may stand for the list of it. -/
def namesField (data : Entries) (key : String) : Result (List String) :=
  match Value.field key data with
  | .null => .ok []
  | .str s => .ok [s]
  | .list items =>
    match texts? items with
    | some names => .ok names
    | none => fail (.notNames key)
  | _ => fail (.notNames key)

/-- The position of an entry: its `position` field if there is one, else the entry itself. -/
def positionOf (data : Entries) : Option Position :=
  let raw := match Value.lookup "position" data with
    | some v => v
    | none => .map data
  match raw with
  | .map entries =>
    match Value.field "line" entries with
    | .int line =>
      let column := match Value.lookup "column" entries with
        | some (.int n) => .number n
        | some (.bool b) => .flag b
        | _ => .number 0
      some ⟨line, column⟩
    | _ => none
  | _ => none

/-- A prop: its name alone, or a mapping. -/
def readProp (item : Value) : Result InputProp :=
  match item with
  | .str name => .ok { name }
  | _ => do
    let data ← mapping item "Prop"
    let name ← nameField data "Prop" "name"
    let flag := match Value.lookup "function" data with
      | some v => v
      | none => Value.field "is_function" data
    return { name, isFunction := flag.isTruthy
             type := (Value.field "type" data).scalarText?
             position := positionOf data }

/-- The argument that a text stands for: a quoted text or a fixed word is a literal, and a name,
with or without members, is an identifier. -/
def argumentOfText (raw : String) : Argument :=
  let cs := raw.toList
  match cs.head?, cs.getLast? with
  | some first, some last =>
    if 2 ≤ cs.length && first == last && ['\'', '"', '\x60'].contains first then
      { kind := .literal, text := some (String.ofList (cs.drop 1).dropLast) }
    else if Text.literalWords.contains raw then { kind := .literal, text := some raw }
    else if Text.isDottedName raw then { kind := .identifier, text := some raw }
    else { kind := .other, text := some raw }
  | _, _ => { kind := .other, text := some raw }

/-- The kind of argument with the given name. -/
def argumentKind? (name : String) : Option ArgumentKind :=
  ArgumentKind.all.find? (·.name == name)

/-- An argument given as a mapping: its kind under `kind`, or its value under the kind's name. -/
def readArgumentMapping (data : Entries) : Result Argument :=
  match Value.lookup "kind" data with
  | some kind =>
    match argumentKind? kind.display with
    | some k => .ok { kind := k, text := (Value.field "value" data).scalarText? }
    | none => fail (.unknownArgumentKind kind.display)
  | none =>
    match ArgumentKind.all.findSome? fun k => (Value.lookup k.name data).map (k, ·) with
    | some (k, v) => .ok { kind := k, text := v.scalarText? }
    | none => fail .argumentWithoutKind

/-- One argument of a hook. -/
def readArgument (raw : Value) : Result Argument :=
  match raw with
  | .map data => readArgumentMapping data
  | .bool b => .ok { kind := .literal, text := some (if b then "true" else "false") }
  | .int n => .ok { kind := .literal, text := some (Decimal.intText n) }
  | .float x => .ok { kind := .literal, text := some (Decimal.floatText x) }
  | .str s => .ok (argumentOfText s)
  | _ => .ok { kind := .other }

/-- The shape with the given name. -/
def bindingShape? (name : String) : Option BindingShape :=
  BindingShape.all.find? (·.name == name)

/-- The shape of a hook's binding. If none is given it follows from the number of variables and from
whether there are aliases. -/
def readBinding (data : Entries) (hook : String) (bound : List String) :
    Result BindingShape :=
  match Value.field "binding" data with
  | .null =>
    if bound.isEmpty then .ok .unbound
    else if (Value.field "aliases" data).isTruthy then .ok .object
    else if bound.length == 1 then .ok .identifier
    else .ok .array
  | .list _ => .error (.unhashable "list")
  | .map _ => .error (.unhashable "dict")
  | .set _ => .error (.unhashable "set")
  | v =>
    match v.asText?.bind bindingShape? with
    | some shape => .ok shape
    | none => fail (.unknownBinding hook v.display)

/-- Entries with keys and values as texts. -/
def textEntries (entries : Entries) : List (String × String) :=
  Assoc.ofList (entries.map fun e => (e.1.display, e.2.display))

/-- The aliases of a hook. -/
def readAliases (data : Entries) (hook : String) : Result Entries :=
  let raw := Value.field "aliases" data
  if raw.isTruthy then
    match raw with
    | .map entries => .ok entries
    | _ => fail (.aliasesNotAMapping hook)
  else .ok []

/-- The arguments of a hook, not read yet. -/
def rawArguments (data : Entries) (hook : String) : Result (List Value) :=
  let raw := Value.field "arguments" data
  if raw.isTruthy then
    match raw with
    | .list items => .ok items
    | _ => fail (.argumentsNotAList hook)
  else .ok []

/-- A hook call. -/
def readHook (item : Value) : Result Hook := do
  let data ← mapping item "Hook"
  let name ← nameField data "Hook" "name"
  let bound ← namesField data "variables"
  let binding ← readBinding data name bound
  let aliases ← readAliases data name
  let arguments ← rawArguments data name
  let arguments ← arguments.mapM readArgument
  let dependencies ← namesField data "dependencies"
  return { name, bound, arguments, dependencies, binding
           position := positionOf data
           library := (Value.field "library" data).scalarText?
           aliases := textEntries aliases }

/-- The name of a process. Only a process that cleans up may go without one. -/
def routineName (data : Entries) (cleanup : Bool) : Result String :=
  let raw := Value.field "name" data
  if cleanup then .ok (if raw.isTruthy then raw.display else "")
  else
    match raw with
    | .str s => if s == "" then fail (.entryUnnamed "Process" "name") else .ok s
    | _ => fail (.entryUnnamed "Process" "name")

/-- The kind of a process: the one that is required, the one given, or the usual one. -/
def routineKind (data : Entries) (cleanup : Bool) (required : Option String) : String :=
  match required with
  | some kind => kind
  | none =>
    match Value.lookup "kind" data with
    | some v => v.display
    | none => if cleanup then "cleanup" else "function"

theorem sizeOf_lookup_lt {key : String} {entries : Entries} {v : Value}
    (h : Value.lookup key entries = some v) : sizeOf v < sizeOf entries := by
  fun_induction Value.lookup key entries with
  | case1 => simp at h
  | case2 k w rest hk =>
    simp only [Option.some.injEq] at h
    subst h
    simp only [List.cons.sizeOf_spec, Prod.mk.sizeOf_spec]
    omega
  | case3 k w rest hk ih =>
    have := ih h
    simp only [List.cons.sizeOf_spec]
    omega
  | case4 e rest hne ih =>
    have := ih h
    simp only [List.cons.sizeOf_spec]
    omega

/-- A process, with the one that cleans up after it. -/
def readRoutine (cleanup : Bool) (required : Option String) (item : Value) : Result Routine :=
  match item with
  | .map data => do
    let name ← routineName data cleanup
    let references ← namesField data "references"
    let calls ← namesField data "calls"
    let assigns ← namesField data "assigns"
    let externalCalls ← namesField data "external_calls"
    let dependencies ← namesField data "dependencies"
    let cleaner ← match _h : Value.lookup "cleanup" data with
      | none => .ok none
      | some .null => .ok none
      | some raw => (readRoutine true none raw).map some
    return { name, references, calls, assigns, externalCalls, dependencies
             kind := routineKind data cleanup required
             cleanup := cleaner
             position := positionOf data }
  | v => fail (.entryNotAMapping (if cleanup then "Cleanup" else "Process") v.kindName)
termination_by item
decreasing_by
  have := sizeOf_lookup_lt _h
  simp only [Value.map.sizeOf_spec]
  omega

/-- An atom: its name alone, or a mapping. -/
def readAtom (item : Value) : Result Atom :=
  match item with
  | .str name => .ok { name }
  | _ => do
    let data ← mapping item "Atom"
    let name ← nameField data "Atom" "name"
    let dependencies ← namesField data "dependencies"
    return { name, dependencies
             derived := (Value.field "derived" data).isTruthy
             position := positionOf data }

/-- The types declared for names. -/
def readTypes (raw : Value) : Result (List (String × String)) :=
  match raw with
  | .null => .ok []
  | .map entries => .ok (textEntries entries)
  | _ => fail .typesNotAMapping

end ComponentFlow.Reader
