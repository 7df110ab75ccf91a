import ComponentFlow.Value.Yaml.Token
import ComponentFlow.Value.Yaml.Tree

/-!
# Reading YAML

The tree and the value of a YAML text. A text holds one document. A missing value is null, a key
given again keeps its place and takes the new value, and keys are scalars.
-/

namespace ComponentFlow.Yaml

/-- A tree and the tokens behind it. -/
abbrev Parsed := Option (Tree × List Token)

/-- Whether the first token is one of those given; the end of the tokens is none. -/
def startsWithAny (ts : List Token) (choices : List Token) : Bool :=
  ts.head?.any choices.contains

mutual

/-- A node. Blocks are only allowed outside brackets; `loose` allows entries of a sequence that is
not indented. -/
def node : (fuel : Nat) → (block loose : Bool) → List Token → Parsed
  | 0, _, _, _ => none
  | fuel + 1, block, loose, ts =>
    match ts with
    | .scalar text plain :: rest => some (.scalar text plain, rest)
    | .sequenceStart :: rest => flowItems fuel true [] rest
    | .mappingStart :: rest => flowEntries fuel true [] rest
    | .blockSequence :: rest => if block then blockItems fuel [] rest else none
    | .blockMapping :: rest => if block then blockEntries fuel [] rest else none
    | .blockEntry :: _ => if loose then looseItems fuel [] ts else none
    | _ => none

/-- A node, or null if one of the given tokens comes first. -/
def nodeUnless : (fuel : Nat) → (block loose : Bool) → (stops ts : List Token) → Parsed
  | 0, _, _, _, _ => none
  | fuel + 1, block, loose, stops, ts =>
    if startsWithAny ts stops then some (.missing, ts) else node fuel block loose ts

/-- The value behind a colon, or null if there is no colon. -/
def valueUnless : (fuel : Nat) → (block : Bool) → (stops ts : List Token) → Parsed
  | 0, _, _, _ => none
  | fuel + 1, block, stops, ts =>
    match ts with
    | .value :: rest => nodeUnless fuel block block stops rest
    | _ => some (.missing, ts)

/-- The items of a block sequence up to its end. -/
def blockItems : (fuel : Nat) → (items : List Tree) → List Token → Parsed
  | 0, _, _ => none
  | fuel + 1, items, ts =>
    match ts with
    | .blockEntry :: rest => do
      let (item, rest) ← nodeUnless fuel true false [.blockEntry, .blockEnd] rest
      blockItems fuel (items ++ [item]) rest
    | .blockEnd :: rest => some (.sequence items, rest)
    | _ => none

/-- The items of a sequence that is not indented. -/
def looseItems : (fuel : Nat) → (items : List Tree) → List Token → Parsed
  | 0, _, _ => none
  | fuel + 1, items, ts =>
    match ts with
    | .blockEntry :: rest => do
      let (item, rest) ← nodeUnless fuel true false [.blockEntry, .key, .value, .blockEnd] rest
      looseItems fuel (items ++ [item]) rest
    | _ => some (.sequence items, ts)

/-- The entries of a block mapping up to its end. -/
def blockEntries : (fuel : Nat) → (entries : List (Tree × Tree)) → List Token → Parsed
  | 0, _, _ => none
  | fuel + 1, entries, ts =>
    match ts with
    | .key :: rest => do
      let stops : List Token := [.key, .value, .blockEnd]
      let (key, rest) ← nodeUnless fuel true true stops rest
      let (value, rest) ← valueUnless fuel true stops rest
      blockEntries fuel (entries ++ [(key, value)]) rest
    | .blockEnd :: rest => some (.mapping entries, rest)
    | _ => none

/-- The items of a sequence in brackets up to the closing one. A key makes an item a mapping of one
entry. -/
def flowItems : (fuel : Nat) → (first : Bool) → (items : List Tree) → List Token → Parsed
  | 0, _, _, _ => none
  | fuel + 1, first, items, ts =>
    match ts with
    | .sequenceEnd :: rest => some (.sequence items, rest)
    | _ => do
      let ts ← if first then some ts else
        match ts with
        | .entry :: rest => some rest
        | _ => none
      match ts with
      | .sequenceEnd :: rest => some (.sequence items, rest)
      | .key :: rest => do
        let (key, rest) ← nodeUnless fuel false false [.value, .entry, .sequenceEnd] rest
        let (value, rest) ← valueUnless fuel false [.entry, .sequenceEnd] rest
        flowItems fuel false (items ++ [.mapping [(key, value)]]) rest
      | ts => do
        let (item, rest) ← node fuel false false ts
        flowItems fuel false (items ++ [item]) rest

/-- The entries of a mapping in brackets up to the closing one. A node without a key is a key
without a value. -/
def flowEntries : (fuel : Nat) → (first : Bool) → (entries : List (Tree × Tree)) →
    List Token → Parsed
  | 0, _, _, _ => none
  | fuel + 1, first, entries, ts =>
    match ts with
    | .mappingEnd :: rest => some (.mapping entries, rest)
    | _ => do
      let ts ← if first then some ts else
        match ts with
        | .entry :: rest => some rest
        | _ => none
      match ts with
      | .mappingEnd :: rest => some (.mapping entries, rest)
      | .key :: rest => do
        let (key, rest) ← nodeUnless fuel false false [.value, .entry, .mappingEnd] rest
        let (value, rest) ← valueUnless fuel false [.entry, .mappingEnd] rest
        flowEntries fuel false (entries ++ [(key, value)]) rest
      | ts => do
        let (key, rest) ← node fuel false false ts
        flowEntries fuel false (entries ++ [(key, .missing)]) rest

end

/-- Whether only document ends are left. -/
def isDone (ts : List Token) : Bool :=
  ts.all (· == .documentEnd)

/-- The tree of the single document in the tokens. A text without a document is a missing value. -/
def document? (ts : List Token) : Option Tree :=
  let fuel := 4 * ts.length + 8
  match ts with
  | [] => some .missing
  | .documentStart :: rest =>
    if rest.isEmpty || startsWithAny rest [.documentStart, .documentEnd] then
      if isDone rest then some .missing else none
    else
      match node fuel true false rest with
      | some (t, rest) => if isDone rest then some t else none
      | none => none
  | _ =>
    match node fuel true false ts with
    | some (t, rest) => if isDone rest then some t else none
    | none => none

/-- The value of a YAML text. -/
def read (text : String) : Except Fault Value :=
  match (tokens? text).bind document? with
  | some t => t.read
  | none => .error .malformed

end ComponentFlow.Yaml
