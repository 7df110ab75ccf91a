import ComponentFlow.Text.Word

/-!
# Tokens of YAML texts

A YAML text as a list of tokens. Indentation becomes tokens that open and close blocks. A mapping
key is only known as one when its colon is met, so the token for the key is put in front of it
later; the place where a key could start is remembered until the end of its line.

Collections in blocks and in brackets, plain and quoted scalars, comments and document marks are
covered. Anchors, tags, directives and block scalars are not.
-/

namespace ComponentFlow.Yaml

/-- A token. -/
inductive Token where
  | scalar (text : String) (plain : Bool)
  | sequenceStart
  | sequenceEnd
  | mappingStart
  | mappingEnd
  | entry
  | blockSequence
  | blockMapping
  | blockEnd
  | blockEntry
  | key
  | value
  | documentStart
  | documentEnd
  deriving Repr, DecidableEq, Inhabited

/-- Characters that end a line. -/
def isBreak (c : Char) : Bool :=
  c == '\n' || c == '\r' || c == '\u0085' || c == '\u2028' || c == '\u2029'

/-- Whether a character, or the end of the text, ends a word. -/
def endsWord (c : Option Char) : Bool :=
  c.all fun c => c == ' ' || c == '\t' || isBreak c

/-- Characters that may stand in a YAML text. -/
def isAllowed (c : Char) : Bool :=
  let n := c.toNat
  n == 9 || n == 10 || n == 13 || (32 ≤ n && n ≤ 126) || n == 0x85 ||
    (0xA0 ≤ n && n ≤ 0xFFFD) || 0x10000 ≤ n

/-! ## The cursor -/

/-- What is left of a text, and where it starts. -/
structure Cursor where
  rest : List Char
  index : Nat := 0
  line : Nat := 0
  column : Nat := 0

namespace Cursor

/-- The next character. -/
def peek (c : Cursor) : Option Char := c.rest.head?

/-- Moves over one character. -/
def advance (c : Cursor) : Cursor :=
  match c.rest with
  | [] => c
  | x :: rest =>
    if isBreak x && !(x == '\r' && rest.head? == some '\n') then
      { rest, index := c.index + 1, line := c.line + 1, column := 0 }
    else
      { rest, index := c.index + 1, line := c.line
        column := if x == '\ufeff' then c.column else c.column + 1 }

/-- Moves over several characters. -/
def advanceBy (c : Cursor) : Nat → Cursor
  | 0 => c
  | n + 1 => c.advance.advanceBy n

/-- Moves over the characters at the front that satisfy `p`. -/
def skip (c : Cursor) (p : Char → Bool) : Cursor :=
  c.advanceBy (c.rest.takeWhile p).length

/-- The line break at the cursor, as the character it counts for, and the cursor behind it. -/
def lineBreak? (c : Cursor) : Option (Char × Cursor) :=
  match c.rest with
  | '\r' :: '\n' :: _ => some ('\n', c.advanceBy 2)
  | x :: _ =>
    if x == '\u2028' || x == '\u2029' then some (x, c.advance)
    else if isBreak x then some ('\n', c.advance) else none
  | [] => none

/-- Whether a document mark of three equal characters stands at the cursor. -/
def isMark (c : Cursor) (mark : Char) : Bool :=
  match c.rest with
  | x :: y :: z :: rest => x == mark && y == mark && z == mark && endsWord rest.head?
  | _ => false

/-- Whether any document mark stands at the cursor. -/
def isAnyMark (c : Cursor) : Bool := c.isMark '-' || c.isMark '.'

end Cursor

/-! ## Quoted scalars -/

/-- What an escaped character stands for. -/
def escapes : List (Char × Char) :=
  [('0', '\x00'), ('a', '\x07'), ('b', '\x08'), ('t', '\t'), ('\t', '\t'), ('n', '\n'),
   ('v', '\x0b'), ('f', '\x0c'), ('r', '\r'), ('e', '\x1b'), (' ', ' '), ('"', '"'), ('/', '/'),
   ('\\', '\\'), ('N', '\u0085'), ('_', '\u00a0'), ('L', '\u2028'), ('P', '\u2029')]

/-- The number of digits of an escaped code. -/
def codeDigits : List (Char × Nat) := [('x', 2), ('u', 4), ('U', 8)]

/-- The value of a hexadecimal digit. -/
def hexValue? (c : Char) : Option Nat :=
  if c.isDigit then some (c.toNat - 48)
  else if 'a' ≤ c && c ≤ 'f' then some (c.toNat - 87)
  else if 'A' ≤ c && c ≤ 'F' then some (c.toNat - 55)
  else none

/-- The character with the code that stands at the front. -/
def codeChar? (digits : Nat) (s : List Char) : Option Char := do
  let front := s.take digits
  if front.length < digits then none
  else
    let values ← front.mapM hexValue?
    return Char.ofNat (values.foldl (fun total d => 16 * total + d) 0)

/-- Line breaks after the first one in a quoted scalar, and blanks before them. Fails at a document
mark. -/
def quotedBreaks : (fuel : Nat) → Cursor → Option (List Char × Cursor)
  | 0, _ => none
  | fuel + 1, c =>
    if c.isAnyMark then none
    else
      let c := c.skip fun x => x == ' ' || x == '\t'
      match c.lineBreak? with
      | some (b, c) => (quotedBreaks fuel c).map fun (bs, c) => (b :: bs, c)
      | none => some ([], c)

/-- A line break folded: a single one is a blank, of several the first one is dropped. -/
def folded (first : Char) (more : List Char) : List Char :=
  if first != '\n' then first :: more else if more.isEmpty then [' '] else more

/-- The inside of a quoted scalar and the cursor behind the closing quote. -/
def quotedBody (double : Bool) : (fuel : Nat) → Cursor → Option (List Char × Cursor)
  | 0, _ => none
  | fuel + 1, c =>
    let quote := if double then '"' else '\''
    match c.rest with
    | [] => none
    | x :: rest =>
      if x == quote then
        if !double && rest.head? == some '\'' then
          (quotedBody double fuel (c.advanceBy 2)).map fun (s, c) => ('\'' :: s, c)
        else some ([], c.advance)
      else if x == ' ' || x == '\t' then
        let blanks := c.rest.takeWhile fun x => x == ' ' || x == '\t'
        let behind := c.advanceBy blanks.length
        if behind.peek.any isBreak then quotedBody double fuel behind
        else (quotedBody double fuel behind).map fun (s, c) => (blanks ++ s, c)
      else if isBreak x then do
        let (first, behind) ← c.lineBreak?
        let (more, behind) ← quotedBreaks behind.rest.length.succ behind
        let (s, behind) ← quotedBody double fuel behind
        return (folded first more ++ s, behind)
      else if double && x == '\\' then
        match rest with
        | [] => none
        | e :: tail =>
          match escapes.lookup e, codeDigits.lookup e with
          | some value, _ =>
            (quotedBody double fuel (c.advanceBy 2)).map fun (s, c) => (value :: s, c)
          | none, some digits => do
            let value ← codeChar? digits tail
            let (s, c) ← quotedBody double fuel (c.advanceBy (2 + digits))
            return (value :: s, c)
          | none, none =>
            if isBreak e then do
              let (_, behind) ← c.advance.lineBreak?
              let (more, behind) ← quotedBreaks behind.rest.length.succ behind
              let (s, behind) ← quotedBody double fuel behind
              return (more ++ s, behind)
            else none
      else (quotedBody double fuel c.advance).map fun (s, c) => (x :: s, c)

/-! ## Plain scalars -/

/-- The characters of a plain scalar up to the next blank or mark. -/
def plainRun (inFlow : Bool) : List Char → List Char
  | [] => []
  | x :: rest =>
    if endsWord (some x) ||
        (x == ':' && (endsWord rest.head? ||
          (inFlow && rest.head?.any fun y => [',', '[', ']', '\x7b', '\x7d'].contains y))) ||
        (inFlow && [',', '?', '[', ']', '\x7b', '\x7d'].contains x) then []
    else x :: plainRun inFlow rest

/-- Blanks and further line breaks after a line break in a plain scalar; `none` in the first place
if a document mark follows. -/
def plainBreaks : (fuel : Nat) → Cursor → Option (List Char) × Cursor
  | 0, c => (none, c)
  | fuel + 1, c =>
    let c := c.skip (· == ' ')
    match c.lineBreak? with
    | none => (some [], c)
    | some (b, c) =>
      if c.isAnyMark then (none, c)
      else
        let (more, c) := plainBreaks fuel c
        (more.map (b :: ·), c)

/-- What separates two runs of a plain scalar, the cursor behind it, and whether a line ended. An
empty separation ends the scalar. -/
def plainSpaces (c : Cursor) : List Char × Cursor × Bool :=
  let blanks := c.rest.takeWhile (· == ' ')
  let c := c.advanceBy blanks.length
  match c.lineBreak? with
  | none => (blanks, c, false)
  | some (first, c) =>
    if c.isAnyMark then ([], c, true)
    else
      match plainBreaks c.rest.length.succ c with
      | (none, c) => ([], c, true)
      | (some more, c) => (folded first more, c, true)

/-- A plain scalar, the cursor behind it, and whether a key may follow. `indent` is the column that
further lines have to reach. -/
def plainScalar (inFlow : Bool) (indent : Int) : (fuel : Nat) → (before : List Char) →
    (keyAllowed : Bool) → Cursor → List Char × Cursor × Bool
  | 0, _, keyAllowed, c => ([], c, keyAllowed)
  | fuel + 1, before, keyAllowed, c =>
    let run := plainRun inFlow c.rest
    if c.peek == some '#' || run.isEmpty then ([], c, keyAllowed)
    else
      let (spaces, c, newLine) := plainSpaces (c.advanceBy run.length)
      if spaces.isEmpty || c.peek == some '#' || (!inFlow && (c.column : Int) < indent) then
        (before ++ run, c, newLine)
      else
        let (s, c, keyAllowed) := plainScalar inFlow indent fuel spaces newLine c
        (before ++ run ++ s, c, keyAllowed)

/-! ## The scanner -/

/-- A place where a key could start: the number of tokens before it, its place in the text, and
whether it has to be a key. -/
structure KeyPlace where
  tokens : Nat
  required : Bool
  index : Nat
  line : Nat
  column : Nat

/-- A text on the way to its tokens: the tokens so far, the latest first; the nesting of brackets;
the columns of the open blocks; and for each nesting the place where a key could start. -/
structure Scanner where
  cursor : Cursor
  tokens : List Token := []
  flow : Nat := 0
  indent : Int := -1
  indents : List Int := []
  keyAllowed : Bool := true
  keys : List (Nat × KeyPlace) := []

namespace Scanner

/-- Adds a token. -/
def push (s : Scanner) (t : Token) : Scanner :=
  { s with tokens := t :: s.tokens }

/-- Puts a token in front of the token with the given number. -/
def insertAt (s : Scanner) (number : Nat) (t : Token) : Scanner :=
  let behind := s.tokens.length - number
  { s with tokens := s.tokens.take behind ++ t :: s.tokens.drop behind }

/-- Moves the cursor. -/
def move (s : Scanner) (n : Nat) : Scanner :=
  { s with cursor := s.cursor.advanceBy n }

/-- Skips blanks, comments and line breaks. A key may start on a new line outside brackets. -/
def skipBlank : (fuel : Nat) → Scanner → Scanner
  | 0, s => s
  | fuel + 1, s =>
    let c := s.cursor.skip (· == ' ')
    let c := if c.peek == some '#' then c.skip (!isBreak ·) else c
    match c.lineBreak? with
    | some (_, c) =>
      skipBlank fuel { s with cursor := c, keyAllowed := s.keyAllowed || s.flow == 0 }
    | none => { s with cursor := c }

/-- Forgets the places on earlier lines where a key could start; fails if one had to be a key. -/
def dropStaleKeys (s : Scanner) : Option Scanner :=
  let isStale := fun (k : KeyPlace) =>
    k.line != s.cursor.line || s.cursor.index - k.index > 1024
  if s.keys.any fun k => isStale k.2 && k.2.required then none
  else some { s with keys := s.keys.filter fun k => !isStale k.2 }

/-- Forgets the place in the current brackets where a key could start; fails if it had to be one. -/
def dropKey (s : Scanner) : Option Scanner :=
  match s.keys.lookup s.flow with
  | some k =>
    if k.required then none else some { s with keys := s.keys.filter (·.1 != s.flow) }
  | none => some s

/-- Remembers the cursor as a place where a key could start. -/
def saveKey (s : Scanner) : Option Scanner :=
  if s.keyAllowed then do
    let place : KeyPlace :=
      { tokens := s.tokens.length
        required := s.flow == 0 && s.indent == (s.cursor.column : Int)
        index := s.cursor.index, line := s.cursor.line, column := s.cursor.column }
    let s ← s.dropKey
    return { s with keys := (s.flow, place) :: s.keys }
  else some s

/-- Closes the blocks that start right of a column. -/
def closeBlocks (column : Int) : List Int → Scanner → Scanner
  | [], s => s
  | outer :: rest, s =>
    if column < s.indent then
      closeBlocks column rest { s.push .blockEnd with indent := outer, indents := rest }
    else s

/-- Closes the blocks that start right of a column, outside brackets. -/
def unwind (s : Scanner) (column : Int) : Scanner :=
  if s.flow == 0 then closeBlocks column s.indents s else s

/-- Opens a block at a column right of the current one: whether it did, and the scanner. -/
def deepen (s : Scanner) (column : Nat) : Bool × Scanner :=
  if s.indent < (column : Int) then
    (true, { s with indents := s.indent :: s.indents, indent := column })
  else (false, s)

/-- A bracket opens. -/
def openFlow (s : Scanner) (t : Token) : Option Scanner := do
  let s ← s.saveKey
  return ({ s with flow := s.flow + 1, keyAllowed := true }.push t).move 1

/-- A bracket closes. -/
def closeFlow (s : Scanner) (t : Token) : Option Scanner := do
  let s ← s.dropKey
  if s.flow == 0 then none
  else return ({ s with flow := s.flow - 1, keyAllowed := false }.push t).move 1

/-- A comma. -/
def flowEntry (s : Scanner) : Option Scanner := do
  let s ← s.dropKey
  return ({ s with keyAllowed := true }.push .entry).move 1

/-- Opens a block for an entry or key at the cursor, which is only allowed where a key is. -/
def openBlock (s : Scanner) (t : Token) : Option Scanner :=
  if s.flow != 0 then some s
  else if !s.keyAllowed then none
  else
    let (opened, s) := s.deepen s.cursor.column
    some (if opened then s.push t else s)

/-- A dash. -/
def blockEntry (s : Scanner) : Option Scanner := do
  let s ← s.openBlock .blockSequence
  let s ← { s with keyAllowed := true }.dropKey
  return (s.push .blockEntry).move 1

/-- A question mark. -/
def explicitKey (s : Scanner) : Option Scanner := do
  let s ← s.openBlock .blockMapping
  let s ← { s with keyAllowed := s.flow == 0 }.dropKey
  return (s.push .key).move 1

/-- A colon. If a key could have started before it, it did. -/
def colon (s : Scanner) : Option Scanner := do
  match s.keys.lookup s.flow with
  | some k =>
    let s := { s with keys := s.keys.filter (·.1 != s.flow), keyAllowed := false }
    let s := s.insertAt k.tokens .key
    let (opened, s) := if s.flow == 0 then s.deepen k.column else (false, s)
    let s := if opened then s.insertAt k.tokens .blockMapping else s
    return (s.push .value).move 1
  | none =>
    let s ← s.openBlock .blockMapping
    let s ← { s with keyAllowed := s.flow == 0 }.dropKey
    return (s.push .value).move 1

/-- A document mark. -/
def documentMark (s : Scanner) (t : Token) : Option Scanner := do
  let s ← (s.unwind (-1)).dropKey
  return ({ s with keyAllowed := false }.push t).move 3

/-- A quoted scalar. -/
def quoted (s : Scanner) (double : Bool) : Option Scanner := do
  let s ← s.saveKey
  let (text, c) ← quotedBody double s.cursor.rest.length.succ s.cursor.advance
  return { s with cursor := c, keyAllowed := false }.push (.scalar (String.ofList text) false)

/-- A plain scalar. -/
def plain (s : Scanner) : Option Scanner := do
  let s ← s.saveKey
  let (text, c, keyAllowed) :=
    plainScalar (s.flow != 0) (s.indent + 1) s.cursor.rest.length.succ [] false s.cursor
  return { s with cursor := c, keyAllowed }.push (.scalar (String.ofList text) true)

/-- Characters that cannot start a plain scalar. -/
def isIndicator (c : Char) : Bool :=
  endsWord (some c) ||
    ['-', '?', ':', ',', '[', ']', '\x7b', '\x7d', '#', '&', '*', '!', '|', '>', '\'', '"', '%',
     '@', '\x60'].contains c

/-- Whether a plain scalar starts with a character and the one behind it. -/
def startsPlain (s : Scanner) (c : Char) (next : Option Char) : Bool :=
  !isIndicator c ||
    (!endsWord next && (c == '-' || (s.flow == 0 && (c == '?' || c == ':'))))

/-- The token at the cursor, which stands at the given characters. -/
def token (s : Scanner) (c : Char) (next : Option Char) : Option Scanner :=
  if s.cursor.column == 0 && s.cursor.isMark '-' then s.documentMark .documentStart
  else if s.cursor.column == 0 && s.cursor.isMark '.' then s.documentMark .documentEnd
  else if c == '[' then s.openFlow .sequenceStart
  else if c == '\x7b' then s.openFlow .mappingStart
  else if c == ']' then s.closeFlow .sequenceEnd
  else if c == '\x7d' then s.closeFlow .mappingEnd
  else if c == ',' then s.flowEntry
  else if c == '-' && endsWord next then s.blockEntry
  else if c == '?' && (s.flow != 0 || endsWord next) then s.explicitKey
  else if c == ':' && (s.flow != 0 || endsWord next) then s.colon
  else if c == '\'' then s.quoted false
  else if c == '"' then s.quoted true
  else if s.startsPlain c next then s.plain
  else none

/-- Reads tokens up to the end of the text. Every token takes at least one character, so `fuel` does
not run out. -/
def run : (fuel : Nat) → Scanner → Option Scanner
  | 0, _ => none
  | fuel + 1, s => do
    let s ← (skipBlank s.cursor.rest.length.succ s).dropStaleKeys
    let s := s.unwind s.cursor.column
    match s.cursor.rest with
    | [] => (s.unwind (-1)).dropKey
    | c :: rest => run fuel (← s.token c rest.head?)

end Scanner

/-- The tokens of a text. A byte order mark at its start is no part of it. -/
def tokens? (text : String) : Option (List Token) :=
  let s := text.toList
  if s.all isAllowed then
    let start : Cursor := { rest := s }
    let start := if s.head? == some '\ufeff' then start.advance else start
    (Scanner.run (s.length + 1) { cursor := start }).map (·.tokens.reverse)
  else none

end ComponentFlow.Yaml
