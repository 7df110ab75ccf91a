import ComponentFlow.Decimal.Format
import ComponentFlow.Text.Quoted
import ComponentFlow.Value.Display
import ComponentFlow.Value.Yaml.Scalar

/-!
# Writing YAML

Values as YAML texts in blocks. A text is written plainly if that reads back as the same text, else
in single quotes, and in double quotes if it holds characters that have to be escaped. Lines are
folded at a blank once they are longer than eighty columns. Items of a list under a key stand in the
column of the key.
-/

namespace ComponentFlow.Yaml

/-- Lines longer than this are folded. -/
def lineWidth : Nat := 80

/-- Keys that are longer stand on a line of their own behind a question mark. -/
def longestKey : Nat := 122

/-! ## Which way a text can be written -/

/-- What a text holds that matters for the way it is written. -/
structure Features where
  /-- Something that plain scalars must not hold. -/
  indicators : Bool := false
  breaks : Bool := false
  special : Bool := false
  /-- Blanks or line breaks at an end. -/
  edges : Bool := false
  spaceAfterBreak : Bool := false
  spaceBeforeBreak : Bool := false

/-- Line breaks in scalars. -/
def isScalarBreak (c : Char) : Bool :=
  c == '\n' || c == '\u0085' || c == '\u2028' || c == '\u2029'

/-- Whether a character, or an end of the text, is a blank or a line break. -/
def isGap (c : Option Char) : Bool :=
  c.all fun c => c == '\x00' || c == ' ' || c == '\t' || c == '\r' || isScalarBreak c

/-- Whether a character has to be escaped. -/
def isSpecial (c : Char) : Bool := c != '\n' && !(' ' ≤ c && c ≤ '~')

/-- Indicators that cannot start a plain scalar. -/
def startIndicators : List Char :=
  ['#', ',', '[', ']', '\x7b', '\x7d', '&', '*', '!', '|', '>', '\'', '"', '%', '@', '\x60']

/-- Whether the first character, with the one behind it, is an indicator. -/
def isStartIndicator (c : Char) (next : Option Char) : Bool :=
  startIndicators.contains c || ((c == '?' || c == ':' || c == '-') && isGap next)

/-- Whether a character between two others is an indicator. -/
def isInnerIndicator (previous : Char) (c : Char) (next : Option Char) : Bool :=
  (c == ':' && isGap next) || (c == '#' && isGap (some previous))

/-- Whether an indicator stands behind the first character. -/
def hasInnerIndicator : (previous : Char) → List Char → Bool
  | _, [] => false
  | previous, c :: rest =>
    isInnerIndicator previous c rest.head? || hasInnerIndicator c rest

/-- Whether a character of one class is directly followed by one of another class. -/
def hasPair (p q : Char → Bool) : List Char → Bool
  | c :: d :: rest => (p c && q d) || hasPair p q (d :: rest)
  | _ => false

/-- Whether a text starts with a document mark. -/
def startsWithMark (s : List Char) : Bool :=
  ['-', '-', '-'].isPrefixOf s || ['.', '.', '.'].isPrefixOf s

/-- What a text holds. -/
def features (s : List Char) : Features :=
  let isEdge := fun (c : Char) => c == ' ' || isScalarBreak c
  { indicators := startsWithMark s ||
      match s with
      | c :: rest => isStartIndicator c rest.head? || hasInnerIndicator c rest
      | [] => false
    breaks := s.any isScalarBreak
    special := s.any isSpecial
    edges := s.head?.any isEdge || s.getLast?.any isEdge
    spaceAfterBreak := hasPair isScalarBreak (· == ' ') s
    spaceBeforeBreak := hasPair (· == ' ') isScalarBreak s }

/-- How a scalar is written. -/
inductive ScalarStyle where
  | plain
  | single
  | double
  deriving Repr, DecidableEq

/-- How a text is written: `readsBack` tells whether it reads back when it is written plainly, and
`asKey` whether it is a key on one line. -/
def scalarStyle (s : List Char) (readsBack asKey : Bool) : ScalarStyle :=
  if s.isEmpty then if readsBack && !asKey then .plain else .single
  else
    let f := features s
    if readsBack && !(f.indicators || f.breaks || f.special || f.edges || f.spaceBeforeBreak) then
      .plain
    else if f.special || f.spaceBeforeBreak || f.spaceAfterBreak || (asKey && f.breaks) then .double
    else .single

/-! ## The page -/

/-- The text written so far, latest character first; the column; whether a blank has just been
written; and whether only the indentation of the line has been written. -/
structure Page where
  text : List Char := []
  column : Nat := 0
  spaced : Bool := true
  fresh : Bool := true

namespace Page

/-- Writes characters of a line. -/
def put (p : Page) (s : List Char) : Page :=
  { p with text := s.reverse ++ p.text, column := p.column + s.length }

/-- Ends the line. -/
def newLine (p : Page) : Page :=
  { text := '\n' :: p.text, column := 0, spaced := true, fresh := true }

/-- Goes to a column, on a new line if there is already something in the way. -/
def goTo (p : Page) (column : Nat) : Page :=
  let p := if !p.fresh || column < p.column || (p.column == column && !p.spaced) then p.newLine
    else p
  if p.column < column then
    { p.put (List.replicate (column - p.column) ' ') with spaced := true }
  else p

/-- Writes an indicator, behind a blank if it needs one. `fresh` tells whether what follows still
counts as the start of the line. -/
def indicator (p : Page) (s : String) (needsBlank fresh : Bool) : Page :=
  let p' := p.put (if p.spaced || !needsBlank then s.toList else ' ' :: s.toList)
  { p' with spaced := false, fresh := p.fresh && fresh }

/-- Marks that a word has been written. -/
def inWord (p : Page) : Page := { p with spaced := false, fresh := false }

end Page

/-- A text as runs of blanks, runs of line breaks and runs of other characters. -/
def runs : List Char → List (List Char)
  | [] => []
  | c :: rest =>
    match runs rest with
    | (d :: run) :: more =>
      if (c == ' ') == (d == ' ') && isScalarBreak c == isScalarBreak d then
        (c :: d :: run) :: more
      else [c] :: (d :: run) :: more
    | others => [c] :: others

/-- Writes the runs of a plain scalar. A single blank beyond the width becomes a line break. -/
def plainRuns (indent : Nat) (split : Bool) : Page → List (List Char) → Page
  | p, [] => p
  | p, run :: rest =>
    if run == [' '] && lineWidth < p.column && split then
      plainRuns indent split (p.goTo indent).inWord rest
    else plainRuns indent split (p.put run) rest

/-- Writes a plain scalar. -/
def putPlain (p : Page) (indent : Nat) (split : Bool) (s : List Char) : Page :=
  if s.isEmpty then p
  else plainRuns indent split (if p.spaced then p.inWord else (p.put [' ']).inWord) (runs s)

/-- Line breaks inside single quotes: one more than there are, since a single one would be a
blank. -/
def putBreaks (p : Page) (indent : Nat) (breaks : List Char) : Page :=
  (breaks.foldl (fun p _ => p.newLine) p.newLine).goTo indent

/-- Writes the runs of a single-quoted scalar. `first` tells whether nothing has been written. -/
def singleRuns (indent : Nat) (split : Bool) : (first : Bool) → Page → List (List Char) → Page
  | _, p, [] => p
  | first, p, run :: rest =>
    if run.head?.any isScalarBreak then singleRuns indent split false (putBreaks p indent run) rest
    else if run == [' '] && lineWidth < p.column && split && !first && !rest.isEmpty then
      singleRuns indent split false (p.goTo indent) rest
    else
      let doubled := run.flatMap fun c => if c == '\'' then ['\'', '\''] else [c]
      singleRuns indent split false (p.put doubled) rest

/-- Writes a scalar in single quotes. -/
def putSingle (p : Page) (indent : Nat) (split : Bool) (s : List Char) : Page :=
  (singleRuns indent split true (p.indicator "'" true false) (runs s)).indicator "'" false false

/-- The letters for escaped characters. -/
def escapeLetters : List (Char × Char) :=
  [('\x00', '0'), ('\x07', 'a'), ('\x08', 'b'), ('\t', 't'), ('\n', 'n'), ('\x0b', 'v'),
   ('\x0c', 'f'), ('\r', 'r'), ('\x1b', 'e'), ('"', '"'), ('\\', '\\'), ('\u0085', 'N'),
   ('\u00a0', '_'), ('\u2028', 'L'), ('\u2029', 'P')]

/-- The escape of a character. -/
def escape (c : Char) : List Char :=
  match escapeLetters.lookup c with
  | some letter => ['\\', letter]
  | none =>
    let n := c.toNat
    let digits := fun (width : Nat) => (Text.hexDigits width n).map Char.toUpper
    if n ≤ 0xFF then '\\' :: 'x' :: digits 2
    else if n ≤ 0xFFFF then '\\' :: 'u' :: digits 4
    else '\\' :: 'U' :: digits 8

/-- Whether a character is escaped in double quotes. -/
def isEscaped (c : Char) : Bool :=
  c == '"' || c == '\\' || !(' ' ≤ c && c ≤ '~')

/-- Writes the inside of a double-quoted scalar. `pending` are characters, latest first, that are
not written yet; a line is folded in front of a blank or behind an escape, but not at the first or
last character. -/
def doubleChars (indent : Nat) (split : Bool) : (first : Bool) → (pending : List Char) → Page →
    List Char → Page
  | _, pending, p, [] => p.put pending.reverse
  | first, pending, p, c :: rest =>
    let escaped := isEscaped c
    let p := if escaped then (p.put pending.reverse).put (escape c) else p
    let pending := if escaped then [] else pending
    -- an escaped character counts as written, so nothing is pending at its place
    let folds := !first && !rest.isEmpty && (c == ' ' || pending.isEmpty) &&
      lineWidth < p.column + (if escaped then 0 else pending.length) -
        (if escaped then 1 else 0) && split
    if folds then
      let p := ((p.put (pending.reverse ++ ['\\'])).goTo indent).inWord
      let next := if escaped then rest.head? else some c
      let p := if next == some ' ' then p.put ['\\'] else p
      doubleChars indent split false (if escaped then [] else [c]) p rest
    else doubleChars indent split false (if escaped then [] else c :: pending) p rest

/-- Writes a scalar in double quotes. -/
def putDouble (p : Page) (indent : Nat) (split : Bool) (s : List Char) : Page :=
  (doubleChars indent split true [] (p.indicator "\"" true false) s).indicator "\"" false false

/-- Writes a scalar. -/
def putScalar (p : Page) (indent : Nat) (asKey readsBack : Bool) (s : List Char) : Page :=
  match scalarStyle s readsBack asKey with
  | .plain => putPlain p indent (!asKey) s
  | .single => putSingle p indent (!asKey) s
  | .double => putDouble p indent (!asKey) s

/-! ## Values -/

/-- The text of a double. -/
def floatText (x : Float) : List Char :=
  if x.isNaN then ".nan".toList
  else if !x.isFinite then (if x < 0 then "-.inf" else ".inf").toList
  else
    let s := (Decimal.floatText x).toList
    if s.contains '.' then s
    else s.flatMap fun c => if c == 'e' then ['.', '0', 'e'] else [c]

/-- The text of a scalar, and whether it reads back when it is written plainly. -/
def scalarText : Value → List Char × Bool
  | .null => ("null".toList, true)
  | .bool b => ((if b then "true" else "false").toList, true)
  | .int n => ((Decimal.intText n).toList, true)
  | .float x => (floatText x, true)
  | .str s => (s.toList, plainKind s = .text)
  | v => (v.display.toList, true)

/-- The column of a block inside one at the given column. -/
def inner (step : Nat) (column : Option Nat) : Nat :=
  match column with
  | none => 0
  | some c => c + step

/-- Writes a key, up to and including its colon. -/
def putKey (step : Nat) (p : Page) (column : Nat) (key : Value) : Page :=
  let (s, readsBack) := scalarText key
  let p := p.goTo column
  if s.isEmpty || s.any isScalarBreak || longestKey < s.length then
    let p := putScalar (p.indicator "?" true true) (column + step) false readsBack s
    (p.goTo column).indicator ":" true true
  else (putScalar p (column + step) true readsBack s).indicator ":" false false

mutual

/-- Writes a value. `column` is that of the block around it, and `underKey` tells whether it stands
behind a key. -/
def putValue (step : Nat) (column : Option Nat) (underKey : Bool) (p : Page) : Value → Page
  | .list [] => (p.indicator "[" true false).put [']']
  | .map [] => (p.indicator "\x7b" true false).put ['\x7d']
  | .list (v :: rest) =>
    let own := if underKey && !p.fresh then column.getD 0 else inner step column
    putItems step own p (v :: rest)
  | .map (e :: rest) => putEntries step (inner step column) p (e :: rest)
  | .null => putOther step column p .null
  | .bool b => putOther step column p (.bool b)
  | .int n => putOther step column p (.int n)
  | .float x => putOther step column p (.float x)
  | .str s => putOther step column p (.str s)
  | .tuple items => putOther step column p (.tuple items)
  | .set items => putOther step column p (.set items)
  | .position pos => putOther step column p (.position pos)
  | .time t => putOther step column p (.time t)
termination_by structural v => v

/-- Writes the items of a list. -/
def putItems (step column : Nat) (p : Page) : List Value → Page
  | [] => p
  | v :: rest =>
    let p := (p.goTo column).indicator "-" true true
    putItems step column (putValue step (some column) false p v) rest
termination_by structural items => items

/-- Writes the entries of a mapping. -/
def putEntries (step column : Nat) (p : Page) : List (Value × Value) → Page
  | [] => p
  | e :: rest => putEntries step column (putEntry step column p e) rest
termination_by structural entries => entries

/-- Writes an entry of a mapping. -/
def putEntry (step column : Nat) (p : Page) : Value × Value → Page
  | (key, v) => putValue step (some column) true (putKey step p column key) v
termination_by structural entry => entry

/-- Writes a scalar that stands as a value. -/
def putOther (step : Nat) (column : Option Nat) (p : Page) (v : Value) : Page :=
  let (s, readsBack) := scalarText v
  putScalar p (column.getD 0 + step) false readsBack s

end

/-- The step by which blocks are indented: at least two, and two if it is more than nine. -/
def stepOf (indent : Int) : Nat :=
  if 2 ≤ indent && indent < 10 then indent.toNat else 2

/-- A value as a YAML text. -/
def write (indent : Int) (v : Value) : String :=
  String.ofList (putValue (stepOf indent) none false {} v).newLine.text.reverse

end ComponentFlow.Yaml
