import ComponentFlow.Decimal.Shortest
import ComponentFlow.Position
import ComponentFlow.Timestamp

/-!
# Document values

The values that documents, settings and node metadata are made of. Mappings keep the order in which
their keys were first given, and a key given again keeps its place and takes the new value. Keys are
values themselves, since documents may use numbers as keys.
-/

namespace ComponentFlow

/-- A value of a document, a settings file or a node's metadata. -/
inductive Value where
  | null
  | bool (b : Bool)
  | int (n : Int)
  | float (x : Float)
  | str (s : String)
  | list (items : List Value)
  | tuple (items : List Value)
  | set (items : List Value)
  | position (p : Position)
  | time (t : Timestamp)
  | map (entries : List (Value × Value))
  deriving Inhabited

namespace Value

/-- The name of a value's kind, as error messages give it. -/
def kindName : Value → String
  | null => "NoneType"
  | bool _ => "bool"
  | int _ => "int"
  | float _ => "float"
  | str _ => "str"
  | list _ => "list"
  | tuple _ => "tuple"
  | set _ => "set"
  | position _ => "SourcePosition"
  | time t => t.kindName
  | map _ => "dict"

/-- Whether a value counts as given: not null, false, zero or empty. -/
def isTruthy : Value → Bool
  | null => false
  | bool b => b
  | int n => n != 0
  | float x => x != 0
  | str s => s != ""
  | list items => !items.isEmpty
  | tuple items => !items.isEmpty
  | set items => !items.isEmpty
  | position _ => true
  | time _ => true
  | map entries => !entries.isEmpty

/-- The text of a string value. -/
def asText? : Value → Option String
  | str s => some s
  | _ => none

/-- A column as a number: a truth value counts as zero or one. -/
def columnNumber : Column → Int
  | .number n => n
  | .flag b => if b then 1 else 0

/-- The number of a numeric value: an integer, or a truth value as zero or one. -/
def asInt? : Value → Option Int
  | int n => some n
  | bool b => some (if b then 1 else 0)
  | _ => none

/-- Whether an integer and a double are exactly the same number. -/
def sameNumber (n : Int) (x : Float) : Bool :=
  match Decimal.Binary.ofFloat? x with
  | none => false
  | some b =>
    let (num, den) := b.ratio
    n * den == (if b.negative then -(num : Int) else num)

mutual

/-- Equality of values. Numbers are equal across their kinds, and truth values count as zero and
one; mappings and sets are compared without regard to order. -/
def same : Value → Value → Bool
  | null, null => true
  | bool a, bool b => a == b
  | bool a, int n => (if a then 1 else 0) == n
  | int n, bool b => n == (if b then 1 else 0)
  | int a, int b => a == b
  | bool a, float x => sameNumber (if a then 1 else 0) x
  | float x, bool b => sameNumber (if b then 1 else 0) x
  | int n, float x => sameNumber n x
  | float x, int n => sameNumber n x
  | float x, float y => x == y || x.toBits == y.toBits
  | str a, str b => a == b
  | list xs, list ys => sameItems xs ys
  | tuple xs, tuple ys => sameItems xs ys
  | set xs, set ys => xs.length == ys.length && sameMembers xs ys
  | position p, position q =>
    p.line == q.line && columnNumber p.column == columnNumber q.column
  | time a, time b => a.same b
  | map xs, map ys => xs.length == ys.length && sameEntries xs ys
  | _, _ => false
termination_by structural x => x

/-- Item by item equality. -/
def sameItems : List Value → List Value → Bool
  | [], [] => true
  | x :: xs, y :: ys => same x y && sameItems xs ys
  | _, _ => false
termination_by structural xs => xs

/-- Whether every value has an equal one among the others. -/
def sameMembers : List Value → List Value → Bool
  | [], _ => true
  | x :: xs, ys => ys.any (same x) && sameMembers xs ys
termination_by structural xs => xs

/-- Whether every entry has an equal one among the others. -/
def sameEntries : List (Value × Value) → List (Value × Value) → Bool
  | [], _ => true
  | x :: xs, ys => ys.any (sameEntry x) && sameEntries xs ys
termination_by structural xs => xs

/-- Equality of keys and of values. -/
def sameEntry : Value × Value → Value × Value → Bool
  | (k, v), e => same k e.1 && same v e.2
termination_by structural x => x

end

/-- Puts a value under a key: a key that is there keeps its place. -/
def insertEntry (key value : Value) : List (Value × Value) → List (Value × Value)
  | [] => [(key, value)]
  | (k, v) :: rest =>
    if same k key then (k, value) :: rest else (k, v) :: insertEntry key value rest

/-- Entries in order of their keys' first appearance, with the value given last. -/
def ofEntries (entries : List (Value × Value)) : List (Value × Value) :=
  entries.foldl (fun done e => insertEntry e.1 e.2 done) []

/-- The entries of a mapping. -/
def entries? : Value → Option (List (Value × Value))
  | map entries => some entries
  | _ => none

/-- The items of a list. -/
def items? : Value → Option (List Value)
  | list items => some items
  | _ => none

/-- The value under a text key. -/
def lookup (key : String) : List (Value × Value) → Option Value
  | [] => none
  | (.str k, v) :: rest => if k == key then some v else lookup key rest
  | _ :: rest => lookup key rest

/-- The value under a text key, where a missing key counts as null. -/
def field (key : String) (entries : List (Value × Value)) : Value :=
  (lookup key entries).getD null

end Value

end ComponentFlow
