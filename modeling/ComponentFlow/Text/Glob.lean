/-!
# Glob patterns

Patterns for package names: `*` stands for any run of characters, `?` for one character, and a
bracketed class for one of its members. A bracket that is never closed stands for itself.
-/

namespace ComponentFlow.Text

/-- One part of a glob pattern. -/
inductive Glob where
  /-- Exactly this character. -/
  | exactly (c : Char)
  /-- Any one character. -/
  | anyOne
  /-- Any run of characters, the empty one included. -/
  | anyRun
  /-- One character inside some range, or outside all of them. -/
  | oneOf (negated : Bool) (ranges : List (Char × Char))
  deriving Repr, DecidableEq

namespace Glob

/-- The ranges of a bracketed class: `a-c` is a range, any other character a range of its own. -/
def ranges : List Char → List (Char × Char)
  | a :: '-' :: b :: rest => (a, b) :: ranges rest
  | a :: rest => (a, a) :: ranges rest
  | [] => []

/-- Splits at the bracket that closes a class. A bracket in first place is a member. -/
def classBody? (s : List Char) : Option (List Char × List Char) :=
  let lead := match s with
    | '!' :: ']' :: _ => 2
    | '!' :: _ => 1
    | ']' :: _ => 1
    | _ => 0
  let tail := s.drop lead
  match tail.dropWhile (· != ']') with
  | [] => none
  | _ :: rest => some (s.take lead ++ tail.takeWhile (· != ']'), rest)

/-- The class with the given text between its brackets. -/
def ofClass : List Char → Glob
  | '!' :: body => .oneOf true (ranges body)
  | body => .oneOf false (ranges body)

/-- Reads a pattern; `fuel` bounds the number of parts. -/
def parseFrom : (fuel : Nat) → List Char → List Glob
  | 0, _ => []
  | _, [] => []
  | fuel + 1, '*' :: rest => .anyRun :: parseFrom fuel rest
  | fuel + 1, '?' :: rest => .anyOne :: parseFrom fuel rest
  | fuel + 1, '[' :: rest =>
    match classBody? rest with
    | some (body, rest') => ofClass body :: parseFrom fuel rest'
    | none => .exactly '[' :: parseFrom fuel rest
  | fuel + 1, c :: rest => .exactly c :: parseFrom fuel rest

/-- Reads a pattern. -/
def parse (pattern : String) : List Glob :=
  parseFrom pattern.toList.length pattern.toList

/-- Whether one character fits a part that stands for one character. -/
def fits (c : Char) : Glob → Bool
  | .exactly d => c == d
  | .anyOne => true
  | .anyRun => false
  | .oneOf negated members =>
    (members.any fun r => r.1.toNat ≤ c.toNat && c.toNat ≤ r.2.toNat) != negated

/-- Whether the whole text fits the pattern. -/
def matchesAll : List Glob → List Char → Bool
  | [], s => s.isEmpty
  | .anyRun :: parts, [] => matchesAll parts []
  | .anyRun :: parts, c :: s => matchesAll parts (c :: s) || matchesAll (.anyRun :: parts) s
  | _ :: _, [] => false
  | part :: parts, c :: s => fits c part && matchesAll parts s
termination_by parts s => parts.length + s.length

end Glob

/-- Whether a text fits a glob pattern as a whole. -/
def globMatches (pattern text : String) : Bool :=
  Glob.matchesAll (Glob.parse pattern) text.toList

end ComponentFlow.Text
