/-!
# Spans of code points

A character property is given as a list of spans: runs of consecutive code points, both ends
included. Membership is a search through the list, so a property is decided by evaluation.
-/

namespace ComponentFlow.Text

/-- A run of consecutive code points, both ends included. -/
abbrev Span := Nat × Nat

/-- Whether a code point lies in one of the spans. -/
def inSpans (spans : List Span) (n : Nat) : Bool :=
  spans.any fun s => s.1 ≤ n && n ≤ s.2

end ComponentFlow.Text
