/-!
# Source positions

A position inside the analysed source file. The column comes from the component description as it
is; a description may give a truth value there, which is kept.
-/

namespace ComponentFlow

/-- A column: a number of characters, or a truth value taken over from the description. -/
inductive Column where
  | number (n : Int)
  | flag (b : Bool)
  deriving Repr, DecidableEq, Inhabited

/-- A line, counted from one, and a column, counted from zero. -/
structure Position where
  line : Int
  column : Column := .number 0
  deriving Repr, DecidableEq, Inhabited

end ComponentFlow
