/-!
# Journal

What happened during an analysis, as records in order. Computations that have something to report
return their records or carry a journal in their state; nothing is written while they run.
-/

namespace ComponentFlow

/-- How important a record is. -/
inductive Level where
  | debug
  | info
  | warning
  | error
  deriving Repr, DecidableEq, Inhabited

/-- The word for a level. -/
def Level.name : Level → String
  | debug => "DEBUG"
  | info => "INFO"
  | warning => "WARNING"
  | error => "ERROR"

/-- The rank of a level, least important first. -/
def Level.rank : Level → Nat
  | debug => 0
  | info => 1
  | warning => 2
  | error => 3

/-- Whether a level is at least as important as another one. -/
def Level.atLeast (level threshold : Level) : Bool :=
  threshold.rank ≤ level.rank

/-- One record: its level, the part of the program that wrote it, and its text. -/
structure Record where
  level : Level
  origin : String
  message : String
  deriving Repr, DecidableEq, Inhabited

/-- Records in the order in which they were written. -/
abbrev Journal := List Record

/-- The name of the program, the root of all origins. -/
def programName : String := "dfdgen"

/-- The full name of an origin; the empty origin is the program itself. -/
def originName (origin : String) : String :=
  if origin == "" then programName else programName ++ "." ++ origin

/-- The records that are at least as important as the threshold. -/
def Journal.from (threshold : Level) (journal : Journal) : Journal :=
  journal.filter (·.level.atLeast threshold)

end ComponentFlow
