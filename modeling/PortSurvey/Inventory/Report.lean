import PortSurvey.Declaration

/-!
# Summaries of declarations

A `Report` counts declarations: all of them, those of each kind of place, and those of each band of
confidence. It also lists the services that are named.
-/

namespace PortSurvey

/-- A summary of declarations. -/
structure Report where
  /-- The number of declarations. -/
  total : Nat
  /-- The services that are named, in ascending order and each once. -/
  services : List String
  /-- The kinds of places that occur, each with the number of its declarations. -/
  byOrigin : List (Origin × Nat)
  /-- The number of declarations of high confidence. -/
  high : Nat
  /-- The number of declarations of medium confidence. -/
  medium : Nat
  /-- The number of declarations of low confidence. -/
  low : Nat
  deriving DecidableEq

namespace Report

/-- The least confidence that is high. -/
def highConfidence : Rat := 9 / 10

/-- The least confidence that is medium. -/
def mediumConfidence : Rat := 7 / 10

/-- Whether a declaration is of high confidence. -/
def isHigh (d : Declaration) : Bool :=
  highConfidence ≤ d.confidence

/-- Whether a declaration is of medium confidence. -/
def isMedium (d : Declaration) : Bool :=
  !isHigh d && mediumConfidence ≤ d.confidence

/-- Whether a declaration is of low confidence. -/
def isLow (d : Declaration) : Bool :=
  !isHigh d && !isMedium d

/-- The summary of declarations. -/
def ofDeclarations (declarations : List Declaration) : Report where
  total := declarations.length
  services := ((declarations.map (·.service)).eraseDups).mergeSort (fun a b => a ≤ b)
  byOrigin := (Origin.all.map fun o => (o, declarations.countP (·.origin == o))).filter (·.2 != 0)
  high := declarations.countP isHigh
  medium := declarations.countP isMedium
  low := declarations.countP isLow

end Report

end PortSurvey
