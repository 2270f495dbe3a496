import PortSurvey.Registry.Basic

/-!
# What a registry rests on

`Assumptions` counts the ports of a registry by level and says what follows from the counts.
-/

namespace PortSurvey

/-- How many ports of a registry rest on what. -/
structure Assumptions where
  /-- The number of ports. -/
  total : Nat
  /-- The number of ports of official levels. -/
  official : Nat
  /-- The number of ports of uncertain levels. -/
  uncertain : Nat
  /-- The levels that occur, each with the number of its ports. -/
  byLevel : List (Level × Nat)
  /-- What follows from the counts, in words. -/
  recommendations : List String
  deriving DecidableEq

namespace Assumptions

/-- The advice on ports that rest on habits. -/
def conventionAdvice (n : Nat) : String :=
  toString n ++ " ports rely on common convention only; confirm them against IaC declarations"

/-- The advice on ports that rest on products. -/
def vendorAdvice (n : Nat) : String :=
  toString n ++ " ports are vendor defaults and hold only when that product runs unmodified"

/-- The advice where official ports are the lesser part. -/
def thresholdAdvice : String :=
  "Fewer than half of the known ports are officially assigned; " ++
    "raise the trust threshold for production reviews"

/-- The advice that always holds. -/
def closingAdvice : String :=
  "Prefer ports declared in compose files, manifests and Dockerfiles over registry assumptions"

/-- The number of ports of a level, given the levels that occur. -/
def countOf (byLevel : List (Level × Nat)) (level : Level) : Nat :=
  ((byLevel.find? (·.1 == level)).map (·.2)).getD 0

/-- The number of ports of the levels that are as asked, given the levels that occur. -/
def countWhere (byLevel : List (Level × Nat)) (asked : Level → Bool) : Nat :=
  (byLevel.filter fun e => asked e.1).foldl (fun n e => n + e.2) 0

/-- What a registry rests on. -/
def ofRegistry (r : Registry) : Assumptions :=
  let levels := r.toList.map (·.level)
  let byLevel := (Level.all.map fun l => (l, levels.count l)).filter (·.2 != 0)
  let total := r.size
  let official := countWhere byLevel Level.isOfficial
  let uncertain := countWhere byLevel Level.isUncertain
  let vendor := countOf byLevel .vendorDefault
  { total := total
    official := official
    uncertain := uncertain
    byLevel := byLevel
    recommendations :=
      (if 0 < uncertain then [conventionAdvice uncertain] else []) ++
      (if 0 < vendor then [vendorAdvice vendor] else []) ++
      (if 0 < total ∧ official * 2 < total then [thresholdAdvice] else []) ++
      [closingAdvice] }

end Assumptions

end PortSurvey
