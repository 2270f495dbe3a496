import PortSurvey.Text.Blank
import PortSurvey.Text.Case

/-!
# Levels of documentation and thresholds of trust

A `Level` says how much the documented meaning of a port is worth, and a `Threshold` which levels
are trusted.
-/

namespace PortSurvey

/-- How much the documented meaning of a port is worth. -/
inductive Level
  /-- The port was assigned to a system service. -/
  | wellKnown
  /-- The port was registered by a user of it. -/
  | registered
  /-- The port is used alike everywhere. -/
  | widelyAdopted
  /-- One product uses the port unless told otherwise. -/
  | vendorDefault
  /-- The port is used by habit. -/
  | commonConvention
  /-- The meaning is a guess. -/
  | uncertain
  deriving DecidableEq, Repr

namespace Level

/-- All levels; an earlier one counts more. -/
def all : List Level :=
  [.wellKnown, .registered, .widelyAdopted, .vendorDefault, .commonConvention, .uncertain]

/-- The name of a level. -/
def name : Level → String
  | .wellKnown => "well-known"
  | .registered => "registered"
  | .widelyAdopted => "widely-adopted"
  | .vendorDefault => "vendor-default"
  | .commonConvention => "common-convention"
  | .uncertain => "uncertain"

/-- Whether a registry of assignments stands behind the level. -/
def isOfficial : Level → Bool
  | .wellKnown | .registered => true
  | _ => false

/-- Whether the level is no more than a habit. -/
def isUncertain : Level → Bool
  | .commonConvention | .uncertain => true
  | _ => false

/-- What a level is worth, in words. -/
def reliability : Level → String
  | .wellKnown => "Official IANA assignment - highly reliable"
  | .registered => "IANA registered port - reliable"
  | .widelyAdopted => "Industry-wide practice - generally reliable"
  | .vendorDefault => "Vendor default - reliable only for that product"
  | .commonConvention => "Common convention - verify before relying on it"
  | .uncertain => "Uncertain - treat as a guess"

end Level

/-- Which levels are trusted. -/
inductive Threshold
  /-- Official levels only. -/
  | high
  /-- All levels that are more than a habit. -/
  | medium
  /-- All levels, and ports without any documentation too. -/
  | low
  deriving DecidableEq, Repr

namespace Threshold

/-- The name of a threshold. -/
def name : Threshold → String
  | .high => "high"
  | .medium => "medium"
  | .low => "low"

/-- The threshold with a name, with blanks around it and in any case. -/
def ofName? (s : String) : Option Threshold :=
  [Threshold.high, .medium, .low].find? (·.name == Text.lower (Text.trim s))

/-- Whether a level is trusted. -/
def accepts : Threshold → Level → Bool
  | .high, level => level.isOfficial
  | .medium, level => !level.isUncertain
  | .low, _ => true

/-- Whether a port without any documentation is trusted. -/
def acceptsUnlisted (t : Threshold) : Bool :=
  t == .low

end Threshold

end PortSurvey
