import PortSurvey.Dict
import PortSurvey.Registry.Level
import PortSurvey.Registry.Rows

/-!
# The registry of ports

A `Registry` says what each port is documented to mean. It is filled tier by tier; the first row
that claims a port keeps it, and the first kept row of a service keeps its name.
-/

namespace PortSurvey

/-- The documented meaning of a port. -/
structure Standard where
  /-- The port. -/
  port : Nat
  /-- The service that uses it. -/
  service : String
  /-- The protocol that the service speaks. -/
  protocol : String
  /-- What the documentation is worth. -/
  level : Level
  /-- Where that is said. -/
  citation : String
  /-- What else is to be known. -/
  notes : Option String
  deriving DecidableEq, Repr

/-- What ports are documented to mean. -/
structure Registry where
  /-- The meanings by port. -/
  standards : Dict Nat Standard
  /-- The ports by the names of their services in lower case. -/
  ports : Dict String Nat

namespace Registry

/-- A registry without ports. -/
def empty : Registry :=
  ⟨[], []⟩

/-- Adds a meaning, unless its port has one. -/
def add (r : Registry) (s : Standard) : Registry :=
  if r.standards.has s.port then r
  else
    let name := Text.lower s.service
    { standards := r.standards.insert s.port s
      ports := if r.ports.has name then r.ports else r.ports.insert name s.port }

/-- The meaning that a row gives its port at a level. -/
def Row.standard (row : Row) (level : Level) : Standard :=
  ⟨row.port, row.service, row.protocol, level, row.citation, row.notes⟩

/-- The meanings that tiers give, in the order of the tiers and their rows. -/
def claims (tiers : List (Level × List Row)) : List Standard :=
  tiers.flatMap fun (level, rows) => rows.map (·.standard level)

/-- The registry that is filled with tiers, of which earlier ones count more. -/
def ofTiers (tiers : List (Level × List Row)) : Registry :=
  (claims tiers).foldl add empty

/-- The registry of the documented ports. -/
def standard : Registry :=
  ofTiers [(.wellKnown, wellKnownRows), (.registered, registeredRows),
    (.widelyAdopted, widelyAdoptedRows), (.vendorDefault, vendorDefaultRows),
    (.commonConvention, commonConventionRows)]

/-- The number of ports. -/
def size (r : Registry) : Nat :=
  r.standards.length

/-- The meanings in ascending order of their ports. -/
def toList (r : Registry) : List Standard :=
  r.standards.values

/-- The meaning of a port. -/
def find? (r : Registry) (port : Nat) : Option Standard :=
  r.standards.find? port

/-- The port of a service, whose name may have blanks around it and be in any case. -/
def portOf? (r : Registry) (service : String) : Option Nat :=
  r.ports.find? (Text.lower (Text.trim service))

/-- What the documentation of a port is worth, in words. -/
def reliability (r : Registry) (port : Nat) : String :=
  match r.find? port with
  | some s => s.level.reliability ++ " (" ++ s.level.name ++ ": " ++ s.citation ++ ")"
  | none =>
    "Port " ++ toString port ++ " is not in the standards registry - no reliable standard"

/-- Whether a threshold trusts what is known about a port. -/
def trusts (r : Registry) (threshold : Threshold) (port : Nat) : Bool :=
  match r.find? port with
  | some s => threshold.accepts s.level
  | none => threshold.acceptsUnlisted

end Registry

end PortSurvey
