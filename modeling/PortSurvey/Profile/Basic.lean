import PortSurvey.Text.Blank
import PortSurvey.Text.Case

/-!
# Profiles of ports

A `Profile` says what is spoken on a port, how it is secured and how sensitive the data is. Every
field has a value; what could not be found out is `unknown`. A `Grade` is earned by evidence:
encryption and an authentication that is known.
-/

namespace PortSurvey

open Text

/-- How sensitive the data on a port is. -/
inductive Sensitivity
  /-- Anyone may see it. -/
  | openToAll
  /-- It stays among the services. -/
  | internal
  /-- Few may see it. -/
  | confidential
  /-- Very few may see it. -/
  | restricted
  /-- Its loss does harm. -/
  | sensitive
  deriving DecidableEq, Repr

namespace Sensitivity

/-- All kinds of data, the least sensitive first. -/
def all : List Sensitivity :=
  [.openToAll, .internal, .confidential, .restricted, .sensitive]

/-- The place in that order. -/
def rank : Sensitivity → Nat
  | .openToAll => 0
  | .internal => 1
  | .confidential => 2
  | .restricted => 3
  | .sensitive => 4

/-- The name of a kind of data. -/
def name : Sensitivity → String
  | .openToAll => "public"
  | .internal => "internal"
  | .confidential => "confidential"
  | .restricted => "restricted"
  | .sensitive => "sensitive"

/-- The kind of data with a name. -/
def ofName? (s : String) : Option Sensitivity :=
  all.find? (·.name == s)

instance : LE Sensitivity := ⟨fun a b => a.rank ≤ b.rank⟩

instance (a b : Sensitivity) : Decidable (a ≤ b) := inferInstanceAs (Decidable (a.rank ≤ b.rank))

instance : Max Sensitivity := ⟨fun a b => if a ≤ b then b else a⟩

instance : Min Sensitivity := ⟨fun a b => if a ≤ b then a else b⟩

end Sensitivity

/-- How well a port is secured. -/
inductive Grade
  /-- Nothing is known. -/
  | unknown
  /-- Neither encryption nor authentication. -/
  | insecure
  /-- One of them. -/
  | basic
  /-- Both. -/
  | secure
  /-- Both, in a service that is made for secrets. -/
  | high
  deriving DecidableEq, Repr

namespace Grade

/-- All grades, the lowest first. -/
def all : List Grade :=
  [.unknown, .insecure, .basic, .secure, .high]

/-- The place in that order. -/
def rank : Grade → Nat
  | .unknown => 0
  | .insecure => 1
  | .basic => 2
  | .secure => 3
  | .high => 4

/-- The name of a grade. -/
def name : Grade → String
  | .unknown => "unknown"
  | .insecure => "insecure"
  | .basic => "basic"
  | .secure => "secure"
  | .high => "high-security"

/-- The grade with a name. -/
def ofName? (s : String) : Option Grade :=
  all.find? (·.name == s)

/-- The grade that evidence earns. -/
def ofEvidence (encrypted authKnown : Bool) : Grade :=
  match encrypted, authKnown with
  | true, true => .secure
  | false, false => .insecure
  | _, _ => .basic

instance : LE Grade := ⟨fun a b => a.rank ≤ b.rank⟩

instance (a b : Grade) : Decidable (a ≤ b) := inferInstanceAs (Decidable (a.rank ≤ b.rank))

instance : Max Grade := ⟨fun a b => if a ≤ b then b else a⟩

instance : Min Grade := ⟨fun a b => if a ≤ b then a else b⟩

end Grade

/-- Where the traffic of a port comes from and goes to. -/
inductive Direction
  /-- From outside to the service. -/
  | inbound
  /-- From the service to outside. -/
  | outbound
  /-- Among the services. -/
  | internal
  /-- Both ways. -/
  | bidirectional
  deriving DecidableEq, Repr

namespace Direction

/-- All directions. -/
def all : List Direction :=
  [.inbound, .outbound, .internal, .bidirectional]

/-- The name of a direction. -/
def name : Direction → String
  | .inbound => "inbound"
  | .outbound => "outbound"
  | .internal => "internal"
  | .bidirectional => "bidirectional"

/-- The direction with a name. -/
def ofName? (s : String) : Option Direction :=
  all.find? (·.name == s)

end Direction

/-- What stands for a service or an authentication that could not be found out. -/
def unknownName : String := "unknown"

/-- Whether an authentication is known: it is not blank, and it is neither `unknown` nor `none`. -/
def isKnownAuth (auth : String) : Bool :=
  let auth := asciiLower (trim auth)
  !(auth.isEmpty || auth == unknownName || auth == "none")

/-- What is spoken on a port, and how it is secured. -/
structure Profile where
  /-- The protocol. -/
  protocol : String
  /-- The service. -/
  service : String
  /-- How the profile came about, in words. -/
  description : String
  /-- Whether the traffic is encrypted. -/
  encrypted : Bool
  /-- How clients prove who they are. -/
  auth : String
  /-- How sensitive the data is. -/
  sensitivity : Sensitivity
  /-- How well the port is secured. -/
  grade : Grade
  /-- Where the traffic comes from and goes to. -/
  direction : Direction
  deriving DecidableEq, Repr

namespace Profile

/-- The profile of a port of which nothing is known. -/
def unknown (port : Nat) : Profile where
  protocol := "TCP"
  service := unknownName
  description := "Unknown service on port " ++ toString port
  encrypted := false
  auth := unknownName
  sensitivity := .internal
  grade := .unknown
  direction := .internal

/-- Whether the authentication is known. -/
def authKnown (p : Profile) : Bool :=
  isKnownAuth p.auth

/-- The grade that the evidence of a profile earns. -/
def earnedGrade (p : Profile) : Grade :=
  .ofEvidence p.encrypted p.authKnown

/-- The profile with one more remark on how it came about. -/
def remark (p : Profile) (note : String) : Profile :=
  { p with description :=
      if p.description.isEmpty then note else p.description ++ "; " ++ note }

end Profile

end PortSurvey
