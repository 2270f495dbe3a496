import PortSurvey.Profile.Basic

/-!
# Kinds of services

An `Archetype` is what services of one kind have in common, and a `ServicePattern` tells by its name
that a service is of a kind.
-/

namespace PortSurvey

/-- What services of one kind have in common. -/
structure Archetype where
  /-- The name of the kind. -/
  kind : String
  /-- The ports on which they usually listen. -/
  ports : List Nat
  /-- The protocols that they speak, the usual one first. -/
  protocols : List String
  /-- Whether their traffic has to be encrypted. -/
  encrypted : Bool
  /-- How their clients prove who they are. -/
  auth : String
  /-- How sensitive their data is. -/
  sensitivity : Sensitivity
  /-- What is to be considered about their security. -/
  considerations : List String
  deriving DecidableEq, Repr

/-- The protocol that a service of a kind speaks: HTTPS if it is encrypted and may speak it, and the
usual one otherwise. -/
def Archetype.protocolFor (a : Archetype) (encrypted : Bool) : String :=
  if encrypted && "HTTPS" ∈ a.protocols then "HTTPS" else a.protocols.headD "TCP"

/-- A pattern of names, and the kind of the services that have such names. -/
structure ServicePattern where
  /-- The text of the pattern. -/
  text : String
  /-- The kind of the services. -/
  archetype : Archetype
  deriving DecidableEq, Repr

end PortSurvey
