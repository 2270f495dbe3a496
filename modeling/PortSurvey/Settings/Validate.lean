import PortSurvey.Pattern.Parse
import PortSurvey.Settings.Basic
import PortSurvey.Settings.Fault

/-!
# Sound settings

Settings are refused at their first fault: a pattern that cannot be read or that names no protocol,
in the order of the patterns; an override of port zero or without a protocol or a service, in
ascending order of the ports; a default authentication that is blank. `Settings.fault?` finds it.
-/

namespace PortSurvey.Settings

open Text

/-- The fault of a pattern. -/
def patternFault? (p : ServicePattern) : Option Fault :=
  match Pattern.ofText? p.text with
  | .error _ => some (.pattern p.text)
  | .ok _ => if p.archetype.protocols.isEmpty then some (.noProtocols p.text) else none

/-- The fault of an override. -/
def overrideFault? (entry : Nat × Override) : Option Fault :=
  if entry.1 == 0 then some .portZero
  else if isBlankText entry.2.protocol || isBlankText entry.2.service then
    some (.incomplete entry.1)
  else none

/-- The fault of a policy. -/
def policyFault? (p : Policy) : Option Fault :=
  if isBlankText p.defaultAuth then some .blankAuth else none

/-- The first fault of settings, if they have one. -/
def fault? (s : Settings) : Option Fault :=
  ((s.patterns.findSome? patternFault?).or (s.overrides.findSome? overrideFault?)).or
    (policyFault? s.policy)

/-- The settings, unless they have a fault. -/
def validated (s : Settings) : Except Fault Settings :=
  match s.fault? with
  | some f => .error f
  | none => .ok s

end PortSurvey.Settings
