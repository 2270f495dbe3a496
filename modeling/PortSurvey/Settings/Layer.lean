import PortSurvey.Settings.Basic
import PortSurvey.Settings.Fault

/-!
# Layers of settings

A `Layer` is what an operator gives, and `Layer.settings` lays it over the settings with which its
environment begins. The keys of its overrides are numbers or texts that have to denote ports; they
are read in ascending order, numbers before texts, and the last override of a port prevails.
-/

namespace PortSurvey.Settings

open Text

/-- The key of an override. -/
inductive PortKey
  /-- A port. -/
  | number (port : Nat)
  /-- A text that has to denote a port. -/
  | text (s : String)
  deriving DecidableEq, Repr

namespace PortKey

/-- Whether a key comes before another. -/
def before : PortKey → PortKey → Bool
  | .number m, .number n => m < n
  | .number _, .text _ => true
  | .text _, .number _ => false
  | .text s, .text t => s < t

instance : LT PortKey := ⟨fun a b => a.before b = true⟩

instance (a b : PortKey) : Decidable (a < b) := inferInstanceAs (Decidable (a.before b = true))

/-- The port that a key denotes. A text may have blanks around it. -/
def port : PortKey → Except Fault Nat
  | .number n => .ok n
  | .text s =>
    match Numeral.read maxPort (trimChars s.toList) with
    | .ok n => .ok n
    | .error reason => .error (.portKey s reason)

end PortKey

/-- What an operator gives of a policy. -/
structure PolicyLayer where
  /-- The services that have to be encrypted. -/
  encrypted : Option (List String)
  /-- The services that have to know their clients. -/
  strongAuth : Option (List String)
  /-- The authentication that those services are taken to have. -/
  defaultAuth : Option String
  deriving DecidableEq, Repr

/-- Names in lower case, in ascending order and each once. -/
def loweredNames (names : List String) : List String :=
  ascending (names.map lower)

/-- The policy that is given. What is left open is as in the usual policy. -/
def PolicyLayer.policy (p : PolicyLayer) : Policy where
  encrypted := loweredNames (p.encrypted.getD Policy.standard.encrypted)
  strongAuth := loweredNames (p.strongAuth.getD Policy.standard.strongAuth)
  defaultAuth := p.defaultAuth.getD Policy.standard.defaultAuth

/-- What an operator gives of settings. -/
structure Layer where
  /-- The name of the environment. -/
  environment : Option String
  /-- The name of the threshold. -/
  threshold : Option String
  /-- The overrides by their keys. -/
  overrides : Dict PortKey Override
  /-- The patterns. -/
  patterns : List ServicePattern
  /-- The policy. -/
  policy : Option PolicyLayer
  deriving DecidableEq, Repr

/-- A layer that gives nothing. -/
def Layer.empty : Layer :=
  ⟨none, none, [], [], none⟩

/-- The name of the environment that is meant where none is given. -/
def usualEnvironment : String := "production"

/-- The threshold with a name. -/
def namedThreshold (name : String) : Except Fault Threshold :=
  match Threshold.ofName? name with
  | some t => .ok t
  | none => .error (.unknownThreshold name)

/-- The settings of an environment under the threshold that is given, if one is. -/
def ofVariables (environment threshold : Option String) : Except Fault Settings :=
  let s := ofEnvironmentName (environment.getD usualEnvironment)
  match threshold with
  | none => .ok s
  | some name => (namedThreshold name).map fun t => { s with threshold := t }

/-- Puts overrides in their order over others. -/
def addOverrides (known : Dict Nat Override) (given : Dict PortKey Override) :
    Except Fault (Dict Nat Override) :=
  given.foldlM (fun d (entry : PortKey × Override) =>
    entry.1.port.map fun port => d.insert port entry.2) known

/-- The settings that a layer makes of those of its environment. -/
def Layer.settings (l : Layer) : Except Fault Settings := do
  let s ← ofVariables l.environment l.threshold
  let overrides ← addOverrides s.overrides l.overrides
  return { s with
    overrides := overrides
    patterns := l.patterns
    policy := match l.policy with
      | some p => p.policy
      | none => s.policy }

end PortSurvey.Settings
