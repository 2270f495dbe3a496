import PortSurvey.Archetype.Basic
import PortSurvey.Dict
import PortSurvey.Profile.Basic
import PortSurvey.Registry.Level

/-!
# Settings of an analysis

`Settings` fix how far the registry is trusted, how what is unknown is judged, and what an operator
knows better. Each `Environment` has settings of its own to begin with.
-/

namespace PortSurvey

open Text

/-- How strictly an analysis judges. -/
inductive Posture
  /-- In doubt against. -/
  | strict
  /-- Both ways. -/
  | balanced
  /-- In doubt for. -/
  | permissive
  deriving DecidableEq, Repr

/-- The name of a posture. -/
def Posture.name : Posture → String
  | .strict => "strict"
  | .balanced => "balanced"
  | .permissive => "permissive"

/-- The name of a posture as the settings show it. -/
def Posture.title : Posture → String
  | .strict => "Strict"
  | .balanced => "Balanced"
  | .permissive => "Permissive"

/-- How much encryption is wanted. -/
inductive EncryptionWish
  /-- It has to be. -/
  | required
  /-- It had better be. -/
  | preferred
  /-- It may be. -/
  | optional
  deriving DecidableEq, Repr

/-- The name of a wish. -/
def EncryptionWish.name : EncryptionWish → String
  | .required => "required"
  | .preferred => "preferred"
  | .optional => "optional"

/-- The name of a wish as the settings show it. -/
def EncryptionWish.title : EncryptionWish → String
  | .required => "Required"
  | .preferred => "Preferred"
  | .optional => "Optional"

/-- Where the services under analysis run. -/
inductive Environment
  /-- For all to use. -/
  | production
  /-- For trial. -/
  | staging
  /-- For work on them. -/
  | development
  /-- For all to use, under the strictest rules. -/
  | enterprise
  deriving DecidableEq, Repr

namespace Environment

/-- All environments. -/
def all : List Environment :=
  [.production, .staging, .development, .enterprise]

/-- The name of an environment. -/
def name : Environment → String
  | .production => "production"
  | .staging => "staging"
  | .development => "development"
  | .enterprise => "enterprise"

/-- The environment with a name, with blanks around it and in any case. -/
def ofName? (s : String) : Option Environment :=
  all.find? (·.name == asciiLower (trim s))

end Environment

/-- Which services have to be encrypted and to know their clients. -/
structure Policy where
  /-- The services that have to be encrypted, in lower case and ascending order. -/
  encrypted : List String
  /-- The services that have to know their clients, in lower case and ascending order. -/
  strongAuth : List String
  /-- The authentication that those services are taken to have. -/
  defaultAuth : String
  deriving DecidableEq, Repr

namespace Policy

/-- The usual policy. -/
def standard : Policy where
  encrypted := ascending ["vault", "kubernetes-api", "etcd"]
  strongAuth := ascending ["vault", "kubernetes-api"]
  defaultAuth := "token"

/-- The policy of an enterprise. -/
def enterprise : Policy where
  encrypted := ascending ["vault", "kubernetes-api", "etcd", "postgresql", "mysql", "mongodb",
    "mssql", "oracle", "redis", "elasticsearch", "kafka", "rabbitmq", "amqp", "ldap", "smtp"]
  strongAuth := ascending ["vault", "kubernetes-api", "etcd", "api", "grpc-service",
    "admin-interface"]
  defaultAuth := "mtls"

/-- Whether a service has to be encrypted. -/
def requiresEncryption (p : Policy) (service : String) : Bool :=
  lower service ∈ p.encrypted

/-- Whether a service has to know its clients. -/
def requiresStrongAuth (p : Policy) (service : String) : Bool :=
  lower service ∈ p.strongAuth

end Policy

/-- What an operator knows of a port. -/
structure Override where
  /-- The protocol. -/
  protocol : String
  /-- The service. -/
  service : String
  /-- How the operator knows, in words. -/
  description : Option String
  /-- Whether the traffic is encrypted. -/
  encrypted : Bool
  /-- How clients prove who they are. -/
  auth : Option String
  /-- How sensitive the data is. -/
  sensitivity : Option Sensitivity
  /-- How well the port is secured. -/
  grade : Option Grade
  /-- Where the traffic comes from and goes to. -/
  direction : Option Direction
  deriving DecidableEq, Repr

/-- The profile of a port that an operator knows. What is left open is unknown, and the grade is
what the evidence earns. -/
def Override.profile (o : Override) (port : Nat) : Profile :=
  let auth := o.auth.getD unknownName
  { protocol := o.protocol
    service := o.service
    description := o.description.getD ("Operator override for port " ++ toString port)
    encrypted := o.encrypted
    auth := auth
    sensitivity := o.sensitivity.getD .internal
    grade := o.grade.getD (Grade.ofEvidence o.encrypted (isKnownAuth auth))
    direction := o.direction.getD .internal }

/-- What fixes how an analysis judges. -/
structure Settings where
  /-- How strictly it judges. -/
  posture : Posture
  /-- How much encryption is wanted. -/
  encryption : EncryptionWish
  /-- Where the services run. -/
  environment : Environment
  /-- How far the registry is trusted. -/
  threshold : Threshold
  /-- Whether traffic of which nothing is known is taken to be encrypted. -/
  assumeSecure : Bool
  /-- Whether the data of unknown services is taken to be confidential. -/
  unknownIsConfidential : Bool
  /-- Whether data is never taken to be open to all. -/
  explicitlyPublic : Bool
  /-- What an operator knows, by port. -/
  overrides : Dict Nat Override
  /-- The patterns of an operator, in the order in which they are tried. -/
  patterns : List ServicePattern
  /-- Which services have to be secured. -/
  policy : Policy
  deriving DecidableEq, Repr

namespace Settings

/-- Strict settings without exceptions. -/
def base (environment : Environment) : Settings where
  posture := .strict
  encryption := .required
  environment := environment
  threshold := .medium
  assumeSecure := false
  unknownIsConfidential := false
  explicitlyPublic := false
  overrides := []
  patterns := []
  policy := .standard

/-- The settings with which an environment begins. -/
def preset : Environment → Settings
  | .production => { base .production with unknownIsConfidential := true }
  | .staging => { base .staging with posture := .balanced, encryption := .preferred }
  | .development =>
    { base .development with
      posture := .permissive
      encryption := .optional
      threshold := .low }
  | .enterprise =>
    { base .enterprise with
      threshold := .high
      assumeSecure := true
      unknownIsConfidential := true
      explicitlyPublic := true
      policy := .enterprise }

/-- The settings of the environment with a name; a name of no environment means production. -/
def ofEnvironmentName (name : String) : Settings :=
  preset ((Environment.ofName? name).getD .production)

/-- A truth value as the settings show it. -/
def showBool (b : Bool) : String :=
  if b then "true" else "false"

/-- The settings for people to read, line by line. -/
def lines (s : Settings) : List String :=
  ["Analysis Configuration:",
    "  Environment: " ++ s.environment.name,
    "  Security Posture: " ++ s.posture.title,
    "  Encryption Policy: " ++ s.encryption.title,
    "  Confidence Threshold: " ++ s.threshold.name,
    "  Assume Secure By Default: " ++ showBool s.assumeSecure,
    "  Classify Unknown As Confidential: " ++ showBool s.unknownIsConfidential,
    "  Require Explicit Public Classification: " ++ showBool s.explicitlyPublic,
    "  Port Overrides: " ++ toString s.overrides.length,
    "  Service Pattern Overrides: " ++ toString s.patterns.length,
    "  Encrypted Services: " ++ String.intercalate ", " s.policy.encrypted]

/-- The settings for people to read. -/
def text (s : Settings) : String :=
  String.join (s.lines.map (· ++ "\n"))

end Settings

end PortSurvey
