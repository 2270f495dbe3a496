import PortSurvey.Archetype.Table
import PortSurvey.Inventory.Basic
import PortSurvey.Profile.Container
import PortSurvey.Profile.Documented
import PortSurvey.Profile.Guess
import PortSurvey.Settings.Basic

/-!
# Analysis of ports and of traffic

An `Analysis` answers what is spoken on a port. `profile` asks an operator's overrides, then the
registry where it is trusted, then the number of the port; the kind of the service, its container
and the policy come on top. `declaredProfile` asks the declarations of the service before the
registry. `edge` describes the traffic between two services.
-/

namespace PortSurvey

open Text

/-- What an analysis knows. -/
structure Analysis where
  /-- What ports are documented to mean. -/
  registry : Registry
  /-- The kinds of services. -/
  table : Archetype.Table
  /-- How to judge. -/
  settings : Settings
  /-- What artifacts declare. -/
  inventory : Inventory

/-- The traffic from one service to another. -/
structure Edge where
  /-- The service that asks. -/
  source : String
  /-- The service that answers. -/
  target : String
  /-- The protocol. -/
  protocol : String
  /-- Whether the traffic is encrypted. -/
  encrypted : Bool
  /-- How the source proves who it is. -/
  auth : String
  /-- How sensitive the data is. -/
  sensitivity : Sensitivity
  /-- How well the traffic is secured. -/
  grade : Grade
  /-- The port of the target. -/
  port : Nat
  deriving DecidableEq, Repr

namespace Analysis

/-- The table for settings: with the patterns of an operator if all of them can be read. -/
def tableFor (settings : Settings) : Archetype.Table :=
  ((Archetype.Table.withPatterns settings.patterns).toOption).getD Archetype.Table.known

/-- The analysis by the usual registry of what an inventory holds. -/
def ofInventory (settings : Settings) (inventory : Inventory) : Analysis where
  registry := Registry.standard
  table := tableFor settings
  settings := settings
  inventory := inventory

/-- The names of services that only say that a port was guessed. -/
def placeholders : List String :=
  [unknownName, "custom", "development", "administrative", "database-like"]

/-- The protocols that only carry others. -/
def transports : List String :=
  ["TCP", "UDP", "SCTP"]

/-- A name without blanks around it, if it is not blank. -/
def givenName? (name : Option String) : Option String :=
  (name.map trim).filter (fun n => !n.isEmpty)

/-- The profile of a port by its number and its documentation, where that is trusted. -/
def seed (a : Analysis) (port : Nat) : Profile :=
  let threshold := a.settings.threshold
  match a.registry.find? port with
  | none => .guess port
  | some s =>
    if a.registry.trusts threshold port then .ofStandard s
    else (Profile.guess port).remark
      ("registry entry " ++ s.service ++ " not trusted at " ++ threshold.name ++ " threshold: " ++
        s.level.reliability)

/-- A profile with what services of a kind have in common. The service keeps a name that still tells
what is spoken. -/
def withArchetype (p : Profile) (name : String) (archetype : Archetype) : Profile :=
  let protocol := archetype.protocolFor archetype.encrypted
  let p := { p with
    service :=
      if protocol != p.protocol || p.service ∈ placeholders then archetype.kind else p.service
    protocol := protocol
    encrypted := archetype.encrypted
    auth := if isKnownAuth archetype.auth || !p.authKnown then archetype.auth else p.auth
    sensitivity := archetype.sensitivity }
  { p with grade := p.earnedGrade }.remark
    (name ++ " matches " ++ archetype.kind ++ " pattern")

/-- A profile with what the name of the service tells. -/
def withName (a : Analysis) (p : Profile) (name : String) : Profile :=
  match a.table.lookup? name with
  | some archetype => withArchetype p name archetype
  | none => p

/-- A profile in which unknown services are not taken to be harmless, if the settings say so. -/
def withUnknownRule (settings : Settings) (p : Profile) : Profile :=
  if settings.unknownIsConfidential && (p.service == unknownName || p.service == "custom") &&
      p.sensitivity == .internal then
    { p with sensitivity := .confidential }
  else p

/-- A profile in which nothing is taken to be open to all, if the settings say so. -/
def withPublicRule (settings : Settings) (p : Profile) : Profile :=
  if settings.explicitlyPublic && p.sensitivity == .openToAll then
    { p with sensitivity := .internal }.remark "public exposure not declared explicitly"
  else p

/-- A profile that is insecure where a service that has to be encrypted is not. -/
def withEncryptionRule (policy : Policy) (p : Profile) : Profile :=
  if policy.requiresEncryption p.service && !p.encrypted then
    { p with grade := min p.grade .insecure }.remark
      ("policy requires encryption for " ++ p.service)
  else p

/-- A profile in which a service that has to know its clients does. -/
def withAuthRule (policy : Policy) (p : Profile) : Profile :=
  if policy.requiresStrongAuth p.service && !p.authKnown then { p with auth := policy.defaultAuth }
  else p

/-- A profile under the rules of settings. -/
def withRules (settings : Settings) (p : Profile) : Profile :=
  withAuthRule settings.policy (withEncryptionRule settings.policy
    (withPublicRule settings (withUnknownRule settings p)))

/-- The profile of a port that no operator knows. -/
def inferred (a : Analysis) (port : Nat) (name : Option String) (container : Option Container) :
    Profile :=
  let p := a.seed port
  let p := match givenName? name with
    | some name => a.withName p name
    | none => p
  let p := match container.filter (fun c => !c.isEmpty) with
    | some c => p.withContainer c
    | none => p
  withRules a.settings p

/-- The profile of a port, without regard to declarations. -/
def profile (a : Analysis) (port : Nat) (name : Option String) (container : Option Container) :
    Profile :=
  match a.settings.overrides.find? port with
  | some o => o.profile port
  | none => a.inferred port name container

/-- The container of which a declaration tells the image. -/
def containerOf? (d : Declaration) : Option Container :=
  ((d.context.find? "image").or (d.context.find? "base_image")).map Container.ofImage

/-- The profile of a service that a declaration speaks of. What the port is known for stays, but
protocol, service and direction are those of the declaration. -/
def ofDeclaration (a : Analysis) (d : Declaration) (name : String)
    (container : Option Container) : Profile :=
  let known := a.profile d.containerPort (some name) (container.or (containerOf? d))
  let p := { known with
    protocol := d.protocol
    service := d.service
    description := "Declared in " ++ d.origin.name ++ " (" ++ d.location ++ ")"
    direction := if d.hostPort.isSome then .inbound else .internal }
  if known.protocol != d.protocol then p.remark ("application protocol " ++ known.protocol) else p

/-- The profile of a port of a service whose declarations come first. A declaration of another port
of the service is used, and the other port remarked. -/
def declaredProfile (a : Analysis) (port : Nat) (name : Option String)
    (container : Option Container) : Profile :=
  match givenName? name with
  | none => a.profile port none container
  | some name =>
    match a.inventory.lookup? name (some port) with
    | none => a.profile port (some name) container
    | some d =>
      let p := a.ofDeclaration d name container
      if d.containerPort == port then p
      else p.remark
        (d.service ++ " declares port " ++ toString d.containerPort ++ ", not " ++ toString port)

/-- The port inside the container that a service declares. -/
def declaredPort? (a : Analysis) (service : String) : Option Nat :=
  (a.inventory.lookup? service none).map (·.containerPort)

/-- What is known of an edge before it is graded. -/
structure Traffic where
  /-- The protocol. -/
  protocol : String
  /-- Whether the traffic is encrypted. -/
  encrypted : Bool
  /-- How the source proves who it is. -/
  auth : String
  /-- How sensitive the data is. -/
  sensitivity : Sensitivity
  /-- Whether anything is known of the target. -/
  evident : Bool
  deriving DecidableEq, Repr

namespace Traffic

/-- How services prove who they are where nothing else is known. -/
def defaultAuth : String := "service-level"

/-- Traffic of which nothing is known. -/
def plain : Traffic :=
  ⟨"HTTP", false, defaultAuth, .internal, false⟩

/-- Traffic to a service of a kind. -/
def ofTarget : Option Archetype → Traffic
  | none => plain
  | some archetype =>
    { protocol := archetype.protocolFor archetype.encrypted
      encrypted := archetype.encrypted
      auth := if isKnownAuth archetype.auth then archetype.auth else defaultAuth
      sensitivity := archetype.sensitivity
      evident := true }

/-- Traffic from a service of a kind. -/
def withSource (t : Traffic) : Option Archetype → Traffic
  | some archetype => { t with sensitivity := max t.sensitivity archetype.sensitivity }
  | none => t

/-- Traffic to a port with a profile; its protocol counts where the kind of the target is unknown
and it is more than a transport. -/
def withPort (t : Traffic) (targetKnown : Bool) (p : Profile) : Traffic where
  protocol := if !targetKnown && p.protocol ∉ transports then p.protocol else t.protocol
  encrypted := t.encrypted || p.encrypted
  auth := if t.auth == defaultAuth && p.authKnown then p.auth else t.auth
  sensitivity := max t.sensitivity p.sensitivity
  evident := true

/-- Traffic of which nothing is known is taken to be encrypted if the settings say so, and encrypted
HTTP is HTTPS. -/
def settled (t : Traffic) (assumeSecure : Bool) : Traffic :=
  let encrypted := t.encrypted || (!t.evident && assumeSecure)
  { t with
    encrypted := encrypted
    protocol := if encrypted && t.protocol == "HTTP" then "HTTPS" else t.protocol }

end Traffic

/-- The port of traffic to a service: the one that is given, or else the one that it declares. -/
def effectivePort? (a : Analysis) (target : String) (port : Option Nat) : Option Nat :=
  port.or (a.declaredPort? target)

/-- What is known of the traffic between two services. -/
def traffic (a : Analysis) (source target : String) (port : Option Nat) : Traffic :=
  let kind := a.table.lookup? target
  let t := (Traffic.ofTarget kind).withSource (a.table.lookup? source)
  let t := match a.effectivePort? target port with
    | some port => t.withPort kind.isSome (a.declaredProfile port (some target) none)
    | none => t
  t.settled a.settings.assumeSecure

/-- Whether the policy wants traffic to a service encrypted, by its name or its kind. -/
def wantsEncryption (a : Analysis) (target : String) : Bool :=
  let policy := a.settings.policy
  policy.requiresEncryption target ||
    (a.table.lookup? target).any (fun k => policy.requiresEncryption k.kind)

/-- The traffic between two services. -/
def edge (a : Analysis) (source target : String) (port : Option Nat) : Edge :=
  let t := a.traffic source target port
  let earned := Grade.ofEvidence t.encrypted (isKnownAuth t.auth)
  { source := source
    target := target
    protocol := t.protocol
    encrypted := t.encrypted
    auth := t.auth
    sensitivity := t.sensitivity
    grade := if a.wantsEncryption target && !t.encrypted then min earned .insecure else earned
    port := (a.effectivePort? target port).getD (if t.encrypted then 443 else 80) }

end Analysis

end PortSurvey
