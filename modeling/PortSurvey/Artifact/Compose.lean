import PortSurvey.Artifact.Basic
import PortSurvey.Port.Range
import PortSurvey.Yaml.Read

/-!
# Compositions of containers

Each service of a composition lists published ports under `ports` and other ports under `expose`.
A published port is written shortly, `[address:][host:]container[/transport]`, where host and
container may be ranges of one length, or as a mapping with one field for each part.
-/

namespace PortSurvey.Artifact.Compose

open Text
open Yaml (Value)

/-- A port of a service, before it is declared. -/
structure Published where
  /-- The port inside the container. -/
  container : Nat
  /-- The port outside the container. -/
  host : Option Nat
  /-- The transport. -/
  protocol : String
  /-- The address at which the port is published. -/
  address : Option String
  deriving DecidableEq, Repr

/-- The transport of ports that name none. -/
def defaultProtocol : String := "tcp"

/-- A port that is not published. -/
def Published.unpublished (protocol : String) (container : Nat) : Published :=
  ⟨container, none, protocol, none⟩

/-- The text before the first slash and the transport after it. -/
def splitProtocol (s : List Char) : List Char × String :=
  match splitOnce '/' s with
  | some (ports, protocol) => (ports, String.ofList protocol)
  | none => (s, defaultProtocol)

/-- The last, last but one and other parts of a text that is cut at colons, from its end. -/
def splitAddress (s : List Char) : List Char × Option (List Char) × Option (List Char) :=
  match splitOnceEnd ':' s with
  | none => (s, none, none)
  | some (before, container) =>
    match splitOnceEnd ':' before with
    | none => (container, some before, none)
    | some (address, host) => (container, some host, some address)

/-- A text without the brackets at its ends. -/
def trimBrackets (s : List Char) : List Char :=
  let isBracket (c : Char) : Bool := c == '[' || c == ']'
  ((s.dropWhile isBracket).reverse.dropWhile isBracket).reverse

/-- The ports outside the containers, one for each inside: those of the host part if it covers as
many, and none otherwise. -/
def hostPorts (host : Option (List Char)) (containers : List Nat) : List (Option Nat) :=
  match host.bind Port.readRange? with
  | some hosts =>
    if hosts.length = containers.length then hosts.map some else containers.map (fun _ => none)
  | none => containers.map (fun _ => none)

/-- Reads a port that is written shortly. -/
def readShort (raw : List Char) : List Published :=
  let (spec, protocol) := splitProtocol (trimChars raw)
  let (container, host, address) := splitAddress spec
  match Port.readRange? container with
  | none => []
  | some containers =>
    let host := (host.map trimChars).filter (fun h => !h.isEmpty)
    let address := (address.map trimBrackets).filter (fun a => !a.isEmpty)
    List.zipWith (fun c h => ⟨c, h, protocol, address.map String.ofList⟩) containers
      (hostPorts host containers)

/-- Reads a port that is written as a mapping. -/
def readLong (entry : Value) : List Published :=
  match (entry.get? "target").bind Port.ofValue? with
  | none => []
  | some container =>
    [{ container := container
       host := (entry.get? "published").bind Port.ofValue?
       protocol := ((entry.get? "protocol").bind Value.text?).getD defaultProtocol
       address := (entry.get? "host_ip").bind Value.text? }]

/-- The ports that an item of `ports` publishes. -/
def readPublished (entry : Value) : List Published :=
  match entry with
  | .number n => (Port.ofNumber? n).toList.map (Published.unpublished defaultProtocol)
  | .string s => readShort s.toList
  | .mapping _ => readLong entry
  | _ => []

/-- The ports that an item of `expose` names. -/
def readExposed (entry : Value) : List Published :=
  match entry with
  | .number n => (Port.ofNumber? n).toList.map (Published.unpublished defaultProtocol)
  | .string s =>
    let (ports, protocol) := splitProtocol s.toList
    ((Port.readRange? ports).getD []).map (Published.unpublished protocol)
  | _ => []

/-- The declaration of a port of a service. -/
def declare (file : File) (service : String) (image : Option String) (exposed : Bool)
    (port : Published) : Declaration :=
  let declared := { Declaration.basic service port.container .compose file.display with
    hostPort := port.host }
  let declared := declared.withProtocol port.protocol
  let declared := if exposed then declared.withContext "exposed_only" "true" else declared
  (declared.withContext? "image" image).withContext? "host_ip" port.address

/-- The declarations of a service of a composition. -/
def ofService (file : File) (name : String) (service : Value) : List Declaration :=
  let image := (service.get? "image").bind Value.text?
  let published := ((service.get? "ports").bind Value.items?).getD []
  let exposed := ((service.get? "expose").bind Value.items?).getD []
  published.flatMap (fun e => (readPublished e).map (declare file name image false)) ++
    exposed.flatMap (fun e => (readExposed e).map (declare file name image true))

/-- The declarations of a composition, service by service. -/
def ofValue (file : File) (root : Value) : List Declaration :=
  (((root.get? "services").bind Value.entries?).getD []).flatMap fun (name, service) =>
    match name.text? with
    | some name => ofService file name service
    | none => []

/-- The declarations of a composition. -/
def read (file : File) (content : String) : Except Fault (List Declaration) :=
  match Value.ofText content with
  | .ok root => .ok (ofValue file root)
  | .error _ => .error .malformed

end PortSurvey.Artifact.Compose
