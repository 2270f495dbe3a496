import PortSurvey.Dict
import PortSurvey.Text.Blank
import PortSurvey.Text.Case

/-!
# Declarations of ports

A `Declaration` is one place where an artifact says that a service listens on a port. It tells the
service, the port inside and outside its container, the transport, where the declaration stands and
what else stands beside it. `Origin` is the kind of place, and says how far it is to be believed.
-/

namespace PortSurvey

/-- The kind of place where a port is declared. -/
inductive Origin
  /-- A service of a composition of containers. -/
  | compose
  /-- A workload of a cluster. -/
  | workload
  /-- A service of a cluster. -/
  | clusterService
  /-- A file that builds an image. -/
  | buildFile
  /-- A file that provisions infrastructure. -/
  | provisioning
  /-- The values of a chart. -/
  | chartValues
  /-- A configuration file. -/
  | configFile
  /-- An environment variable. -/
  | environmentVariable
  /-- An argument of a command. -/
  | argument
  /-- The definition of a service. -/
  | serviceDefinition
  deriving DecidableEq, Repr

namespace Origin

/-- All kinds of places, in the order in which reports list them. -/
def all : List Origin :=
  [.compose, .workload, .clusterService, .buildFile, .provisioning, .chartValues, .configFile,
    .environmentVariable, .argument, .serviceDefinition]

/-- The name of a kind of place. -/
def name : Origin → String
  | .compose => "compose"
  | .workload => "orchestrator-workload"
  | .clusterService => "orchestrator-service"
  | .buildFile => "build-file"
  | .provisioning => "provisioning"
  | .chartValues => "chart-values"
  | .configFile => "config-file"
  | .environmentVariable => "env-var"
  | .argument => "cli-arg"
  | .serviceDefinition => "service-definition"

/-- How far a declaration in such a place is believed, from 0 to 1. -/
def confidence : Origin → Rat
  | .compose | .workload | .clusterService => 1
  | .chartValues | .serviceDefinition => 9 / 10
  | .buildFile => 8 / 10
  | .provisioning => 7 / 10
  | .configFile | .argument => 6 / 10
  | .environmentVariable => 5 / 10

end Origin

/-- The name of a transport in upper case; without a name it is TCP. -/
def transportName (s : String) : String :=
  let name := Text.trim s
  if name.isEmpty then "TCP" else Text.upper name

/-- One place where an artifact declares a port. -/
structure Declaration where
  /-- The service that listens. -/
  service : String
  /-- The port inside the container. -/
  containerPort : Nat
  /-- The port outside the container, if it is published. -/
  hostPort : Option Nat
  /-- The transport, in upper case. -/
  protocol : String
  /-- The kind of place. -/
  origin : Origin
  /-- The path of the artifact below the root of the survey. -/
  file : String
  /-- The line in the artifact, where it is known. -/
  line : Option Nat
  /-- What else the artifact says there. -/
  context : Dict String String
  /-- How far the declaration is believed. -/
  confidence : Rat
  deriving DecidableEq

namespace Declaration

/-- A declaration of a TCP port that is not published, believed as far as its kind of place is. -/
def basic (service : String) (port : Nat) (origin : Origin) (file : String) : Declaration where
  service := service
  containerPort := port
  hostPort := none
  protocol := "TCP"
  origin := origin
  file := file
  line := none
  context := []
  confidence := origin.confidence

/-- The declaration with a transport. -/
def withProtocol (d : Declaration) (protocol : String) : Declaration :=
  { d with protocol := transportName protocol }

/-- The declaration with one more fact that stands beside it. -/
def withContext (d : Declaration) (key value : String) : Declaration :=
  { d with context := d.context.insert key value }

/-- The declaration with one more fact, where it is given. -/
def withContext? (d : Declaration) (key : String) : Option String → Declaration
  | some value => d.withContext key value
  | none => d

/-- Whether a fact that stands beside the declaration is `true`. -/
def isMarked (d : Declaration) (key : String) : Bool :=
  d.context.find? key == some "true"

/-- Where the declaration stands: the file, and the line if it is known. -/
def location (d : Declaration) : String :=
  match d.line with
  | some line => d.file ++ ":" ++ toString line
  | none => d.file

end Declaration

end PortSurvey
