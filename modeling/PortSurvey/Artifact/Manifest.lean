import PortSurvey.Artifact.Basic
import PortSurvey.Port.Range
import PortSurvey.Yaml.Read

/-!
# Manifests of a cluster

A manifest file is a stream of documents. A `Deployment` lists the ports of its containers, and a
`Service` the ports at which it is reached and those it leads to. Documents of other kinds declare
nothing, and one document that cannot be read spoils the file.
-/

namespace PortSurvey.Artifact.Manifest

open Yaml (Value)

/-- What a value holds under keys, each inside the one before. -/
def path? (v : Value) (keys : List String) : Option Value :=
  keys.foldl (fun v key => v.bind (·.get? key)) (some v)

/-- The text that a value holds under a key. -/
def textAt? (v : Value) (key : String) : Option String :=
  (v.get? key).bind Value.text?

/-- The port that a value holds under a key. -/
def portAt? (v : Value) (key : String) : Option Nat :=
  (v.get? key).bind Port.ofValue?

/-- The items that a value holds under keys, each inside the one before. -/
def itemsAt (v : Value) (keys : List String) : List Value :=
  ((path? v keys).bind Value.items?).getD []

/-- The name of the resource that a document describes. -/
def resourceName (file : File) (document : Value) : String :=
  ((path? document ["metadata", "name"]).bind Value.text?).getD file.service

/-- The namespace of the resource that a document describes. -/
def space? (document : Value) : Option String :=
  (path? document ["metadata", "namespace"]).bind Value.text?

/-- The transport of an entry of a list of ports. -/
def protocolOf (entry : Value) : String :=
  (textAt? entry "protocol").getD "TCP"

/-- The declaration of a port of a container of a workload. -/
def workloadPort? (file : File) (document container entry : Value) : Option Declaration :=
  (portAt? entry "containerPort").map fun port =>
    let declared := Declaration.basic (resourceName file document) port .workload file.display
    let declared := { declared with hostPort := portAt? entry "hostPort" }
    (((((declared.withProtocol (protocolOf entry)).withContext "kind" "Deployment").withContext?
      "container" (textAt? container "name")).withContext?
      "image" (textAt? container "image")).withContext?
      "port_name" (textAt? entry "name")).withContext? "namespace" (space? document)

/-- The declarations of a workload, container by container. -/
def ofWorkload (file : File) (document : Value) : List Declaration :=
  (itemsAt document ["spec", "template", "spec", "containers"]).flatMap fun container =>
    (itemsAt container ["ports"]).filterMap (workloadPort? file document container)

/-- The port that an entry of a service leads to. A name of a port leads nowhere here. -/
def target? (entry : Value) (port : Nat) : Option Nat :=
  match entry.get? "targetPort" with
  | none => some port
  | some target => Port.ofValue? target

/-- The declaration of a port of a service. -/
def servicePort? (file : File) (document entry : Value) : Option Declaration :=
  (portAt? entry "port").bind fun port =>
    (target? entry port).map fun target =>
      let kind := ((path? document ["spec", "type"]).bind Value.text?).getD "ClusterIP"
      let declared :=
        Declaration.basic (resourceName file document) target .clusterService file.display
      let declared := { declared with hostPort := some port }
      (((((declared.withProtocol (protocolOf entry)).withContext "kind" "Service").withContext
        "service_type" kind).withContext?
        "node_port" ((portAt? entry "nodePort").map toString)).withContext?
        "port_name" (textAt? entry "name")).withContext? "namespace" (space? document)

/-- The declarations of a service of a cluster. -/
def ofService (file : File) (document : Value) : List Declaration :=
  (itemsAt document ["spec", "ports"]).filterMap (servicePort? file document)

/-- The declarations of a document. -/
def ofDocument (file : File) (document : Value) : List Declaration :=
  match textAt? document "kind" with
  | some "Deployment" => ofWorkload file document
  | some "Service" => ofService file document
  | _ => []

/-- The declarations of documents, unless one of them could not be read. -/
def ofDocuments (file : File) : List (Except Yaml.Fault Value) → Except Fault (List Declaration)
  | [] => .ok []
  | .error _ :: _ => .error .malformed
  | .ok document :: rest => (ofDocuments file rest).map (ofDocument file document ++ ·)

/-- The declarations of a manifest file. -/
def read (file : File) (content : String) : Except Fault (List Declaration) :=
  ofDocuments file (Value.streamOfText content)

end PortSurvey.Artifact.Manifest
