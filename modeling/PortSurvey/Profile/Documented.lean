import PortSurvey.Profile.Basic
import PortSurvey.Registry.Basic

/-!
# Profiles of documented ports

Each service of the registry has its usual security. `ofStandard` makes the profile of a documented
port of it.
-/

namespace PortSurvey

/-- The usual security of a service. -/
structure UsualSecurity where
  /-- Whether its traffic is encrypted. -/
  encrypted : Bool
  /-- How its clients prove who they are. -/
  auth : String
  /-- How sensitive its data is. -/
  sensitivity : Sensitivity
  /-- How well it is secured. -/
  grade : Grade
  /-- Where its traffic comes from and goes to. -/
  direction : Direction
  deriving DecidableEq, Repr

namespace UsualSecurity

/-- Services with the same usual security, and that security. -/
def rows : List (List String × UsualSecurity) :=
  [(["https", "https-alt"], ⟨true, "application", .internal, .secure, .inbound⟩),
    (["http", "http-alt", "http-alt-2", "http-dev", "http-alt-dev"],
      ⟨false, "none", .openToAll, .insecure, .inbound⟩),
    (["ssh"], ⟨true, "key", .restricted, .secure, .internal⟩),
    (["telnet", "ftp", "ftp-data"], ⟨false, "password", .confidential, .insecure, .internal⟩),
    (["tftp"], ⟨false, "none", .internal, .insecure, .internal⟩),
    (["dns", "ntp", "dhcp", "syslog"], ⟨false, "none", .internal, .insecure, .internal⟩),
    (["dns-over-tls"], ⟨true, "none", .internal, .basic, .internal⟩),
    (["snmp"], ⟨false, "community", .confidential, .insecure, .internal⟩),
    (["smtp", "pop3", "imap"], ⟨false, "password", .confidential, .basic, .internal⟩),
    (["smtps", "submission", "pop3s", "imaps"],
      ⟨true, "password", .confidential, .secure, .internal⟩),
    (["ldap"], ⟨false, "bind", .confidential, .basic, .internal⟩),
    (["ldaps"], ⟨true, "bind", .confidential, .secure, .internal⟩),
    (["postgresql", "mysql", "mongodb", "mssql", "oracle", "redis", "cassandra", "couchdb",
        "cockroachdb", "neo4j-bolt", "neo4j-http", "influxdb"],
      ⟨false, "password", .confidential, .basic, .internal⟩),
    (["memcached"], ⟨false, "none", .internal, .insecure, .internal⟩),
    (["rdp"], ⟨true, "password", .restricted, .secure, .internal⟩),
    (["vnc"], ⟨false, "password", .restricted, .basic, .internal⟩),
    (["docker"], ⟨false, "none", .restricted, .insecure, .internal⟩),
    (["docker-tls", "etcd", "etcd-peer"],
      ⟨true, "certificate", .restricted, .secure, .internal⟩),
    (["kubernetes-api"], ⟨true, "token", .restricted, .secure, .internal⟩),
    (["vault"], ⟨true, "token", .restricted, .high, .internal⟩),
    (["amqp", "mqtt", "kafka", "nats", "zookeeper"],
      ⟨false, "password", .internal, .basic, .internal⟩),
    (["amqps", "mqtt-tls"], ⟨true, "password", .internal, .secure, .internal⟩),
    (["elasticsearch", "solr"], ⟨false, "basic", .confidential, .basic, .internal⟩),
    (["kibana", "rabbitmq-management", "consul"],
      ⟨false, "basic", .internal, .basic, .internal⟩),
    (["prometheus", "alertmanager", "node-exporter", "loki", "zipkin", "jaeger-ui",
        "jaeger-agent", "elasticsearch-transport", "nfs", "rsync"],
      ⟨false, "none", .internal, .insecure, .internal⟩),
    (["node-inspector"], ⟨false, "none", .restricted, .insecure, .internal⟩)]

/-- The security of a service of which nothing is known. -/
def unknown : UsualSecurity :=
  ⟨false, unknownName, .internal, .unknown, .internal⟩

/-- A name without blanks around it, in lower case and with hyphens for underscores. -/
def foldService (service : String) : String :=
  String.ofList ((Text.lower (Text.trim service)).toList.map fun c => if c == '_' then '-' else c)

/-- The usual security of a service. -/
def ofService (service : String) : UsualSecurity :=
  ((rows.find? (fun row => foldService service ∈ row.1)).map (·.2)).getD unknown

end UsualSecurity

/-- The profile of a documented port. -/
def Profile.ofStandard (s : Standard) : Profile :=
  let usual := UsualSecurity.ofService s.service
  let profile : Profile :=
    { protocol := s.protocol
      service := s.service
      description := s.protocol ++ " on port " ++ toString s.port ++ " (" ++ s.level.name ++ ": " ++
        s.citation ++ ")"
      encrypted := usual.encrypted
      auth := usual.auth
      sensitivity := usual.sensitivity
      grade := usual.grade
      direction := usual.direction }
  match s.notes with
  | some note => profile.remark note
  | none => profile

end PortSurvey
