/-!
# The documented ports

For each level the ports that are documented at it: the service, its protocol, where that is said,
and what else is to be known. A level comes before another where its word counts more.
-/

namespace PortSurvey.Registry

/-- What is documented about a port, apart from the level. -/
structure Row where
  /-- The port. -/
  port : Nat
  /-- The service that uses it. -/
  service : String
  /-- The protocol that the service speaks. -/
  protocol : String
  /-- Where that is said. -/
  citation : String
  /-- What else is to be known. -/
  notes : Option String := none
  deriving DecidableEq, Repr

/-- Where assignments and registrations are listed. -/
def assignments : String :=
  "IANA Service Name and Transport Protocol Port Number Registry"

/-- The ports that were assigned to systems. -/
def wellKnownRows : List Row :=
  [⟨20, "ftp-data", "FTP", "RFC 959", none⟩,
    ⟨21, "ftp", "FTP", "RFC 959", some "Cleartext credentials"⟩,
    ⟨22, "ssh", "SSH", "RFC 4251", none⟩,
    ⟨23, "telnet", "Telnet", "RFC 854", some "Cleartext protocol"⟩,
    ⟨25, "smtp", "SMTP", "RFC 5321", none⟩,
    ⟨53, "dns", "DNS", "RFC 1035", some "TCP and UDP"⟩,
    ⟨67, "dhcp", "DHCP", "RFC 2131", some "UDP"⟩,
    ⟨69, "tftp", "TFTP", "RFC 1350", some "UDP, no authentication"⟩,
    ⟨80, "http", "HTTP", "RFC 9110", none⟩,
    ⟨110, "pop3", "POP3", "RFC 1939", none⟩,
    ⟨123, "ntp", "NTP", "RFC 5905", some "UDP"⟩,
    ⟨143, "imap", "IMAP", "RFC 9051", none⟩,
    ⟨161, "snmp", "SNMP", "RFC 3411", some "UDP"⟩,
    ⟨389, "ldap", "LDAP", "RFC 4511", none⟩,
    ⟨443, "https", "HTTPS", "RFC 9110", none⟩,
    ⟨465, "smtps", "SMTPS", "RFC 8314", none⟩,
    ⟨514, "syslog", "Syslog", "RFC 5426", some "UDP"⟩,
    ⟨587, "submission", "SMTP", "RFC 6409", none⟩,
    ⟨636, "ldaps", "LDAPS", "RFC 4513", none⟩,
    ⟨853, "dns-over-tls", "DoT", "RFC 7858", none⟩,
    ⟨873, "rsync", "rsync", assignments, none⟩,
    ⟨993, "imaps", "IMAPS", "RFC 8314", none⟩,
    ⟨995, "pop3s", "POP3S", "RFC 8314", none⟩]

/-- The ports that were registered. -/
def registeredRows : List Row :=
  [⟨1433, "mssql", "TDS", assignments, none⟩,
    ⟨1521, "oracle", "Oracle TNS", assignments, none⟩,
    ⟨1883, "mqtt", "MQTT", assignments, none⟩,
    ⟨2049, "nfs", "NFS", "RFC 7530", none⟩,
    ⟨2375, "docker", "HTTP", assignments, some "Unencrypted Docker daemon API"⟩,
    ⟨2376, "docker-tls", "HTTPS", assignments, none⟩,
    ⟨2379, "etcd", "gRPC", assignments, none⟩,
    ⟨2380, "etcd-peer", "gRPC", assignments, none⟩,
    ⟨3306, "mysql", "MySQL", assignments, none⟩,
    ⟨3389, "rdp", "RDP", assignments, none⟩,
    ⟨5060, "sip", "SIP", "RFC 3261", none⟩,
    ⟨5222, "xmpp-client", "XMPP", "RFC 6120", none⟩,
    ⟨5432, "postgresql", "PostgreSQL", assignments, none⟩,
    ⟨5671, "amqps", "AMQPS", assignments, none⟩,
    ⟨5672, "amqp", "AMQP", assignments, none⟩,
    ⟨5900, "vnc", "RFB", "RFC 6143", none⟩,
    ⟨5984, "couchdb", "HTTP", assignments, none⟩,
    ⟨6379, "redis", "RESP", assignments, none⟩,
    ⟨8080, "http-alt", "HTTP", assignments, none⟩,
    ⟨8883, "mqtt-tls", "MQTTS", assignments, none⟩,
    ⟨11211, "memcached", "Memcached", assignments, none⟩,
    ⟨27017, "mongodb", "MongoDB Wire", assignments, none⟩]

/-- The ports that are used alike everywhere without a registration. -/
def widelyAdoptedRows : List Row :=
  [⟨2181, "zookeeper", "ZooKeeper", "Apache ZooKeeper documentation", none⟩,
    ⟨5601, "kibana", "HTTP", "Elastic documentation", none⟩,
    ⟨6443, "kubernetes-api", "HTTPS", "Kubernetes documentation", none⟩,
    ⟨7687, "neo4j-bolt", "Bolt", "Neo4j documentation", none⟩,
    ⟨8086, "influxdb", "HTTP", "InfluxData documentation", none⟩,
    ⟨8443, "https-alt", "HTTPS", "Common alternate HTTPS port", none⟩,
    ⟨9042, "cassandra", "CQL", "Apache Cassandra documentation", none⟩,
    ⟨9090, "prometheus", "HTTP", "Prometheus documentation", none⟩,
    ⟨9092, "kafka", "Kafka", "Apache Kafka documentation", none⟩,
    ⟨9200, "elasticsearch", "HTTP", "Elastic documentation", none⟩,
    ⟨9300, "elasticsearch-transport", "TCP", "Elastic documentation", none⟩,
    ⟨15672, "rabbitmq-management", "HTTP", "RabbitMQ documentation", none⟩]

/-- The ports that one product uses unless told otherwise. -/
def vendorDefaultRows : List Row :=
  [⟨3100, "loki", "HTTP", "Grafana Loki documentation", none⟩,
    ⟨4222, "nats", "NATS", "NATS documentation", none⟩,
    ⟨6831, "jaeger-agent", "UDP", "Jaeger documentation", none⟩,
    ⟨7474, "neo4j-http", "HTTP", "Neo4j documentation", none⟩,
    ⟨8200, "vault", "HTTPS", "HashiCorp Vault documentation", none⟩,
    ⟨8500, "consul", "HTTP", "HashiCorp Consul documentation", none⟩,
    ⟨8983, "solr", "HTTP", "Apache Solr documentation", none⟩,
    ⟨9093, "alertmanager", "HTTP", "Prometheus Alertmanager documentation", none⟩,
    ⟨9100, "node-exporter", "HTTP", "Prometheus node_exporter documentation", none⟩,
    ⟨9411, "zipkin", "HTTP", "Zipkin documentation", none⟩,
    ⟨16686, "jaeger-ui", "HTTP", "Jaeger documentation", none⟩,
    ⟨26257, "cockroachdb", "PostgreSQL", "CockroachDB documentation", none⟩]

/-- The ports that are used by habit. -/
def commonConventionRows : List Row :=
  [⟨3000, "node-dev", "HTTP", "Node.js / Grafana convention", some "Also Grafana default"⟩,
    ⟨4000, "dev-server", "HTTP", "Development server convention", none⟩,
    ⟨4200, "angular-dev", "HTTP", "Angular CLI default", none⟩,
    ⟨5000, "flask-dev", "HTTP", "Flask development server default", none⟩,
    ⟨5173, "vite-dev", "HTTP", "Vite development server default", none⟩,
    ⟨8000, "http-dev", "HTTP", "Django / generic development convention", none⟩,
    ⟨8008, "http-alt-dev", "HTTP", "Generic alternate HTTP convention", none⟩,
    ⟨8081, "http-alt-2", "HTTP", "Generic alternate HTTP convention", none⟩,
    ⟨8888, "jupyter", "HTTP", "Jupyter / generic alternate HTTP convention", none⟩,
    ⟨9229, "node-inspector", "WebSocket", "Node.js inspector default",
      some "Debugger, never expose"⟩]

end PortSurvey.Registry
