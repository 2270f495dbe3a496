import PortSurvey.Archetype.Basic

/-!
# The known kinds of services

The patterns of names and the kinds of services that they tell, in the order in which they are
tried: single products come before what many services are called.
-/

namespace PortSurvey.Archetype

/-- A kind of service that is told by a pattern. -/
def row (pattern kind : String) (ports : List Nat) (protocols : List String) (encrypted : Bool)
    (auth : String) (sensitivity : Sensitivity) (considerations : List String) :
    ServicePattern :=
  ⟨pattern, ⟨kind, ports, protocols, encrypted, auth, sensitivity, considerations⟩⟩

/-- The known kinds of services. -/
def rows : List ServicePattern :=
  [row "postgres|pgsql|\\bpg\\b" "postgresql" [5432] ["PostgreSQL"] true "password"
      .confidential ["Enforce sslmode=require", "Never expose publicly"],
    row "mysql|mariadb" "mysql" [3306] ["MySQL"] true "password"
      .confidential ["Require TLS for client connections"],
    row "mongo" "mongodb" [27017] ["MongoDB Wire"] true "password"
      .confidential ["Enable authorization; older defaults allow anonymous access"],
    row "mssql|sql-?server" "mssql" [1433] ["TDS"] true "password" .confidential [],
    row "oracle" "oracle" [1521] ["Oracle TNS"] true "password" .confidential [],
    row "cockroach" "cockroachdb" [26257] ["PostgreSQL"] true "certificate" .confidential [],
    row "redis|valkey" "redis" [6379] ["RESP"] false "password"
      .confidential ["Set requirepass or ACLs", "Plaintext unless TLS is configured"],
    row "cassandra|scylla" "cassandra" [9042] ["CQL"] false "password" .confidential [],
    row "neo4j" "neo4j" [7687, 7474] ["Bolt", "HTTP"] false "password" .confidential [],
    row "influx" "influxdb" [8086] ["HTTP"] false "token" .internal [],
    row "memcache" "memcached" [11211] ["Memcached"] false "none"
      .internal ["No authentication; keep on private networks"],
    row "etcd" "etcd" [2379, 2380] ["gRPC"] true "certificate"
      .restricted ["Holds cluster state; require mutual TLS"],
    row "kafka" "kafka" [9092] ["Kafka"] false "sasl" .internal [],
    row "rabbit|amqp" "rabbitmq" [5672, 15672] ["AMQP"] false "password"
      .internal ["Remove the default guest account"],
    row "\\bnats\\b" "nats" [4222] ["NATS"] false "token" .internal [],
    row "mqtt|mosquitto" "mqtt" [1883, 8883] ["MQTT"] false "password" .internal [],
    row "zookeeper" "zookeeper" [2181] ["ZooKeeper"] false "none" .internal [],
    row "elastic|opensearch" "elasticsearch" [9200, 9300] ["HTTP", "HTTPS"] false "basic"
      .confidential ["Indexes often hold copies of application data"],
    row "kibana" "kibana" [5601] ["HTTP", "HTTPS"] false "basic" .internal [],
    row "solr" "solr" [8983] ["HTTP"] false "basic" .confidential [],
    row "prometheus|alertmanager" "prometheus" [9090, 9093] ["HTTP"] false "none"
      .internal ["Metrics endpoints leak topology"],
    row "grafana" "grafana" [3000] ["HTTP", "HTTPS"] false "password" .internal [],
    row "jaeger|zipkin|tempo|otel|opentelemetry" "tracing"
      [16686, 9411, 4317] ["HTTP", "gRPC"] false "none" .internal [],
    row "loki" "loki" [3100] ["HTTP"] false "none" .internal [],
    row "vault" "vault" [8200] ["HTTPS"] true "token"
      .restricted ["Seal status and audit logging"],
    row "nginx|haproxy|envoy|traefik|caddy|proxy|gateway|ingress|load-?balancer" "reverse-proxy"
      [80, 443] ["HTTP", "HTTPS"] false "none" .openToAll ["Terminate TLS at the edge"],
    row "grpc" "grpc-service" [50051] ["gRPC"] false "token" .internal [],
    row "admin|dashboard|console" "admin-interface" [9000] ["HTTP", "HTTPS"] false "password"
      .confidential ["Restrict to operator networks"],
    row "api|backend|\\bsvc\\b" "api" [8080] ["HTTP", "HTTPS"] false "token" .internal [],
    row "web|frontend|www|site|\\bui\\b|\\bapp\\b" "web-application"
      [80, 443, 3000] ["HTTP", "HTTPS"] false "session" .openToAll []]

end PortSurvey.Archetype
