import PortSurvey.Dict
import PortSurvey.Profile.Basic
import PortSurvey.Text.Split

/-!
# Evidence from containers

The image, the environment and the volumes of a container are evidence for the profile of its
ports. Evidence only adds: it may turn encryption on, name an authentication that was unknown, and
raise the sensitivity and the grade. `Profile.withContainer` applies all of it.
-/

namespace PortSurvey

open Text

/-- What is known of a container. -/
structure Container where
  /-- Its image. -/
  image : Option String
  /-- The variables of its environment. -/
  environment : Dict String String
  /-- Its volumes. -/
  volumes : List String
  deriving DecidableEq, Repr

namespace Container

/-- A container of which only the image is known. -/
def ofImage (image : String) : Container :=
  ⟨some image, [], []⟩

/-- Whether nothing is known of a container. -/
def isEmpty (c : Container) : Bool :=
  c.image.isNone && c.environment.isEmpty && c.volumes.isEmpty

/-- What the names of images of databases hold. -/
def databaseTerms : List String :=
  ["postgres", "mysql", "mariadb", "mongo", "redis", "cassandra", "elasticsearch", "opensearch",
    "cockroach", "mssql", "neo4j", "influxdb"]

/-- What the names of images of web servers hold. -/
def webTerms : List String :=
  ["nginx", "httpd", "apache", "caddy", "traefik", "envoy", "haproxy"]

/-- What the names of variables hold that turn encryption on. -/
def encryptionTerms : List String :=
  ["tls", "ssl", "cert", "https"]

/-- What the names of variables hold that speak of authentication, and which one they speak of. -/
def authTerms : List (String × String) :=
  [("password", "password"), ("passwd", "password"), ("token", "token"), ("api_key", "api-key"),
    ("apikey", "api-key"), ("secret", "credentials"), ("auth", "credentials")]

/-- What volumes hold that bring certificates. -/
def certificateTerms : List String :=
  ["/certs", "/ssl", "/tls", "/etc/letsencrypt", ".pem", ".crt"]

/-- The values of variables that turn something off. -/
def disablingValues : List String :=
  ["false", "0", "no", "off", "disable", "disabled", "none"]

/-- Whether a text in lower case holds one of the terms. -/
def holdsTerm (terms : List String) (s : String) : Bool :=
  terms.any (holds s)

/-- Whether an image is that of a database. -/
def isDatabaseImage (image : String) : Bool :=
  holdsTerm databaseTerms (lower image)

/-- Whether an image is that of a web server, and not of a database. -/
def isWebImage (image : String) : Bool :=
  !isDatabaseImage image && holdsTerm webTerms (lower image)

/-- Whether a variable turns encryption on. -/
def turnsEncryptionOn (key value : String) : Bool :=
  holdsTerm encryptionTerms (lower key) && lower (trim value) ∉ disablingValues

/-- The authentication that the name of a variable speaks of. -/
def authOfKey? (key : String) : Option String :=
  (authTerms.find? (fun term => holds (lower key) term.1)).map (·.2)

/-- Whether a volume brings certificates. -/
def bringsCertificates (volume : String) : Bool :=
  holdsTerm certificateTerms (lower volume)

end Container

/-- A profile and the evidence that was applied to it, in words. -/
structure Evidenced where
  /-- The profile. -/
  profile : Profile
  /-- The evidence. -/
  applied : List String
  deriving DecidableEq, Repr

namespace Evidenced

/-- Applies the image of a container. -/
def withImage (e : Evidenced) (image : String) : Evidenced :=
  let p := e.profile
  if Container.isDatabaseImage image then
    ⟨{ p with
        sensitivity := max p.sensitivity .confidential
        auth := if p.authKnown then p.auth else "password" },
      e.applied ++ ["database image"]⟩
  else if Container.isWebImage image then
    ⟨{ p with protocol :=
        if p.protocol == "TCP" then (if p.encrypted then "HTTPS" else "HTTP") else p.protocol },
      e.applied ++ ["web server image"]⟩
  else e

/-- Turns encryption on where it is off, by the evidence that is told. -/
def withEncryption (e : Evidenced) (evidence : String) : Evidenced :=
  if e.profile.encrypted then e
  else ⟨{ e.profile with encrypted := true }, e.applied ++ [evidence]⟩

/-- Names an authentication where it is unknown, by the evidence that is told. -/
def withAuth (e : Evidenced) (auth evidence : String) : Evidenced :=
  if e.profile.authKnown then e
  else ⟨{ e.profile with auth := auth }, e.applied ++ [evidence]⟩

/-- Applies a variable of the environment of a container. -/
def withVariable (e : Evidenced) (key value : String) : Evidenced :=
  let e := if Container.turnsEncryptionOn key value then
    e.withEncryption "TLS environment variable" else e
  match Container.authOfKey? key with
  | some auth => e.withAuth auth "credential environment variable"
  | none => e

/-- Applies the volumes of a container. -/
def withVolumes (e : Evidenced) (volumes : List String) : Evidenced :=
  if volumes.any Container.bringsCertificates then e.withEncryption "certificate volume" else e

/-- Applies all that is known of a container. -/
def withContainer (e : Evidenced) (c : Container) : Evidenced :=
  let e := match c.image with
    | some image => e.withImage image
    | none => e
  (c.environment.foldl (fun e v => e.withVariable v.1 v.2) e).withVolumes c.volumes

end Evidenced

/-- A profile with the evidence of a container, and whether there was any. The grade rises to what
the evidence earns. -/
def Profile.withEvidence (p : Profile) (c : Container) : Profile × Bool :=
  let e := (Evidenced.mk p []).withContainer c
  if e.applied.isEmpty then (p, false)
  else
    let p := { e.profile with grade := max e.profile.grade e.profile.earnedGrade }
    (p.remark ("container hints: " ++ String.intercalate ", " e.applied), true)

/-- A profile with the evidence of a container. -/
def Profile.withContainer (p : Profile) (c : Container) : Profile :=
  (p.withEvidence c).1

end PortSurvey
