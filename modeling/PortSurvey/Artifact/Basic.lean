import PortSurvey.Declaration
import PortSurvey.Path
import PortSurvey.Text.Case

/-!
# Artifacts

An artifact is a file whose name says that it declares ports. `Kind.ofName?` tells its kind by its
name alone; what it holds is read by the module of its kind.
-/

namespace PortSurvey.Artifact

open Text

/-- The kind of an artifact. -/
inductive Kind
  /-- A composition of containers. -/
  | compose
  /-- The instructions that build an image. -/
  | buildFile
  /-- Manifests of a cluster. -/
  | manifest
  /-- The values of a chart. -/
  | chart
  /-- A description of infrastructure. -/
  | provisioning
  deriving DecidableEq, Repr

namespace Kind

/-- The name of a kind. -/
def name : Kind → String
  | .compose => "compose"
  | .buildFile => "dockerfile"
  | .manifest => "kubernetes"
  | .chart => "chart-values"
  | .provisioning => "terraform"

/-- The kind with a name. -/
def ofName? (s : String) : Option Kind :=
  [Kind.compose, .buildFile, .manifest, .chart, .provisioning].find? (·.name == s)

/-- The names of compositions. -/
def composeNames : List String :=
  ["docker-compose.yml", "docker-compose.yaml", "compose.yml", "compose.yaml"]

/-- The names of chart files. -/
def chartNames : List String :=
  ["values.yml", "values.yaml", "chart.yml", "chart.yaml"]

/-- What the names of manifests end with. -/
def manifestEnds : List String :=
  ["deployment.yml", "deployment.yaml", "service.yml", "service.yaml"]

/-- The kind of the artifact with a file name, in any case. -/
def ofFileName? (fileName : String) : Option Kind :=
  let name := lower fileName
  if name ∈ composeNames then some .compose
  else if name == "dockerfile" || startsWith name "dockerfile." ||
      endsWith name ".dockerfile" then some .buildFile
  else if endsWith name ".tf" || endsWith name ".terraform" then some .provisioning
  else if name ∈ chartNames then some .chart
  else if manifestEnds.any (endsWith name) then some .manifest
  else none

/-- The kind of the artifact that a path leads to. -/
def ofPath? (p : Path) : Option Kind :=
  p.name?.bind ofFileName?

end Kind

/-- What a reader is told about an artifact besides its content. -/
structure File where
  /-- The path that leads to it. -/
  path : Path
  /-- Its path below the root of the survey, as declarations give it. -/
  display : String
  /-- The service to name where the artifact itself names none. -/
  service : String

/-- Why an artifact declares nothing. -/
inductive Fault
  /-- The artifact is no document, or one of its documents has no value. -/
  | malformed
  deriving DecidableEq, Repr

end PortSurvey.Artifact
