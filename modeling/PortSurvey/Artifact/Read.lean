import PortSurvey.Artifact.BuildFile
import PortSurvey.Artifact.Chart
import PortSurvey.Artifact.Compose
import PortSurvey.Artifact.Manifest
import PortSurvey.Artifact.Provisioning

/-!
# Reading artifacts

`Kind.read` reads an artifact by the rules of its kind.
-/

namespace PortSurvey.Artifact

/-- The declarations of an artifact of a kind. -/
def Kind.read (kind : Kind) (file : File) (content : String) :
    Except Fault (List Declaration) :=
  match kind with
  | .compose => Compose.read file content
  | .buildFile => .ok (BuildFile.read file content)
  | .manifest => Manifest.read file content
  | .chart => Chart.read file content
  | .provisioning => .ok (Provisioning.read file content)

end PortSurvey.Artifact
