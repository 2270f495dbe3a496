import PortSurvey.Artifact.Read

/-!
# Artifacts that are found under another path

The path that leads to an artifact tells a reader nothing but the name of the file without its
ending, after which a description of infrastructure names what lies in no block. Where this name is
the same, so is what is read (`Kind.read_foundAt`).
-/

namespace PortSurvey.Artifact

open Yaml (Value)

/-- What a reader is told if another path leads to the artifact. -/
def File.foundAt (file : File) (p : Path) : File :=
  { file with path := p }

variable (file : File) (p : Path)

/-- A composition does not look at its path. -/
theorem Compose.ofValue_foundAt (root : Value) :
    Compose.ofValue (file.foundAt p) root = Compose.ofValue file root :=
  rfl

/-- A build file does not look at its path. -/
theorem BuildFile.ofLines_foundAt (image : Option String) (lines : List (Nat × List Char)) :
    BuildFile.ofLines (file.foundAt p) image lines = BuildFile.ofLines file image lines := by
  have hdeclare : ∀ line named, BuildFile.declare (file.foundAt p) line named =
      BuildFile.declare file line named := fun _ _ => rfl
  induction lines generalizing image with
  | nil => rfl
  | cons line rest ih => simp only [BuildFile.ofLines, hdeclare, ih]

/-- A manifest does not look at its path. -/
theorem Manifest.ofDocuments_foundAt (documents : List (Except Yaml.Fault Value)) :
    Manifest.ofDocuments (file.foundAt p) documents = Manifest.ofDocuments file documents := by
  have hdocument : ∀ document, Manifest.ofDocument (file.foundAt p) document =
      Manifest.ofDocument file document := fun _ => rfl
  induction documents with
  | nil => rfl
  | cons document rest ih =>
    cases document with
    | error fault => rfl
    | ok document => rw [Manifest.ofDocuments, Manifest.ofDocuments, ih, hdocument]

/-- A chart does not look at its path. -/
theorem Chart.ofPlaces_foundAt (todo : List (String × Value)) :
    Chart.ofPlaces (file.foundAt p) todo = Chart.ofPlaces file todo := by
  have hnode : ∀ path v, Chart.ofNode (file.foundAt p) path v = Chart.ofNode file path v :=
    fun _ _ => rfl
  induction todo using Chart.ofPlaces.induct with
  | case1 => simp only [Chart.ofPlaces]
  | case2 path v rest ih => rw [Chart.ofPlaces, Chart.ofPlaces, ih, hnode]

/-- A description of infrastructure only looks at the name of its file. -/
theorem Provisioning.read_foundAt (hstem : p.stem? = file.path.stem?) (content : String) :
    Provisioning.read (file.foundAt p) content = Provisioning.read file content := by
  have hservice : Provisioning.serviceOf (file.foundAt p) = Provisioning.serviceOf file := by
    funext block
    cases block with
    | none => exact congrArg (·.getD file.service) hstem
    | some b => rfl
  have hdeclare : Provisioning.declare (file.foundAt p) = Provisioning.declare file := by
    unfold Provisioning.declare
    rw [hservice]
    rfl
  have hblock : Provisioning.ofBlock (file.foundAt p) = Provisioning.ofBlock file := by
    unfold Provisioning.ofBlock
    rw [hdeclare]
  have hpairs : Provisioning.ofPairs (file.foundAt p) = Provisioning.ofPairs file := by
    unfold Provisioning.ofPairs
    rw [hdeclare]
  unfold Provisioning.read Provisioning.ofSites
  rw [hblock, hpairs]

/-- What is read from an artifact is the same wherever a file of its name is found. -/
theorem Kind.read_foundAt (kind : Kind) (hstem : p.stem? = file.path.stem?) (content : String) :
    kind.read (file.foundAt p) content = kind.read file content := by
  cases kind with
  | compose =>
    change Compose.read _ content = Compose.read file content
    unfold Compose.read
    simp only [Compose.ofValue_foundAt]
  | buildFile => exact congrArg Except.ok (BuildFile.ofLines_foundAt file p none _)
  | manifest => exact Manifest.ofDocuments_foundAt file p _
  | chart =>
    change Chart.read _ content = Chart.read file content
    unfold Chart.read
    simp only [Chart.ofPlaces_foundAt]
  | provisioning => exact congrArg Except.ok (Provisioning.read_foundAt file p hstem content)

end PortSurvey.Artifact
