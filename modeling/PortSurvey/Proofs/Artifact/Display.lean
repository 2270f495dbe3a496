import Mathlib.Data.List.Basic
import PortSurvey.Artifact.Read
import PortSurvey.Proofs.Declaration
import PortSurvey.Proofs.Except

/-!
# Artifacts that are shown elsewhere

The path by which an artifact is shown does not matter to what is read from it: the declarations are
the same, in the same order, and only tell another file (`Kind.read_shownAs`). So it is for every
reader, declaration by declaration.
-/

namespace PortSurvey.Artifact

open Yaml (Value)

/-- What a reader is told if the artifact is shown by another path. -/
def File.shownAs (file : File) (display : String) : File :=
  { file with display := display }

variable (file : File) (display : String)

namespace Compose

/-- A port of a service is declared alike wherever the composition is shown. -/
theorem declare_shownAs (service : String) (image : Option String) (exposed : Bool) :
    declare (file.shownAs display) service image exposed =
      .moved display ∘ declare file service image exposed := by
  funext port
  unfold declare
  cases exposed
  · simp only [Function.comp_apply, Bool.false_eq_true, if_false, Declaration.withContext?_moved,
      Declaration.withProtocol_moved]
    rfl
  · simp only [Function.comp_apply, if_true, Declaration.withContext?_moved,
      Declaration.withContext_moved, Declaration.withProtocol_moved]
    rfl

/-- So are all ports of a service. -/
theorem ofService_shownAs (name : String) (service : Value) :
    ofService (file.shownAs display) name service =
      (ofService file name service).map (.moved display) := by
  simp only [ofService, declare_shownAs, List.map_append, List.map_flatMap, List.map_map]

/-- So are all ports of a composition. -/
theorem ofValue_shownAs (root : Value) :
    ofValue (file.shownAs display) root = (ofValue file root).map (.moved display) := by
  unfold ofValue
  rw [List.map_flatMap]
  refine List.flatMap_congr fun ⟨key, service⟩ _ => ?_
  dsimp only
  split
  · exact ofService_shownAs file display _ service
  · rfl

end Compose

namespace Manifest

/-- A port of a workload is declared alike wherever the manifest is shown. -/
theorem workloadPort?_shownAs (document container : Value) :
    workloadPort? (file.shownAs display) document container =
      Option.map (.moved display) ∘ workloadPort? file document container := by
  funext entry
  unfold workloadPort?
  rw [Function.comp_apply, Option.map_map]
  congr 1
  funext port
  simp only [Function.comp_apply, Declaration.withContext?_moved, Declaration.withContext_moved,
    Declaration.withProtocol_moved]
  rfl

/-- So is a port of a service of the cluster. -/
theorem servicePort?_shownAs (document : Value) :
    servicePort? (file.shownAs display) document =
      Option.map (.moved display) ∘ servicePort? file document := by
  funext entry
  unfold servicePort?
  rw [Function.comp_apply, Option.map_bind]
  congr 1
  funext port
  rw [Function.comp_apply, Option.map_map]
  congr 1
  funext target
  simp only [Function.comp_apply, Declaration.withContext?_moved, Declaration.withContext_moved,
    Declaration.withProtocol_moved]
  rfl

/-- So are all ports of a document. -/
theorem ofDocument_shownAs (document : Value) :
    ofDocument (file.shownAs display) document =
      (ofDocument file document).map (.moved display) := by
  unfold ofDocument
  split
  · simp only [ofWorkload, workloadPort?_shownAs, List.map_flatMap, List.map_filterMap]
    rfl
  · simp only [ofService, servicePort?_shownAs, List.map_filterMap]
    rfl
  · rfl

/-- Documents are read alike or fail alike wherever the manifest is shown. -/
theorem ofDocuments_shownAs (documents : List (Except Yaml.Fault Value)) :
    ofDocuments (file.shownAs display) documents =
      (ofDocuments file documents).map (·.map (.moved display)) := by
  induction documents with
  | nil => rfl
  | cons document rest ih =>
    cases document with
    | error fault => rfl
    | ok document =>
      rw [ofDocuments, ofDocuments, ih, ofDocument_shownAs]
      cases ofDocuments file rest with
      | error fault => rfl
      | ok ds => exact congrArg Except.ok List.map_append.symm

end Manifest

namespace Chart

/-- A port is declared alike wherever the chart is shown. -/
theorem declare_shownAs (path : String) (port : Nat) (keyPath : String) :
    declare (file.shownAs display) path port keyPath =
      (declare file path port keyPath).moved display := by
  unfold declare serviceOf
  rw [Declaration.withContext_moved, Declaration.basic_moved]
  rfl

/-- So is an item of a list of ports. -/
theorem ofItem?_shownAs (path : String) (item : Value) (itemPath : String) :
    ofItem? (file.shownAs display) path item itemPath =
      (ofItem? file path item itemPath).map (.moved display) := by
  unfold ofItem?
  rw [Option.map_map]
  congr 1
  funext ⟨container, host⟩
  simp only [Function.comp_apply, declare_shownAs, Declaration.withContext?_moved,
    Declaration.withProtocol_moved]
  rfl

/-- So is what a key declares. -/
theorem ofEntry_shownAs (path : String) (entry : Value × Value) :
    ofEntry (file.shownAs display) path entry =
      (ofEntry file path entry).map (.moved display) := by
  unfold ofEntry
  split
  · simp only [declare_shownAs, List.map_map]
    rfl
  · simp only [ofItem?_shownAs, List.map_filterMap]
  · rfl

/-- So is what places declare. -/
theorem ofPlaces_shownAs (todo : List (String × Value)) :
    ofPlaces (file.shownAs display) todo = (ofPlaces file todo).map (.moved display) := by
  induction todo using ofPlaces.induct with
  | case1 => simp [ofPlaces]
  | case2 path v rest ih =>
    have hnode : ofNode (file.shownAs display) path v =
        (ofNode file path v).map (.moved display) := by
      unfold ofNode
      split
      · simp only [List.map_flatMap, ← ofEntry_shownAs]
      · rfl
    rw [ofPlaces, ofPlaces, List.map_append, ih, hnode]

end Chart

namespace BuildFile

/-- A port that is exposed is declared alike wherever the build file is shown. -/
theorem declare_shownAs (line : Nat) (image : Option String) :
    declare (file.shownAs display) line image = .moved display ∘ declare file line image := by
  funext port
  unfold declare
  dsimp only
  rw [Function.comp_apply, Declaration.withContext?_moved]
  unfold Declaration.withProtocol
  generalize transportName port.2 = name
  rfl

/-- So are all ports that instructions expose. -/
theorem ofLines_shownAs (image : Option String) (lines : List (Nat × List Char)) :
    ofLines (file.shownAs display) image lines =
      (ofLines file image lines).map (.moved display) := by
  induction lines generalizing image with
  | nil => rfl
  | cons line rest ih =>
    obtain ⟨number, text⟩ := line
    unfold ofLines
    split
    · exact ih _
    · split
      · rw [ih, declare_shownAs, List.map_append, List.map_map]
      · exact ih _

end BuildFile

namespace Provisioning

/-- A port of a block is declared alike wherever the description is shown. -/
theorem declare_shownAs (block : Option Block) (port : Nat) (host : Option Nat) (line : Nat)
    (setting : String) : declare (file.shownAs display) block port host line setting =
      (declare file block port host line setting).moved display := by
  unfold declare
  rw [Declaration.withContext_moved]
  rfl

/-- So is what the assignments of a block declare. -/
theorem ofBlock_shownAs (blocks : List Block) (sites : List Site) :
    ofBlock (file.shownAs display) blocks sites =
      List.map (.moved display) ∘ ofBlock file blocks sites := by
  funext number
  simp only [ofBlock, declare_shownAs, Function.comp_apply, List.map_map]
  refine List.map_congr_left fun ⟨site, i⟩ _ => ?_
  rw [Function.comp_apply, Declaration.withContext?_moved]

/-- So is what the pairs declare. -/
theorem ofPairs_shownAs (blocks : List Block) (s : List Char) :
    ofPairs (file.shownAs display) blocks s = (ofPairs file blocks s).map (.moved display) := by
  unfold ofPairs
  rw [List.map_filterMap]
  refine List.filterMap_congr fun ⟨offset, host, container⟩ _ => ?_
  dsimp only
  split_ifs
  · rfl
  · cases Port.read? host <;> cases Port.read? container
    case some.some => exact congrArg some (declare_shownAs ..)
    all_goals rfl

/-- So is what a description of infrastructure declares. -/
theorem read_shownAs (content : String) :
    read (file.shownAs display) content = (read file content).map (.moved display) := by
  -- The order of the lines does not look at the file.
  let byLine : Declaration → Declaration → Bool := fun d e => d.line.getD 0 ≤ e.line.getD 0
  have hsort : ∀ ds : List Declaration, (ds.mergeSort byLine).map (Declaration.moved display) =
      (ds.map (Declaration.moved display)).mergeSort byLine :=
    fun ds => List.map_mergeSort fun _ _ _ _ => rfl
  unfold read
  dsimp only
  rw [hsort, List.map_append, ← ofPairs_shownAs, ofSites, ofSites, ofBlock_shownAs,
    List.map_flatMap]
  rfl

end Provisioning

/-- What is read from an artifact is the same wherever it is shown, but for the file. -/
theorem Kind.read_shownAs (kind : Kind) (content : String) :
    kind.read (file.shownAs display) content =
      (kind.read file content).map (·.map (.moved display)) := by
  cases kind with
  | compose =>
    change Compose.read _ content = (Compose.read file content).map _
    unfold Compose.read
    cases Yaml.Value.ofText content with
    | error fault => rfl
    | ok root => exact congrArg Except.ok (Compose.ofValue_shownAs file display root)
  | buildFile => exact congrArg Except.ok (BuildFile.ofLines_shownAs file display none _)
  | manifest => exact Manifest.ofDocuments_shownAs file display _
  | chart =>
    change Chart.read _ content = (Chart.read file content).map _
    unfold Chart.read
    cases Yaml.Value.ofText content with
    | error fault => rfl
    | ok root => exact congrArg Except.ok (Chart.ofPlaces_shownAs file display _)
  | provisioning => exact congrArg Except.ok (Provisioning.read_shownAs file display content)

end PortSurvey.Artifact
