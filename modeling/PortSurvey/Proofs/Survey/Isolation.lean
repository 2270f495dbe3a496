import PortSurvey.Proofs.Tree.Alike
import PortSurvey.Survey

/-!
# Artifacts do not disturb one another

What a survey of a tree finds is what its files contribute, one after the other, and each file
contributes by itself: an artifact that cannot be read, or is malformed, contributes nothing and
takes nothing from the others. So a change of one file changes what that file contributes and
leaves everything else as it was, in the same order (`Survey.run_isolated`).
-/

namespace PortSurvey.Survey

open Artifact (Kind)

/-- What a file contributes to a survey: its declarations if it is an artifact and can be read. -/
def contribution (t : Tree) (root p : Path) : List Declaration :=
  match Kind.ofPath? p, t.read p with
  | some kind, .ok content =>
    match kind.read (describe root p) content with
    | .ok declarations => declarations
    | .error _ => []
  | _, _ => []

/-- An artifact contributes its declarations. -/
theorem contribution_of_artifact {p : Path} {kind : Kind} (h : Kind.ofPath? p = some kind)
    (t : Tree) (root : Path) : contribution t root p = declarationsOf t.store root p kind := by
  have hread : t.store.read p = (t.read p).toOption := rfl
  unfold contribution declarationsOf
  rw [h, hread]
  cases t.read p with
  | error _ => rfl
  | ok content =>
    dsimp only [Except.toOption]
    cases kind.read (describe root p) content <;> rfl

/-- What is no artifact contributes nothing. -/
theorem contribution_of_no_artifact {p : Path} (h : Kind.ofPath? p = none) (t : Tree)
    (root : Path) : contribution t root p = [] := by
  unfold contribution
  rw [h]

/-- The declarations of the artifacts among files are what the files contribute. -/
theorem flatMap_artifacts (t : Tree) (root : Path) (files : List Path) :
    ((artifacts files).flatMap fun (p, kind) => declarationsOf t.store root p kind) =
      files.flatMap (contribution t root) := by
  unfold artifacts
  rw [List.filterMap_eq_flatMap_toList, List.flatMap_assoc]
  refine List.flatMap_congr fun p _ => ?_
  cases h : Kind.ofPath? p with
  | none =>
    rw [contribution_of_no_artifact h]
    rfl
  | some kind =>
    rw [contribution_of_artifact h]
    exact List.flatMap_singleton ..

/-- A survey of a directory finds what the first files of the walk contribute. -/
theorem run_of_directory {t : Tree} {root : Path} (h : t.find? root = some .directory)
    (limits : Limits) :
    run t.store limits root = ⟨root,
      ((t.walk root limits.depth limits.excluded).take limits.files).flatMap
        (contribution t root)⟩ := by
  have hdirectory : t.store.isDirectory root = true := Tree.isDirectory_iff.mpr h
  unfold run
  rw [if_pos hdirectory, ← flatMap_artifacts]
  rfl

/-- A survey of what is no directory finds nothing. -/
theorem run_of_not_directory {t : Tree} {root : Path} (h : t.find? root ≠ some .directory)
    (limits : Limits) : run t.store limits root = Inventory.empty root := by
  have hdirectory : ¬ t.store.isDirectory root = true := mt Tree.isDirectory_iff.mp h
  unfold run
  rw [if_neg hdirectory]

/-- What a file contributes depends on no other file. -/
theorem contribution_of_alikeBut {t t' : Tree} {f : Path} (h : t.AlikeBut f t') (ht : t.Proper)
    (root : Path) {p : Path} (hp : ¬ (t.resolve p).same (t.resolve f)) :
    contribution t' root p = contribution t root p := by
  unfold contribution
  rw [h.read_eq ht hp]

/-- A survey of a directory of a proper tree goes through the files below it in the order of their
paths, up to a number of files, and finds what they contribute, one after the other. If the tree
differs in the content of a file `f`, it goes through the same files, and all that do not lead to
`f` contribute what they did. A survey of a file, or of nothing, finds nothing. -/
theorem run_isolated {t : Tree} (ht : t.Proper) (limits : Limits) (root : Path) :
    (t.find? root = some .directory →
      ∃ files : List Path,
        files.Perm (t.filesBelow limits.excluded limits.depth root) ∧
        files.Pairwise (fun p q => p.le q) ∧
        run t.store limits root =
          ⟨root, (files.take limits.files).flatMap (contribution t root)⟩ ∧
        ∀ (f : Path) (t' : Tree), t.AlikeBut f t' →
          run t'.store limits root =
            ⟨root, (files.take limits.files).flatMap (contribution t' root)⟩ ∧
          ∀ p, ¬ (t.resolve p).same (t.resolve f) →
            contribution t' root p = contribution t root p) ∧
    ((t.find? root = none ∨ ∃ content, t.find? root = some (.file content)) →
      run t.store limits root = ⟨root, []⟩) := by
  constructor
  · intro hroot
    refine ⟨t.walk root limits.depth limits.excluded, t.walk_perm .., t.walk_pairwise ..,
      run_of_directory hroot limits, ?_⟩
    intro f t' h
    have hroot' : t'.find? root = some .directory := (h.find?_directory_iff ht root).mpr hroot
    refine ⟨?_, fun p hp => contribution_of_alikeBut h ht root hp⟩
    rw [run_of_directory hroot' limits, h.walk_eq ht]
  · intro hroot
    refine run_of_not_directory (fun hdirectory => ?_) limits
    rcases hroot with hnone | ⟨content, hfile⟩
    · exact Option.some_ne_none _ (hdirectory.symm.trans hnone)
    · exact Entry.noConfusion (Option.some.inj (hdirectory.symm.trans hfile))

/-- A workshop with a worker and a composition. -/
def workshop (composition : String) : Tree :=
  ((Tree.empty ⟨"/shop"⟩).addFile ⟨"worker/Dockerfile"⟩ "EXPOSE 7000\n").addFile
    ⟨"compose.yaml"⟩ composition

/-- If the composition of a workshop is malformed, its own declaration is missed and that of the
worker stays; a survey of the composition alone finds nothing. -/
theorem run_isolated_workshop :
    let sound := workshop "services:\n  web:\n    ports:\n      - \"8080:80\"\n"
    let malformed := workshop "services:\n  web: [unclosed\n"
    let web : Declaration :=
      { Declaration.basic "web" 80 .compose "compose.yaml" with hostPort := some 8080 }
    let worker : Declaration :=
      { Declaration.basic "worker" 7000 .buildFile "worker/Dockerfile" with line := some 1 }
    run sound.store .standard ⟨"/shop"⟩ = ⟨⟨"/shop"⟩, [web, worker]⟩ ∧
      run malformed.store .standard ⟨"/shop"⟩ = ⟨⟨"/shop"⟩, [worker]⟩ ∧
      run sound.store .standard ⟨"/shop/compose.yaml"⟩ = ⟨⟨"/shop/compose.yaml"⟩, []⟩ := by
  intro sound malformed web worker
  have hsound : sound.Proper := (Tree.Built.addFile _ _ (.addFile _ _ (.empty _))).proper
  have halike : sound.AlikeBut ⟨"compose.yaml"⟩ malformed := Tree.addFile_alikeBut _ _ _ _
  obtain ⟨files, hperm, hsorted, hrun, hothers⟩ :=
    (run_isolated hsound .standard ⟨"/shop"⟩).1 (by decide +kernel)
  obtain ⟨hrun', hkept⟩ := hothers _ _ halike
  have hfiles : files = [⟨"/shop/compose.yaml"⟩, ⟨"/shop/worker/Dockerfile"⟩] := by
    refine (hsound.walk_eq_of_perm hperm hsorted).trans (hsound.walk_eq_of_perm ?_ ?_).symm
    · decide +kernel
    · decide +kernel
  have hworker : contribution sound ⟨"/shop"⟩ ⟨"/shop/worker/Dockerfile"⟩ = [worker] := by
    decide +kernel
  have hworker' : contribution malformed ⟨"/shop"⟩ ⟨"/shop/worker/Dockerfile"⟩ = [worker] :=
    (hkept _ (by decide +kernel)).trans hworker
  have hcomposition : contribution sound ⟨"/shop"⟩ ⟨"/shop/compose.yaml"⟩ = [web] := by
    decide +kernel
  have hcomposition' : contribution malformed ⟨"/shop"⟩ ⟨"/shop/compose.yaml"⟩ = [] := by
    decide +kernel
  rw [hfiles] at hrun hrun'
  refine ⟨hrun.trans ?_, hrun'.trans ?_, ?_⟩
  · show (⟨_, contribution _ _ _ ++ (contribution _ _ _ ++ [])⟩ : Inventory) = _
    rw [hcomposition, hworker]
    rfl
  · show (⟨_, contribution _ _ _ ++ (contribution _ _ _ ++ [])⟩ : Inventory) = _
    rw [hcomposition', hworker']
    rfl
  · exact (run_isolated hsound .standard ⟨"/shop/compose.yaml"⟩).2 (.inr
      ⟨"services:\n  web:\n    ports:\n      - \"8080:80\"\n", by decide +kernel⟩)

end PortSurvey.Survey
