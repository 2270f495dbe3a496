import PortSurvey.Proofs.Artifact.Spelling
import PortSurvey.Proofs.Survey.Isolation
import PortSurvey.Proofs.Tree.Agreement

/-!
# Surveys do not depend on how a tree came about

What a file contributes to a survey depends on the parts of its path and not on how they are spelled
(`Survey.contribution_congr`). So surveys of trees that agree on what is at every path find the
same, in the same order (`Survey.run_eq_of_agrees`), in whatever order the trees list their entries.
In particular it does not matter in which order files and directories were added
(`Survey.run_ofAdditions_eq_of_perm`).
-/

namespace PortSurvey.Survey

open Artifact (Kind)

variable {t t' : Tree}

/-! ## What a file contributes -/

/-- Files of the same parts are told to the reader alike, but for the path itself. -/
theorem describe_congr (root : Path) {p q : Path} (h : p.parts = q.parts) :
    describe root p = (describe root q).foundAt p := by
  have hbelow : partsBelow root p = partsBelow root q := by
    unfold partsBelow
    rw [Path.below?_congr h, h]
  unfold describe
  rw [hbelow]
  rfl

/-- A file reads the same by every spelling of its path, or by none. -/
theorem read_toOption_congr (t : Tree) {p q : Path} (h : p.parts = q.parts) :
    (t.read p).toOption = (t.read q).toOption := by
  unfold Tree.read
  dsimp only
  rw [t.at?_congr (t.resolve_parts_congr h)]
  rcases t.at? (t.resolve q) with _ | (content | _) <;> rfl

/-- A file contributes the same by every spelling of its path. -/
theorem contribution_congr (t : Tree) (root : Path) {p q : Path} (h : p.parts = q.parts) :
    contribution t root p = contribution t root q := by
  have hkind : Kind.ofPath? p = Kind.ofPath? q := by
    unfold Kind.ofPath?
    rw [Path.name?_congr h]
  have hstem : p.stem? = (describe root q).path.stem? := Path.stem?_congr h
  cases hq : Kind.ofPath? q with
  | none =>
    rw [contribution_of_no_artifact hq, contribution_of_no_artifact (hkind.trans hq)]
  | some kind =>
    have hread : t.store.read p = t.store.read q := read_toOption_congr t h
    rw [contribution_of_artifact hq, contribution_of_artifact (hkind.trans hq)]
    unfold declarationsOf
    rw [hread, describe_congr root h]
    simp only [Artifact.Kind.read_foundAt _ p kind hstem]

/-- What files contribute, one after the other, is told by the parts of their paths. -/
theorem flatMap_contribution_eq (t : Tree) (root : Path) (files : List Path) :
    files.flatMap (contribution t root) =
      (files.map Path.parts).flatMap fun parts => contribution t root (Path.ofParts parts) := by
  rw [List.flatMap_map]
  exact List.flatMap_congr fun p _ => contribution_congr t root p.ofParts_parts.symm

/-! ## Surveys of trees that agree -/

/-- A file contributes the same to surveys of trees that agree. -/
theorem contribution_of_agrees (h : t.Agrees t') (root : Path) :
    contribution t' root = contribution t root := by
  funext p
  unfold contribution
  rw [h.read_eq]

/-- Surveys of trees that agree on what is at every path find the same. -/
theorem run_eq_of_agrees (h : t.Agrees t') (ht : t.Proper) (ht' : t'.Proper) (limits : Limits)
    (root : Path) : run t'.store limits root = run t.store limits root := by
  by_cases hroot : t.find? root = some .directory
  · have hroot' : t'.find? root = some .directory := (h.find?_eq root).trans hroot
    rw [run_of_directory hroot', run_of_directory hroot, contribution_of_agrees h,
      flatMap_contribution_eq, flatMap_contribution_eq, List.map_take, List.map_take,
      h.walk_parts ht ht']
  · have hroot' : t'.find? root ≠ some .directory := fun hdirectory =>
      hroot ((h.find?_eq root).symm.trans hdirectory)
    rw [run_of_not_directory hroot', run_of_not_directory hroot]

/-- A survey finds the same, in the same order, in whatever order files and directories were added
to the tree, if no two of the files were added at one path. Directories may be added anywhere, also
where a file is added or where one is added below. -/
theorem run_ofAdditions_eq_of_perm {root : Path} {additions additions' : List Addition}
    (hdistinct : (additions.filterMap (·.fileParts? root)).Nodup)
    (h : additions.Perm additions') (limits : Limits) (r : Path) :
    run (Tree.ofAdditions root additions').store limits r =
      run (Tree.ofAdditions root additions).store limits r :=
  run_eq_of_agrees (Tree.agrees_of_perm hdistinct h) (Tree.ofAdditions_built _ _).proper
    (Tree.ofAdditions_built _ _).proper limits r

/-- A worker is found where its build file takes the place of a directory, and also where the
directory is added last. The trees spell the path of the build file differently. -/
theorem run_ofAdditions_worker :
    let additions : List Addition := [.directory ⟨"worker/Dockerfile"⟩,
      .file ⟨"worker//Dockerfile"⟩ "EXPOSE 7000\n", .directory ⟨"worker"⟩]
    let first := Tree.ofAdditions ⟨"/shop"⟩ additions
    let last := Tree.ofAdditions ⟨"/shop"⟩ additions.reverse
    let worker : Declaration :=
      { Declaration.basic "worker" 7000 .buildFile "worker/Dockerfile" with line := some 1 }
    (additions.filterMap (·.fileParts? ⟨"/shop"⟩)).Nodup ∧ additions.Perm additions.reverse ∧
      first ≠ last ∧ (run first.store .standard ⟨"/shop"⟩).declarations = [worker] ∧
      (run last.store .standard ⟨"/shop"⟩).declarations = [worker] := by
  intro additions first last worker
  have hdistinct : (additions.filterMap (·.fileParts? ⟨"/shop"⟩)).Nodup := List.nodup_singleton _
  have hperm : additions.Perm additions.reverse := (List.reverse_perm _).symm
  have hdirectory : first.find? ⟨"/shop"⟩ = some .directory := by decide +kernel
  have hwalk : [⟨"/shop/worker/Dockerfile"⟩] =
      first.walk ⟨"/shop"⟩ Limits.standard.depth Limits.standard.excluded :=
    (Tree.ofAdditions_built _ _).proper.walk_eq_of_perm (by decide +kernel)
      (List.pairwise_singleton _ _)
  have hcontribution : contribution first ⟨"/shop"⟩ ⟨"/shop/worker/Dockerfile"⟩ = [worker] := by
    decide +kernel
  have hrun : (run first.store .standard ⟨"/shop"⟩).declarations = [worker] := by
    rw [run_of_directory hdirectory, ← hwalk]
    exact (List.append_nil _).trans hcontribution
  refine ⟨hdistinct, hperm, by decide +kernel, hrun, ?_⟩
  rw [run_ofAdditions_eq_of_perm hdistinct hperm]
  exact hrun

end PortSurvey.Survey
