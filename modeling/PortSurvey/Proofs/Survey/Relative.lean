import PortSurvey.Proofs.Survey.Subdirectory
import PortSurvey.Proofs.Tree.Reach

/-!
# Where the files of declarations lie

A declaration gives its file by the way from the root of the survey (`Survey.GivesWay`) as long as
this root stands for itself in the tree, for which it is enough that it is absolute. A tree lists
the paths of its entries as they are seen from its own root, and what a survey cuts off them is its
root as it was asked for: if this is spelled relative to the root of the tree, nothing is cut off
that should be, and the declaration gives a longer way. So whether a declaration gives the way to
its file is told by the root of the survey alone (`Survey.run_givesWay_iff`).
-/

namespace PortSurvey.Survey

variable {t : Tree} {r p : Path} {way : List Part} {d : Declaration}

/-- A declaration gives the way to its file: the file is the one that contributes the declaration,
the way leads there from the place to which the root of the survey leads, and the declaration gives
its parts with slashes between them and none in front. To go on from the root by what the
declaration gives leads to the file. -/
def GivesWay (t : Tree) (r : Path) (d : Declaration) : Prop :=
  ∃ p way content, (p, .file content) ∈ t.entries ∧ d ∈ contribution t r p ∧
    p.parts = (t.resolve r).parts ++ way ∧ d.file = Path.joinParts way ∧
    d.file.toList.head? ≠ some '/' ∧ (t.resolve (r.join ⟨d.file⟩)).parts = p.parts

/-- What a survey finds is contributed by a file of its walk. -/
theorem exists_file_of_mem_run {limits : Limits} (h : d ∈ (run t.store limits r).declarations) :
    t.find? r = some .directory ∧
      ∃ p ∈ t.filesBelow limits.excluded limits.depth r, d ∈ contribution t r p := by
  by_cases hr : t.find? r = some .directory
  · rw [run_of_directory hr] at h
    obtain ⟨p, hp, hd⟩ := List.mem_flatMap.mp h
    exact ⟨hr, p, (t.walk_perm ..).mem_iff.mp (List.mem_of_mem_take hp), hd⟩
  · rw [run_of_not_directory hr] at h
    exact absurd h List.not_mem_nil

/-- A declaration of a file below a root that stands for itself gives the way there. -/
theorem givesWay_of_fixes {content : String} (hr : t.Fixes r) (hne : r.parts ≠ [])
    (hfile : (p, .file content) ∈ t.entries) (hd : d ∈ contribution t r p)
    (hparts : p.parts = r.parts ++ way) : GivesWay t r d := by
  have hplain := Path.plain_of_mem_way hparts hne
  have hgiven := file_of_mem_contribution (Path.below?_eq_some_iff.mpr hparts) hd
  have hrelative := Path.not_isAbsolute_joinParts hplain
  have hjoin : (r.join ⟨Path.joinParts way⟩).parts = r.parts ++ way :=
    Path.join_joinParts_parts (mt Path.parts_eq_nil_iff.mpr hne) hplain
  have hfix : t.Fixes (r.join ⟨Path.joinParts way⟩) := hr.of_prefix ⟨way, hjoin.symm⟩
  refine ⟨p, way, content, hfile, hd, ?_, hgiven, ?_, ?_⟩
  · rw [show (t.resolve r).parts = r.parts from hr, hparts]
  · rw [hgiven]
    exact fun hhead => hrelative (beq_iff_eq.mpr hhead)
  · rw [hgiven, show (t.resolve _).parts = _ from hfix, hjoin, hparts]

/-- If a declaration gives the way to its file, the root of the survey stands for itself. -/
theorem fixes_of_givesWay (ht : t.Built) (hr : t.find? r = some .directory) (h : GivesWay t r d) :
    t.Fixes r := by
  obtain ⟨p, way, content, hfile, hd, hparts, hgiven, -, -⟩ := h
  have hne : (t.resolve r).parts ≠ [] := ht.parts_ne_nil hr
  have hplain := Path.plain_of_mem_way hparts hne
  have hway : way ≠ [] := by
    -- Otherwise the file would be the directory.
    rintro rfl
    obtain ⟨q, hq, hsame⟩ := Tree.exists_mem_of_at? hr
    rw [List.append_nil] at hparts
    have heq := List.inj_on_of_nodup_map ht.proper hfile hq (hparts.trans hsame.symm)
    cases heq
  have htext : Path.joinParts (partsBelow r p) = Path.joinParts way :=
    (file_eq_of_mem_contribution hd).symm.trans hgiven
  obtain ⟨above, habove⟩ : ∃ above, p.parts = above ++ partsBelow r p ∧
      (above = r.parts ∨ above = []) := by
    unfold partsBelow
    cases hbelow : p.below? r with
    | none => exact ⟨[], rfl, .inr rfl⟩
    | some rest => exact ⟨r.parts, Path.below?_eq_some_iff.mp hbelow, .inl rfl⟩
  have hrest : partsBelow r p ≠ [] := by
    intro hnil
    have hempty : (⟨Path.joinParts way⟩ : Path).parts = [] := by
      rw [← htext, hnil]
      exact Path.parts_eq_nil_iff.mpr rfl
    rw [Path.joinParts_parts hplain] at hempty
    exact hway hempty
  have hsame := Path.eq_of_joinParts_eq (habove.1.symm.trans hparts) hrest hway htext
  have hroot : above = (t.resolve r).parts := by
    have heq := habove.1.symm.trans hparts
    rw [hsame] at heq
    exact List.append_cancel_right heq
  rcases habove.2 with rfl | rfl
  · exact hroot.symm
  · exact absurd hroot.symm hne

/-- A declaration that a survey finds gives the way to its file from the root of the survey exactly
if this root stands for itself: seen from the root of the tree, it leads nowhere else. -/
theorem run_givesWay_iff (ht : t.Built) {limits : Limits}
    (hd : d ∈ (run t.store limits r).declarations) :
    GivesWay t r d ↔ (t.resolve r).parts = r.parts := by
  obtain ⟨hr, p, hp, hcontributed⟩ := exists_file_of_mem_run hd
  refine ⟨fixes_of_givesWay ht hr, fun hfix => ?_⟩
  have hne : (t.resolve r).parts ≠ [] := ht.parts_ne_nil hr
  have hfixes : t.Fixes (t.resolve r) :=
    Tree.Fixes.of_prefix hfix ⟨[], by rw [List.append_nil, hfix]⟩
  have hsettled : t.Settled r := ⟨hfixes, hne⟩
  obtain ⟨-, way, name, content, hfile, hparts, -⟩ :=
    (Tree.mem_filesBelow_iff ht.proper hsettled).mp hp
  rw [hfix, List.append_assoc] at hparts
  exact givesWay_of_fixes hfix (hfix ▸ hne) hfile hcontributed hparts

/-- A survey of a workshop gives the way to the build file of the worker. -/
theorem run_givesWay_worker :
    let shop := workshop "services: {}\n"
    let worker : Declaration :=
      { Declaration.basic "worker" 7000 .buildFile "worker/Dockerfile" with line := some 1 }
    shop.Built ∧ worker ∈ (run shop.store .standard ⟨"/shop"⟩).declarations ∧
      GivesWay shop ⟨"/shop"⟩ worker := by
  intro shop worker
  have hbuilt : shop.Built := .addFile _ _ (.addFile _ _ (.empty _))
  have hdirectory : shop.find? ⟨"/shop"⟩ = some .directory := by decide +kernel
  have hwalk : [⟨"/shop/compose.yaml"⟩, ⟨"/shop/worker/Dockerfile"⟩] =
      shop.walk ⟨"/shop"⟩ Limits.standard.depth Limits.standard.excluded := by
    refine hbuilt.proper.walk_eq_of_perm ?_ ?_
    · decide +kernel
    · decide +kernel
  have hcontribution : contribution shop ⟨"/shop"⟩ ⟨"/shop/worker/Dockerfile"⟩ = [worker] := by
    decide +kernel
  have hrun : worker ∈ (run shop.store .standard ⟨"/shop"⟩).declarations := by
    rw [run_of_directory hdirectory, ← hwalk, List.mem_flatMap]
    refine ⟨⟨"/shop/worker/Dockerfile"⟩, List.mem_cons_of_mem _ (List.mem_singleton_self _), ?_⟩
    rw [hcontribution]
    exact List.mem_singleton_self worker
  exact ⟨hbuilt, hrun, (run_givesWay_iff hbuilt hrun).mpr (by decide +kernel)⟩

/-- Not every declaration gives the way to its file: a survey of the relative path of a directory
finds a build file there and gives it by its whole path, with the slash of the root before the first
one. -/
theorem not_run_givesWay :
    ¬ ∀ t : Tree, t.Built → ∀ (limits : Limits) (r : Path), t.find? r = some .directory →
      ∀ d ∈ (run t.store limits r).declarations, GivesWay t r d := by
  intro hall
  let t := (Tree.empty ⟨"/mock"⟩).addFile ⟨"api/Dockerfile"⟩ "EXPOSE 8000\n"
  let api : Declaration :=
    { Declaration.basic "api" 8000 .buildFile "//mock/api/Dockerfile" with line := some 1 }
  have hbuilt : t.Built := .addFile _ _ (.empty _)
  have hdirectory : t.find? ⟨"api"⟩ = some .directory := by decide +kernel
  have hwalk : [⟨"/mock/api/Dockerfile"⟩] =
      t.walk ⟨"api"⟩ Limits.standard.depth Limits.standard.excluded :=
    hbuilt.proper.walk_eq_of_perm (by decide +kernel) (List.pairwise_singleton _ _)
  have hcontribution : contribution t ⟨"api"⟩ ⟨"/mock/api/Dockerfile"⟩ = [api] := by
    decide +kernel
  have hrun : (run t.store .standard ⟨"api"⟩).declarations = [api] := by
    rw [run_of_directory hdirectory, ← hwalk]
    exact (List.append_nil _).trans hcontribution
  obtain ⟨p, way, content, -, -, -, -, hhead, -⟩ :=
    hall t hbuilt .standard ⟨"api"⟩ hdirectory api (by rw [hrun]; exact List.mem_singleton_self api)
  exact hhead (by decide)

end PortSurvey.Survey
