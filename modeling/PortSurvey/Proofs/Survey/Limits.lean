import Mathlib.Data.List.Infix
import PortSurvey.Proofs.Survey.Isolation

/-!
# Limits only cut

A survey that looks at fewer files finds the beginning of what it would find. One that goes less
deep, or leaves out more directories, walks over fewer files in the same order
(`Tree.Proper.walk_sublist`), and each of these contributes what it would contribute otherwise,
since that depends on the root and the file alone. So the limits of a survey cut from what it finds
and change nothing in what is left (`Survey.run_limits`), as long as the wider survey looks at all
of its files: one that stops early may stop at files which the narrower one passes over.
-/

namespace PortSurvey.Survey

variable {t : Tree}

/-- A survey finds the beginning of what a survey finds that looks at more files. -/
theorem run_prefix (t : Tree) (root : Path) (limits : Limits) {fewer more : Nat}
    (h : fewer ≤ more) :
    (run t.store { limits with files := fewer } root).declarations <+:
      (run t.store { limits with files := more } root).declarations := by
  by_cases hroot : t.find? root = some .directory
  · rw [run_of_directory hroot, run_of_directory hroot]
    exact List.IsPrefix.flatMap (List.take_prefix_take_left h) _
  · rw [run_of_not_directory hroot, run_of_not_directory hroot]

/-- A survey that goes no deeper than another and leaves out what the other leaves out finds what
the other finds in the files that it looks at, if the other looks at all of its files. -/
theorem run_sublist (ht : t.Proper) (root : Path) {narrow wide : Limits}
    (hdepth : narrow.depth ≤ wide.depth) (hexcluded : ∀ s ∈ wide.excluded, s ∈ narrow.excluded)
    (hfiles : (t.walk root wide.depth wide.excluded).length ≤ wide.files) :
    (run t.store narrow root).declarations.Sublist (run t.store wide root).declarations := by
  by_cases hroot : t.find? root = some .directory
  · rw [run_of_directory hroot, run_of_directory hroot, List.take_of_length_le hfiles]
    have hwalk := ht.walk_sublist hexcluded hdepth root
    exact ((List.take_sublist _ _).trans hwalk).flatMap _
  · rw [run_of_not_directory hroot, run_of_not_directory hroot]

/-- The limits of a survey only cut. Looking at fewer files leaves the beginning of what is found.
Going less deep and leaving out more directories leaves some of it, in the same order and each
declaration as it was, if the wider survey looks at all of its files. -/
theorem run_limits (ht : t.Proper) (root : Path) :
    (∀ (limits : Limits) (fewer more : Nat), fewer ≤ more →
      (run t.store { limits with files := fewer } root).declarations <+:
        (run t.store { limits with files := more } root).declarations) ∧
    ∀ narrow wide : Limits, narrow.depth ≤ wide.depth →
      (∀ s ∈ wide.excluded, s ∈ narrow.excluded) →
      (t.walk root wide.depth wide.excluded).length ≤ wide.files →
      (run t.store narrow root).declarations.Sublist (run t.store wide root).declarations :=
  ⟨fun limits _ _ h => run_prefix t root limits h,
    fun _ _ hdepth hexcluded hfiles => run_sublist ht root hdepth hexcluded hfiles⟩

/-- The composition of a workshop is found by a survey of its first level, and then also by one of
all its levels; the build file of the worker lies further down, and after the composition. -/
theorem run_limits_workshop :
    let shop := workshop "services:\n  web:\n    ports:\n      - \"8080:80\"\n"
    let shallow : Limits := { Limits.standard with depth := 1 }
    let web : Declaration :=
      { Declaration.basic "web" 80 .compose "compose.yaml" with hostPort := some 8080 }
    shop.Proper ∧ (run shop.store shallow ⟨"/shop"⟩).declarations = [web] ∧
      [web].Sublist (run shop.store .standard ⟨"/shop"⟩).declarations ∧
      (run shop.store { Limits.standard with files := 1 } ⟨"/shop"⟩).declarations <+:
        (run shop.store { Limits.standard with files := 2 } ⟨"/shop"⟩).declarations := by
  intro shop shallow web
  have hproper : shop.Proper := (Tree.Built.addFile _ _ (.addFile _ _ (.empty _))).proper
  have hdirectory : shop.find? ⟨"/shop"⟩ = some .directory := by decide +kernel
  have hwalk : [⟨"/shop/compose.yaml"⟩] = shop.walk ⟨"/shop"⟩ 1 Limits.standard.excluded :=
    hproper.walk_eq_of_perm (by decide +kernel) (List.pairwise_singleton _ _)
  have hcontribution : contribution shop ⟨"/shop"⟩ ⟨"/shop/compose.yaml"⟩ = [web] := by
    decide +kernel
  have hrun : (run shop.store shallow ⟨"/shop"⟩).declarations = [web] := by
    rw [run_of_directory hdirectory, ← hwalk]
    exact (List.append_nil _).trans hcontribution
  have hfiles : (shop.walk ⟨"/shop"⟩ Limits.standard.depth Limits.standard.excluded).length ≤
      Limits.standard.files := by
    rw [(shop.walk_perm ..).length_eq]
    decide +kernel
  obtain ⟨hfewer, hsublist⟩ := run_limits hproper ⟨"/shop"⟩
  refine ⟨hproper, hrun, ?_, hfewer .standard 1 2 (by decide)⟩
  rw [← hrun]
  exact hsublist shallow .standard (by decide) (fun _ hs => hs) hfiles

end PortSurvey.Survey
