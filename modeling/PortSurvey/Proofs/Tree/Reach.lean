import PortSurvey.Proofs.Tree.Additions
import PortSurvey.Proofs.Tree.Search

/-!
# Which walks find all that is within reach

A walk always ends and lists what it finds in the order of the paths. What it finds is what is
within its reach, each file once, if the place to which its root leads stands for itself
(`Tree.Built.exactWalk`): below such a place every directory is listed as it is. Otherwise the root
of the tree is put before the path of a directory for a second time when the walk comes to list it,
and the walk looks for it where it is not. `outpost` is a tree in which a walk misses a file for
that reason (`Tree.not_exactWalk_outpost`). So the walks from a path find all that is within reach
in every tree with a given root exactly if the path, seen from there twice, leads where it leads
seen once (`Tree.walk_exact_iff`).
-/

namespace PortSurvey.Tree

open Search

variable {t : Tree} {r : Path}

/-! ## Settled walks -/

/-- The directories of a tree that is built have parts. -/
theorem Built.parts_ne_nil (ht : t.Built) {p : Path} (hp : t.at? p = some .directory) :
    p.parts ≠ [] := by
  have hadd : ∀ (s : Tree) (x : Addition), (s.at? p = some .directory → p.parts ≠ []) →
      (s.add x).at? p = some .directory → p.parts ≠ [] := by
    intro s x hs hx hnil
    rw [at?_add, Option.or_eq_some_iff, Option.or_eq_some_iff] at hx
    rcases hx with hfile | ⟨-, hold | ⟨-, hnew⟩⟩
    · cases x with
      | file q content => simp [Addition.fileAt?] at hfile
      | directory q => cases hfile
    · exact hs hold hnil
    · simp [Addition.directoryAt?, hnil] at hnew
  induction ht with
  | empty root => cases hp
  | @addFile s q content _ ih => exact hadd s (.file q content) ih hp
  | @addDirectory s q _ ih => exact hadd s (.directory q) ih hp

/-- A walk does what is asked of it: it finds what is within its reach, in strictly ascending order
of the paths. -/
structure ExactWalk (t : Tree) (r : Path) (depth : Nat) (excluded : List String) : Prop where
  /-- The files are in the order of their paths, and no two of them have the same. -/
  ascending : (t.walk r depth excluded).Pairwise fun p q => p.le q ∧ p.parts ≠ q.parts
  /-- A file is found exactly if the walk begins at a directory and the file is within its reach. -/
  mem_iff : ∀ p, p ∈ t.walk r depth excluded ↔
    t.find? r = some .directory ∧ t.Reaches excluded depth r p

/-- What is no directory has no files below it. -/
theorem filesBelow_of_not_directory (h : t.find? r ≠ some .directory) (excluded : List String)
    (depth : Nat) : t.filesBelow excluded depth r = [] := by
  cases depth with
  | zero => rfl
  | succ depth =>
    rw [filesBelow_succ, children_of_not_directory h]
    rfl

/-- A walk of what is no directory finds nothing. -/
theorem walk_of_not_directory (h : t.find? r ≠ some .directory) (depth : Nat)
    (excluded : List String) : t.walk r depth excluded = [] := by
  have hperm := t.walk_perm r depth excluded
  rw [filesBelow_of_not_directory h] at hperm
  exact hperm.eq_nil

/-- If the place to which the root of a walk leads stands for itself, the walk does what is asked of
it. -/
theorem Built.exactWalk (ht : t.Built) (hr : t.Fixes (t.resolve r)) (depth : Nat)
    (excluded : List String) : t.ExactWalk r depth excluded := by
  by_cases hdirectory : t.find? r = some .directory
  · have hsettled : t.Settled r := ⟨hr, ht.parts_ne_nil hdirectory⟩
    have hnodup : (t.walk r depth excluded).Nodup :=
      (t.walk_perm r depth excluded).nodup_iff.mpr (filesBelow_nodup ht.proper _ _ hsettled)
    constructor
    · refine ((t.walk_pairwise r depth excluded).and hnodup).imp_of_mem ?_
      rintro p q hp hq ⟨hle, hne⟩
      obtain ⟨_, hentry⟩ := mem_entries_of_mem_filesBelow ((t.walk_perm ..).mem_iff.mp hp)
      obtain ⟨_, hentry'⟩ := mem_entries_of_mem_filesBelow ((t.walk_perm ..).mem_iff.mp hq)
      exact ⟨hle, fun hparts => hne
        (congrArg Prod.fst (List.inj_on_of_nodup_map ht.proper hentry hentry' hparts))⟩
    · intro p
      rw [(t.walk_perm ..).mem_iff, mem_filesBelow_iff ht.proper hsettled]
  · constructor
    · rw [walk_of_not_directory hdirectory]
      exact .nil
    · intro p
      rw [walk_of_not_directory hdirectory]
      exact iff_of_false List.not_mem_nil fun h => hdirectory h.1

/-! ## Walks that lose their way -/

/-- The tree with one file, two levels below a path. -/
def outpost (root r : Path) : Tree :=
  ofAdditions root [.file ((r.join ⟨"a"⟩).join ⟨"b"⟩) ""]

/-- Paths are seen from the root of an outpost. -/
theorem outpost_resolve (root r p : Path) : (outpost root r).resolve p = root.join p := by
  unfold resolve outpost
  rw [ofAdditions_root]

/-- The path of the directory of an outpost. -/
theorem outpost_directory_parts (root r : Path) :
    (root.join (r.join ⟨"a"⟩)).parts = (root.join r).parts ++ [.name "a"] := by
  have hplain : Part.Plain (.name "a") := ⟨by decide, by decide, by decide, by decide⟩
  exact Path.join_join_parts hplain root r

/-- The path of the file of an outpost. -/
theorem outpost_parts (root r : Path) :
    (root.join ((r.join ⟨"a"⟩).join ⟨"b"⟩)).parts =
      (root.join r).parts ++ [.name "a"] ++ [.name "b"] := by
  have hplain : Part.Plain (.name "b") := ⟨by decide, by decide, by decide, by decide⟩
  rw [← outpost_directory_parts]
  exact Path.join_join_parts hplain root _

/-- What is at a path of an outpost. -/
theorem at?_outpost (root r q : Path) :
    (outpost root r).at? q =
      if (root.join r).parts ++ [.name "a"] ++ [.name "b"] = q.parts then some (.file "")
      else if q.parts ≠ [] ∧ q.parts <+: (root.join r).parts ++ [.name "a"] then some .directory
      else none := by
  have hparent : (root.join ((r.join ⟨"a"⟩).join ⟨"b"⟩)).parentParts? =
      some ((root.join r).parts ++ [.name "a"]) :=
    Path.parentParts?_eq_some_iff.mpr ⟨_, Part.noConfusion, outpost_parts root r⟩
  unfold outpost
  rw [at?_ofAdditions, List.reverse_singleton, List.findSome?_singleton, List.findSome?_singleton,
    Addition.fileAt?, Addition.directoryAt?, Addition.way, hparent, outpost_parts, Option.getD_some]
  split_ifs <;> rfl

/-- The directories of an outpost are those above its file. -/
theorem at?_outpost_eq_directory_iff {root r q : Path} :
    (outpost root r).at? q = some .directory ↔
      q.parts ≠ [] ∧ q.parts <+: (root.join r).parts ++ [.name "a"] := by
  rw [at?_outpost]
  by_cases hway : q.parts ≠ [] ∧ q.parts <+: (root.join r).parts ++ [.name "a"]
  · have hfile : (root.join r).parts ++ [.name "a"] ++ [.name "b"] ≠ q.parts := by
      intro heq
      have hlength := hway.2.length_le
      rw [← heq, List.length_append] at hlength
      exact absurd hlength (Nat.not_succ_le_self _)
    rw [if_neg hfile, if_pos hway]
    exact iff_of_true rfl hway
  · rw [if_neg hway]
    refine iff_of_false (fun h => ?_) hway
    split_ifs at h
    cases h

/-- The file of an outpost is within reach of a walk of two levels. -/
theorem exists_reaches_outpost {root r : Path} (hne : (root.join r).parts ≠ []) :
    (outpost root r).find? r = some .directory ∧ ∃ p, (outpost root r).Reaches [] 2 r p ∧
      p.parts = (root.join r).parts ++ [.name "a"] ++ [.name "b"] := by
  have hroot : (outpost root r).find? r = some .directory := by
    unfold find?
    rw [outpost_resolve, at?_outpost_eq_directory_iff]
    exact ⟨hne, List.prefix_append _ _⟩
  have hfile : (outpost root r).at? (root.join ((r.join ⟨"a"⟩).join ⟨"b"⟩)) = some (.file "") := by
    rw [at?_outpost, if_pos (outpost_parts root r).symm]
  obtain ⟨p, hp, hparts⟩ := exists_mem_of_at? hfile
  rw [outpost_parts] at hparts
  have hdirectory : (outpost root r).at? (root.join (r.join ⟨"a"⟩)) = some .directory := by
    rw [at?_outpost_eq_directory_iff, outpost_directory_parts]
    exact ⟨List.append_ne_nil_of_left_ne_nil hne _, List.prefix_refl _⟩
  obtain ⟨d, hd, hdparts⟩ := exists_mem_of_at? hdirectory
  rw [outpost_directory_parts] at hdparts
  refine ⟨hroot, p, ⟨[.name "a"], .name "b", "", hp, ?_, by decide, ?_⟩, hparts⟩
  · rw [outpost_resolve, hparts]
  · rw [outpost_resolve]
    exact ⟨⟨d, hd, hdparts, List.not_mem_nil⟩, trivial⟩

/-- A walk misses the file of an outpost if the path that leads there does not stand for itself. -/
theorem not_exactWalk_outpost {root r : Path}
    (h : (root.join (root.join r)).parts ≠ (root.join r).parts) :
    ¬ (outpost root r).ExactWalk r 2 [] := by
  intro hexact
  have hne := Path.parts_ne_nil_of_join_join_ne h
  have hlonger := Path.length_lt_of_join_join_ne h
  obtain ⟨hroot, p, hreaches, hparts⟩ := exists_reaches_outpost hne
  have hfound := (hexact.mem_iff p).mpr ⟨hroot, hreaches⟩
  rw [(walk_perm ..).mem_iff, filesBelow_succ, List.mem_flatMap] at hfound
  obtain ⟨⟨q, entry⟩, hchild, hp⟩ := hfound
  obtain ⟨-, -, last, -, hlast⟩ := mem_children_iff.mp hchild
  rw [outpost_resolve] at hlast
  cases entry with
  | file content =>
    -- The file lies deeper than the entries of the directory.
    rw [filesAt, List.mem_singleton] at hp
    rw [hp, hlast] at hparts
    simpa using congrArg List.length hparts
  | directory =>
    -- The walk lists the directory in a place that is too deep to be one.
    rw [filesAt, if_neg List.not_mem_nil] at hp
    have hdirectory : (outpost root r).find? q = some .directory := by
      by_contra hnot
      rw [filesBelow_of_not_directory hnot] at hp
      exact List.not_mem_nil hp
    unfold find? at hdirectory
    rw [outpost_resolve, at?_outpost_eq_directory_iff] at hdirectory
    have hlength := hdirectory.2.length_le
    rw [Path.join_parts_append hlast hne, List.length_append, List.length_append] at hlength
    simp only [List.length_singleton, Nat.add_le_add_iff_right] at hlength
    omega

/-- A walk always ends, whatever the order of the entries, it has found what is found by recursion
then, and finds nothing where there is no directory. The walks from a path do what is asked of them,
in all trees that are built with a root, exactly if the path leads, seen from the root, to a place
that leads nowhere else when it is seen from there again. -/
theorem walk_exact_iff (root r : Path) :
    (∀ t : Tree, t.Built → t.root = root → ∀ depth excluded,
      (WellFounded fun s' s => Turn t depth excluded s s') ∧
      (∀ s, Relation.ReflTransGen (Turn t depth excluded) (start r) s →
        (s.pending ≠ [] → ∃ s', Turn t depth excluded s s') ∧
        (s.pending = [] → s.found.mergeSort Path.le = t.walk r depth excluded)) ∧
      (t.find? r ≠ some .directory → t.walk r depth excluded = [])) ∧
    ((∀ t : Tree, t.Built → t.root = root → ∀ depth excluded, t.ExactWalk r depth excluded) ↔
      (root.join (root.join r)).parts = (root.join r).parts) := by
  refine ⟨fun t ht _ depth excluded => ?_, fun hall => ?_, ?_⟩
  · obtain ⟨hends, hfinds⟩ := search_ends ht.proper r depth excluded
    exact ⟨hends, hfinds, fun h => walk_of_not_directory h depth excluded⟩
  · by_contra h
    exact not_exactWalk_outpost h
      (hall _ (ofAdditions_built _ _) (ofAdditions_root _ _) 2 [])
  · rintro h t ht rfl depth excluded
    exact ht.exactWalk h depth excluded

/-- A walk of a directory whose own name is excluded finds the manifest below it, and leaves out a
file in a directory further down that has the name. -/
theorem walk_exact_vendor :
    let t := ofAdditions ⟨"/vendor"⟩
      [.file ⟨"deploy/service.yaml"⟩ "", .file ⟨"vendor/chart.yaml"⟩ "", .directory ⟨"empty"⟩]
    let files := t.walk ⟨"/vendor"⟩ 2 [".git", "vendor"]
    ((⟨"/vendor"⟩ : Path).join ((⟨"/vendor"⟩ : Path).join ⟨"/vendor"⟩)).parts =
        ((⟨"/vendor"⟩ : Path).join ⟨"/vendor"⟩).parts ∧
      ⟨"/vendor/deploy/service.yaml"⟩ ∈ files ∧ ⟨"/vendor/vendor/chart.yaml"⟩ ∉ files := by
  intro t files
  have hfix : ((⟨"/vendor"⟩ : Path).join ((⟨"/vendor"⟩ : Path).join ⟨"/vendor"⟩)).parts =
      ((⟨"/vendor"⟩ : Path).join ⟨"/vendor"⟩).parts := by decide
  have hexact : t.ExactWalk ⟨"/vendor"⟩ 2 [".git", "vendor"] :=
    (walk_exact_iff ⟨"/vendor"⟩ ⟨"/vendor"⟩).2.mpr hfix t (ofAdditions_built _ _)
      (ofAdditions_root _ _) 2 _
  refine ⟨hfix, (hexact.mem_iff _).mpr ⟨by decide +kernel, ?_⟩, fun hfound => ?_⟩
  · refine ⟨[.name "deploy"], .name "service.yaml", "", ?_, ?_, by decide, ⟨?_, trivial⟩⟩
    · decide +kernel
    · decide +kernel
    · exact ⟨⟨"/vendor/deploy"⟩, by decide +kernel, by decide +kernel, by decide +kernel⟩
  · obtain ⟨-, way, name, content, -, hparts, -, hpasses⟩ := (hexact.mem_iff _).mp hfound
    have hroot : (t.resolve ⟨"/vendor"⟩).parts = [.root, .name "vendor"] := by decide +kernel
    have hfile : (⟨"/vendor/vendor/chart.yaml"⟩ : Path).parts =
        [.root, .name "vendor"] ++ ([.name "vendor"] ++ [.name "chart.yaml"]) := by decide +kernel
    rw [hroot, hfile, List.append_assoc, List.append_cancel_left_eq,
      List.append_singleton_inj] at hparts
    obtain ⟨rfl, rfl⟩ := hparts
    obtain ⟨⟨q, -, hq, hname⟩, -⟩ := hpasses
    rw [hroot] at hq
    rw [Path.name?, hq] at hname
    exact hname (by decide)

/-- Not every walk finds what is within its reach: a tree whose root is relative holds a manifest
two levels down, and a walk from its root finds nothing. -/
theorem not_walk_exact :
    ¬ ∀ t : Tree, t.Built → ∀ r depth excluded, t.ExactWalk r depth excluded := by
  intro hall
  let t := ofAdditions ⟨"rel"⟩ [.file ⟨"deploy/service.yaml"⟩ ""]
  have hnone : t.walk ⟨""⟩ 10 [] = [] := by
    have hperm := t.walk_perm ⟨""⟩ 10 []
    have hbelow : t.filesBelow [] 10 ⟨""⟩ = [] := by decide +kernel
    rw [hbelow] at hperm
    exact hperm.eq_nil
  have hreaches : t.Reaches [] 10 ⟨""⟩ ⟨"rel/deploy/service.yaml"⟩ := by
    refine ⟨[.name "deploy"], .name "service.yaml", "", ?_, ?_, by decide, ⟨?_, trivial⟩⟩
    · decide +kernel
    · decide +kernel
    · exact ⟨⟨"rel/deploy"⟩, by decide +kernel, by decide +kernel, List.not_mem_nil⟩
  have hexact := hall t (ofAdditions_built _ _) ⟨""⟩ 10 []
  have hfound := (hexact.mem_iff _).mpr ⟨by decide +kernel, hreaches⟩
  rw [hnone] at hfound
  exact List.not_mem_nil hfound

end PortSurvey.Tree
