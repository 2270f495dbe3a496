import Mathlib.Data.List.Flatten
import Mathlib.Data.List.Induction
import Mathlib.Data.List.Nodup
import Mathlib.Data.List.Perm.Subperm
import PortSurvey.Proofs.Path
import PortSurvey.Tree.Basic

/-!
# Proper trees

A tree is proper if no two of its entries have the same parts, so that a path leads to one entry at
most (`Tree.Proper.at?_eq_some_iff`). Trees that are built by adding files and directories are
proper (`Tree.Built.proper`). A walk is the only list of the files below its root that is in the
order of their paths (`Tree.walk_perm`, `Tree.walk_pairwise`, `Tree.Proper.walk_eq_of_perm`). A walk
that goes less far, or leaves out more, passes over files but does not change their order
(`Tree.Proper.walk_sublist`).
-/

namespace PortSurvey.Tree

variable {t : Tree}

/-! ## What is at a path -/

/-- What is found at a path is an entry whose path has the same parts. -/
theorem exists_mem_of_at? {p : Path} {entry : Entry} (h : t.at? p = some entry) :
    ∃ q, (q, entry) ∈ t.entries ∧ q.parts = p.parts := by
  obtain ⟨⟨q, found⟩, hfind, rfl⟩ := Option.map_eq_some_iff.mp h
  have hsame : q.same p := by simpa only using List.find?_some hfind
  exact ⟨q, List.mem_of_find?_eq_some hfind, Path.same_iff.mp hsame⟩

/-- Nothing is at a path exactly if no entry has its parts. -/
theorem at?_eq_none_iff {p : Path} :
    t.at? p = none ↔ ∀ e ∈ t.entries, e.1.parts ≠ p.parts := by
  rw [at?, Option.map_eq_none_iff, List.find?_eq_none]
  simp only [Path.same_iff, ne_eq]

/-- A path leads to a directory exactly if a directory is what it leads to. -/
theorem isDirectory_iff {p : Path} : t.isDirectory p ↔ t.find? p = some .directory := by
  unfold isDirectory
  rcases t.find? p with _ | (content | _)
  · exact iff_of_false Bool.false_ne_true (Option.some_ne_none _).symm
  · exact iff_of_false Bool.false_ne_true fun h => Entry.noConfusion (Option.some.inj h)
  · exact iff_of_true rfl rfl

/-- An entry whose place another takes keeps its path. -/
theorem replaced_fst (p : Path) (entry : Entry) (e : Path × Entry) :
    (if e.1.same p then (e.1, entry) else e).1 = e.1 := by
  split_ifs <;> rfl

/-! ## The root -/

/-- Putting an entry into a tree keeps its root. -/
@[simp] theorem put_root (t : Tree) (p : Path) (entry : Entry) : (t.put p entry).root = t.root := by
  unfold put
  split_ifs <;> rfl

/-- Making a directory keeps the root. -/
@[simp] theorem putMissing_root (t : Tree) (p : Path) : (t.putMissing p).root = t.root := by
  unfold putMissing
  split_ifs <;> simp only [put_root]

/-- Making directories keeps the root. -/
@[simp] theorem putDirectories_root (t : Tree) (parts : List Part) :
    (t.putDirectories parts).root = t.root :=
  List.foldlRecOn (motive := fun s : Tree => s.root = t.root) _ _ rfl fun s hs _ _ =>
    (s.putMissing_root _).trans hs

/-- Adding a file keeps the root. -/
@[simp] theorem addFile_root (t : Tree) (p : Path) (content : String) :
    (t.addFile p content).root = t.root := by
  unfold addFile
  simp only [put_root, putDirectories_root]

/-- Paths are seen alike after a file is added. -/
@[simp] theorem addFile_resolve (t : Tree) (p : Path) (content : String) (q : Path) :
    (t.addFile p content).resolve q = t.resolve q := by
  unfold resolve
  rw [addFile_root]

/-! ## Proper trees -/

/-- No two entries of a tree have the same parts. -/
def Proper (t : Tree) : Prop :=
  (t.entries.map (·.1.parts)).Nodup

namespace Proper

/-- What is at a path of a proper tree is the entry with its parts. -/
theorem at?_eq_some_iff (ht : t.Proper) {p : Path} {entry : Entry} :
    t.at? p = some entry ↔ ∃ q, (q, entry) ∈ t.entries ∧ q.parts = p.parts := by
  refine ⟨exists_mem_of_at?, ?_⟩
  rintro ⟨q, hq, hparts⟩
  cases hat : t.at? p with
  | none => exact absurd hparts (at?_eq_none_iff.mp hat _ hq)
  | some found =>
    obtain ⟨q', hq', hparts'⟩ := exists_mem_of_at? hat
    have hsame : (q', found) = (q, entry) :=
      List.inj_on_of_nodup_map ht hq' hq (hparts'.trans hparts.symm)
    rw [(Prod.mk.inj hsame).2]

/-- A tree without entries is proper. -/
theorem empty (root : Path) : (Tree.empty root).Proper :=
  List.nodup_nil

/-- Putting an entry into a proper tree leaves it proper. -/
theorem put (ht : t.Proper) (p : Path) (entry : Entry) : (t.put p entry).Proper := by
  unfold Tree.put Proper
  split_ifs with h
  · -- The entry takes the place of one, whose path stays.
    have hpaths : (t.entries.map fun e => if e.1.same p then (e.1, entry) else e).map (·.1.parts) =
        t.entries.map (·.1.parts) := by
      rw [List.map_map]
      exact List.map_congr_left fun e _ => congrArg Path.parts (replaced_fst p entry e)
    rw [hpaths]
    exact ht
  · rw [Option.not_isSome_iff_eq_none, at?_eq_none_iff] at h
    rw [List.map_append, List.map_singleton, List.nodup_append]
    refine ⟨ht, List.nodup_singleton _, ?_⟩
    intro parts hparts _ hnew
    obtain ⟨e, he, rfl⟩ := List.mem_map.mp hparts
    rw [List.mem_singleton.mp hnew]
    exact h e he

/-- Making a directory where nothing is leaves a tree proper. -/
theorem putMissing (ht : t.Proper) (p : Path) : (t.putMissing p).Proper := by
  unfold Tree.putMissing
  split_ifs
  · exact ht
  · exact ht.put p .directory

/-- Making directories leaves a tree proper. -/
theorem putDirectories (ht : t.Proper) (parts : List Part) : (t.putDirectories parts).Proper :=
  List.foldlRecOn _ _ ht fun _ h _ _ => h.putMissing _

/-- Adding a file leaves a tree proper. -/
theorem addFile (ht : t.Proper) (p : Path) (content : String) : (t.addFile p content).Proper :=
  (ht.putDirectories _).put _ _

/-- Adding a directory leaves a tree proper. -/
theorem addDirectory (ht : t.Proper) (p : Path) : (t.addDirectory p).Proper :=
  ht.putDirectories _

end Proper

/-- A tree that is built from an empty one by adding files and directories. -/
inductive Built : Tree → Prop
  /-- Nothing is added yet. -/
  | empty (root : Path) : Built (Tree.empty root)
  /-- A file is added. -/
  | addFile {t : Tree} (p : Path) (content : String) : Built t → Built (t.addFile p content)
  /-- A directory is added. -/
  | addDirectory {t : Tree} (p : Path) : Built t → Built (t.addDirectory p)

/-- Built trees are proper. -/
theorem Built.proper (h : t.Built) : t.Proper := by
  induction h with
  | empty root => exact Proper.empty root
  | addFile p content _ ih => exact ih.addFile p content
  | addDirectory p _ ih => exact ih.addDirectory p

/-! ## The walk -/

/-- The entries of a directory; none of what is no directory. -/
def children (t : Tree) (p : Path) : List (Path × Entry) :=
  match t.find? p with
  | some .directory => t.entries.filter fun e => e.1.parentParts? == some (t.resolve p).parts
  | _ => []

/-- What is no directory has no entries. -/
theorem children_of_not_directory {p : Path} (h : t.find? p ≠ some .directory) :
    t.children p = [] := by
  unfold children
  split
  · contradiction
  · rfl

/-- The files that a walk finds at an entry: itself if it is a file, and those below it if it is a
directory whose name is not excluded. -/
def filesAt (t : Tree) (excluded : List String) (depth : Nat) : Path × Entry → List Path
  | (path, .file _) => [path]
  | (path, .directory) =>
    if (path.name?.getD "") ∈ excluded then [] else t.filesBelow excluded depth path

/-- What is a directory is listed with its entries, and nothing else is. -/
theorem list_eq (t : Tree) (p : Path) :
    t.list p = .ok (t.children p) ∨ t.children p = [] ∧ ∃ fault, t.list p = .error fault := by
  unfold list children find?
  dsimp only
  rcases t.at? (t.resolve p) with _ | (content | _)
  · exact .inr ⟨rfl, _, rfl⟩
  · exact .inr ⟨rfl, _, rfl⟩
  · exact .inl rfl

/-- The files below a directory are those that are found at its entries. -/
theorem filesBelow_succ (t : Tree) (excluded : List String) (depth : Nat) (p : Path) :
    t.filesBelow excluded (depth + 1) p = (t.children p).flatMap (t.filesAt excluded depth) := by
  unfold filesBelow
  rcases t.list_eq p with hok | ⟨hnone, fault, herror⟩
  · rw [hok]
    refine List.flatMap_congr fun e _ => ?_
    obtain ⟨path, content | _⟩ := e <;> rfl
  · rw [herror, hnone]
    rfl

/-- What lies in a directory is an entry of the tree. -/
theorem mem_entries_of_mem_children {p : Path} {e : Path × Entry} (h : e ∈ t.children p) :
    e ∈ t.entries := by
  unfold children at h
  split at h
  · exact List.mem_of_mem_filter h
  · exact absurd h List.not_mem_nil

/-- The files below a directory are files of the tree. -/
theorem mem_entries_of_mem_filesBelow {excluded : List String} {depth : Nat} {p q : Path}
    (h : q ∈ t.filesBelow excluded depth p) : ∃ content, (q, .file content) ∈ t.entries := by
  induction depth generalizing p with
  | zero => exact absurd h List.not_mem_nil
  | succ depth ih =>
    rw [filesBelow_succ] at h
    obtain ⟨⟨path, content | _⟩, hmem, hq⟩ := List.mem_flatMap.mp h
    · rw [List.mem_singleton.mp hq]
      exact ⟨content, mem_entries_of_mem_children hmem⟩
    · rw [filesAt] at hq
      split_ifs at hq
      · exact absurd hq List.not_mem_nil
      · exact ih hq

/-- A walk lists the files below its root. -/
theorem walk_perm (t : Tree) (p : Path) (depth : Nat) (excluded : List String) :
    (t.walk p depth excluded).Perm (t.filesBelow excluded depth p) :=
  List.mergeSort_perm _ _

/-- A walk is in the order of the paths. -/
theorem walk_pairwise (t : Tree) (p : Path) (depth : Nat) (excluded : List String) :
    (t.walk p depth excluded).Pairwise fun a b => a.le b :=
  List.pairwise_mergeSort Path.le_trans Path.le_or_le _

/-- The walk of a proper tree is the only list of its files that is in their order. -/
theorem Proper.walk_eq_of_perm (ht : t.Proper) {p : Path} {depth : Nat} {excluded : List String}
    {files : List Path} (hperm : files.Perm (t.filesBelow excluded depth p))
    (hsorted : files.Pairwise fun a b => a.le b) : files = t.walk p depth excluded := by
  have hwalk : files.Perm (t.walk p depth excluded) := hperm.trans (t.walk_perm ..).symm
  refine List.Perm.eq_of_pairwise ?_ hsorted (t.walk_pairwise ..) hwalk
  intro a b ha hb hab hba
  obtain ⟨_, hentry⟩ := mem_entries_of_mem_filesBelow (hperm.mem_iff.mp ha)
  obtain ⟨_, hentry'⟩ := mem_entries_of_mem_filesBelow ((t.walk_perm ..).mem_iff.mp hb)
  have hsame := List.inj_on_of_nodup_map ht hentry hentry' (Path.parts_eq_of_le hab hba)
  exact congrArg Prod.fst hsame

section Narrower

variable {excluded excluded' : List String} {depth depth' : Nat}
  (hexcluded : ∀ s ∈ excluded', s ∈ excluded) (hdepth : depth ≤ depth')

include hexcluded hdepth

/-- Fewer levels and more excluded names leave fewer files below a directory, listed as before. -/
theorem filesBelow_sublist (t : Tree) (p : Path) :
    (t.filesBelow excluded depth p).Sublist (t.filesBelow excluded' depth' p) := by
  induction depth generalizing depth' p with
  | zero => exact List.nil_sublist _
  | succ depth ih =>
    obtain ⟨depth', rfl⟩ := Nat.exists_eq_add_of_le' (Nat.zero_lt_of_lt hdepth)
    rw [filesBelow_succ, filesBelow_succ]
    refine List.Sublist.flatMap_right _ ?_
    rintro ⟨path, content | _⟩ -
    · exact List.Sublist.refl _
    · rw [filesAt, filesAt]
      split_ifs with hname hname' hname'
      · exact List.Sublist.refl _
      · exact List.nil_sublist _
      · exact absurd (hexcluded _ hname') hname
      · exact ih (Nat.le_of_succ_le_succ hdepth) path

/-- A walk with fewer levels and more excluded names finds fewer files, in the same order. -/
theorem Proper.walk_sublist (ht : t.Proper) (p : Path) :
    (t.walk p depth excluded).Sublist (t.walk p depth' excluded') := by
  -- What is left of the wider walk is in order, and so it is the narrower one.
  obtain ⟨files, hperm, hsub⟩ :
      (t.filesBelow excluded depth p).Subperm (t.walk p depth' excluded') :=
    (t.filesBelow_sublist hexcluded hdepth p).subperm.trans (t.walk_perm ..).symm.subperm
  rwa [ht.walk_eq_of_perm hperm ((t.walk_pairwise ..).sublist hsub)] at hsub

end Narrower

end PortSurvey.Tree
