import Mathlib.Data.List.Perm.Basic
import PortSurvey.Proofs.Tree.Basic

/-!
# Trees that differ in the content of one file

Two trees are alike but for a file if they have the same entries, in whatever order, once the
content of that file is blotted out. Such trees agree on which paths lead to directories, have the
same walks (`Tree.AlikeBut.walk_eq`) and read every other file alike (`Tree.AlikeBut.read_eq`).
-/

namespace PortSurvey.Tree

/-- An entry with its path, without the content of the file `f`. -/
def blot (f : Path) : Path × Entry → Path × Entry
  | (p, .file content) => (p, .file (if p.same f then "" else content))
  | (p, .directory) => (p, .directory)

/-- Two trees have the same entries but for the content of the file to which `f` leads. -/
structure AlikeBut (t : Tree) (f : Path) (t' : Tree) : Prop where
  /-- Relative paths are seen from the same root. -/
  root_eq : t'.root = t.root
  /-- The entries are the same, up to their order and the content of the file. -/
  entries_perm : (t'.entries.map (blot (t.resolve f))).Perm (t.entries.map (blot (t.resolve f)))

/-! ## Blotted entries -/

/-- Blotting keeps the path of an entry. -/
theorem blot_fst (f : Path) (e : Path × Entry) : (blot f e).1 = e.1 := by
  obtain ⟨p, content | _⟩ := e <;> rfl

/-- Only a directory is blotted to a directory. -/
theorem blot_eq_directory_iff {f p : Path} {e : Path × Entry} :
    blot f e = (p, .directory) ↔ e = (p, .directory) := by
  obtain ⟨q, content | _⟩ := e
  · exact iff_of_false (fun h => Entry.noConfusion (Prod.mk.inj h).2)
      fun h => Entry.noConfusion (Prod.mk.inj h).2
  · rfl

/-- Away from the file, entries are blotted to themselves. -/
theorem blot_of_not_same {f : Path} {e : Path × Entry} (h : ¬ e.1.same f) : blot f e = e := by
  obtain ⟨p, content | _⟩ := e
  · rw [blot, if_neg h]
  · rfl

/-- At the file, only the path is left. -/
theorem blot_of_same {f p : Path} (h : p.same f) (content : String) :
    blot f (p, .file content) = (p, .file "") := by
  rw [blot, if_pos h]

/-- Putting one content or another at a path makes trees with the same blotted entries. -/
theorem map_blot_put_file (t : Tree) (p : Path) (content content' : String) :
    (t.put p (.file content')).entries.map (blot p) =
      (t.put p (.file content)).entries.map (blot p) := by
  unfold put
  split_ifs
  · dsimp only
    rw [List.map_map, List.map_map]
    refine List.map_congr_left fun e _ => ?_
    dsimp only [Function.comp_apply]
    split_ifs with hsame
    · rw [blot_of_same hsame, blot_of_same hsame]
    · rfl
  · rw [List.map_append, List.map_append, List.map_singleton, List.map_singleton,
      blot_of_same (Path.same_iff.mpr rfl), blot_of_same (Path.same_iff.mpr rfl)]

/-- Trees to which a file is added with one content or another are alike but for that file. -/
theorem addFile_alikeBut (t : Tree) (f : Path) (content content' : String) :
    (t.addFile f content).AlikeBut f (t.addFile f content') where
  root_eq := by rw [addFile_root, addFile_root]
  entries_perm := by
    rw [addFile_resolve]
    exact .of_eq (map_blot_put_file _ _ content content')

namespace AlikeBut

variable {t t' : Tree} {f : Path}

/-- Paths are seen alike. -/
theorem resolve_eq (h : t.AlikeBut f t') (p : Path) : t'.resolve p = t.resolve p := by
  unfold resolve
  rw [h.root_eq]

/-- To be alike goes both ways. -/
theorem symm (h : t.AlikeBut f t') : t'.AlikeBut f t where
  root_eq := h.root_eq.symm
  entries_perm := by
    rw [h.resolve_eq]
    exact h.entries_perm.symm

/-- What is alike to a proper tree is proper. -/
theorem proper (h : t.AlikeBut f t') (ht : t.Proper) : t'.Proper := by
  have hparts : ∀ entries : List (Path × Entry),
      (entries.map (blot (t.resolve f))).map (·.1.parts) = entries.map (·.1.parts) := by
    intro entries
    rw [List.map_map]
    exact List.map_congr_left fun e _ => congrArg Path.parts (blot_fst _ e)
  have hperm := h.entries_perm.map (·.1.parts)
  rw [hparts, hparts] at hperm
  exact hperm.nodup_iff.mpr ht

/-! ## What is at a path -/

/-- A directory is an entry of both trees. -/
theorem directory_mem (h : t.AlikeBut f t') {p : Path} (hp : (p, .directory) ∈ t.entries) :
    (p, .directory) ∈ t'.entries := by
  have hblot : (p, .directory) ∈ t'.entries.map (blot (t.resolve f)) :=
    h.entries_perm.mem_iff.mpr (List.mem_map.mpr ⟨_, hp, rfl⟩)
  obtain ⟨e, he, heq⟩ := List.mem_map.mp hblot
  rw [blot_eq_directory_iff] at heq
  exact heq ▸ he

/-- What does not have the path of the file is an entry of both trees. -/
theorem mem_of_not_same (h : t.AlikeBut f t') {e : Path × Entry} (he : e ∈ t.entries)
    (hf : ¬ e.1.same (t.resolve f)) : e ∈ t'.entries := by
  have hblot : e ∈ t'.entries.map (blot (t.resolve f)) :=
    h.entries_perm.mem_iff.mpr (List.mem_map.mpr ⟨e, he, blot_of_not_same hf⟩)
  obtain ⟨e', he', heq⟩ := List.mem_map.mp hblot
  have hpath : e'.1 = e.1 := by rw [← heq, blot_fst]
  rw [← hpath] at hf
  rw [blot_of_not_same hf] at heq
  exact heq ▸ he'

/-- A directory is at the same paths. -/
theorem at?_directory_iff (h : t.AlikeBut f t') (ht : t.Proper) (p : Path) :
    t'.at? p = some .directory ↔ t.at? p = some .directory := by
  rw [ht.at?_eq_some_iff, (h.proper ht).at?_eq_some_iff]
  exact ⟨fun ⟨q, hq, hparts⟩ => ⟨q, h.symm.directory_mem hq, hparts⟩,
    fun ⟨q, hq, hparts⟩ => ⟨q, h.directory_mem hq, hparts⟩⟩

/-- Away from the file, the same is at a path. -/
theorem at?_eq (h : t.AlikeBut f t') (ht : t.Proper) {p : Path} (hp : ¬ p.same (t.resolve f)) :
    t'.at? p = t.at? p := by
  have hother : ∀ {q : Path}, q.parts = p.parts → ¬ q.same (t.resolve f) := by
    intro q hparts
    rwa [Path.same_iff, hparts, ← Path.same_iff]
  refine Option.ext fun entry => ?_
  rw [ht.at?_eq_some_iff, (h.proper ht).at?_eq_some_iff]
  constructor
  · rintro ⟨q, hq, hparts⟩
    refine ⟨q, h.symm.mem_of_not_same hq ?_, hparts⟩
    rw [h.resolve_eq]
    exact hother hparts
  · rintro ⟨q, hq, hparts⟩
    exact ⟨q, h.mem_of_not_same hq (hother hparts), hparts⟩

/-- The same paths lead to directories. -/
theorem find?_directory_iff (h : t.AlikeBut f t') (ht : t.Proper) (p : Path) :
    t'.find? p = some .directory ↔ t.find? p = some .directory := by
  unfold find?
  rw [h.resolve_eq]
  exact h.at?_directory_iff ht _

/-- A path that does not lead to the file reads alike. -/
theorem read_eq (h : t.AlikeBut f t') (ht : t.Proper) {p : Path}
    (hp : ¬ (t.resolve p).same (t.resolve f)) : t'.read p = t.read p := by
  unfold read
  dsimp only
  rw [h.resolve_eq, h.at?_eq ht hp]

/-! ## The walk -/

/-- Directories have the same entries. -/
theorem children_perm (h : t.AlikeBut f t') (ht : t.Proper) (p : Path) :
    ((t'.children p).map (blot (t.resolve f))).Perm
      ((t.children p).map (blot (t.resolve f))) := by
  by_cases hp : t.find? p = some .directory
  · have hp' : t'.find? p = some .directory := (h.find?_directory_iff ht p).mpr hp
    have hfilter : ∀ entries : List (Path × Entry),
        (entries.filter fun e => e.1.parentParts? == some (t.resolve p).parts).map
            (blot (t.resolve f)) =
          (entries.map (blot (t.resolve f))).filter
            fun e => e.1.parentParts? == some (t.resolve p).parts := by
      intro entries
      rw [List.filter_map]
      congr 1
      refine List.filter_congr fun e _ => ?_
      rw [Function.comp_apply, blot_fst]
    unfold children
    rw [hp, hp', h.resolve_eq]
    dsimp only
    rw [hfilter, hfilter]
    exact h.entries_perm.filter _
  · have hp' : t'.find? p ≠ some .directory := mt (h.find?_directory_iff ht p).mp hp
    rw [children_of_not_directory hp, children_of_not_directory hp']

/-- The same files are below a directory. -/
theorem filesBelow_perm (h : t.AlikeBut f t') (ht : t.Proper) (excluded : List String)
    (depth : Nat) (p : Path) :
    (t'.filesBelow excluded depth p).Perm (t.filesBelow excluded depth p) := by
  induction depth generalizing p with
  | zero => exact .refl _
  | succ depth ih =>
    have hat : ∀ e, (t'.filesAt excluded depth e).Perm (t.filesAt excluded depth e) := by
      rintro ⟨path, content | _⟩
      · exact .refl _
      · rw [filesAt, filesAt]
        split_ifs
        · exact .refl _
        · exact ih path
    -- What is found at an entry does not depend on its content.
    have hblot : ∀ (s : Tree) (entries : List (Path × Entry)),
        entries.flatMap (s.filesAt excluded depth) =
          (entries.map (blot (t.resolve f))).flatMap (s.filesAt excluded depth) := by
      intro s entries
      rw [List.flatMap_map]
      refine List.flatMap_congr fun e _ => ?_
      obtain ⟨path, content | _⟩ := e <;> rfl
    rw [filesBelow_succ, filesBelow_succ, hblot, hblot t]
    exact (h.children_perm ht p).flatMap fun e _ => hat e

/-- The walks are the same. -/
theorem walk_eq (h : t.AlikeBut f t') (ht : t.Proper) (p : Path) (depth : Nat)
    (excluded : List String) : t'.walk p depth excluded = t.walk p depth excluded :=
  ht.walk_eq_of_perm ((t'.walk_perm ..).trans (h.filesBelow_perm ht excluded depth p))
    (t'.walk_pairwise ..)

end AlikeBut

end PortSurvey.Tree
