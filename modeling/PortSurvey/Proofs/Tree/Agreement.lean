import PortSurvey.Proofs.Tree.Additions

/-!
# Walks of trees that agree

Trees that agree on what is at every path may list it in another order and spell it in another way.
Their directories have the same entries (`Tree.Agrees.children_perm`), the same files are below them
(`Tree.Agrees.filesBelow_perm`), and a walk, which puts these in the order of their paths, finds
paths of the same parts, one after the other (`Tree.Agrees.walk_parts`).
-/

namespace PortSurvey.Tree

variable {t t' : Tree}

/-! ## Walks and spellings -/

/-- Paths of the same parts are seen alike. -/
theorem resolve_parts_congr (t : Tree) {p q : Path} (h : p.parts = q.parts) :
    (t.resolve p).parts = (t.resolve q).parts :=
  Path.join_parts_congr h t.root

/-- Paths of the same parts lead to the same. -/
theorem find?_congr (t : Tree) {p q : Path} (h : p.parts = q.parts) : t.find? p = t.find? q :=
  t.at?_congr (t.resolve_parts_congr h)

/-- Paths of the same parts have the same entries. -/
theorem children_congr (t : Tree) {p q : Path} (h : p.parts = q.parts) :
    t.children p = t.children q := by
  unfold children
  rw [t.find?_congr h, t.resolve_parts_congr h]

/-- The same files are below paths of the same parts. -/
theorem filesBelow_congr (t : Tree) (excluded : List String) (depth : Nat) {p q : Path}
    (h : p.parts = q.parts) : t.filesBelow excluded depth p = t.filesBelow excluded depth q := by
  cases depth with
  | zero => rfl
  | succ depth => rw [filesBelow_succ, filesBelow_succ, t.children_congr h]

/-- An entry without the spelling of its path. -/
def unspelled (e : Path × Entry) : List Part × Entry :=
  (e.1.parts, e.2)

/-- The parts of the files that a walk finds at an entry, whatever the spelling of its path. -/
def partsAt (t : Tree) (excluded : List String) (depth : Nat) (e : List Part × Entry) :
    List (List Part) :=
  (t.filesAt excluded depth (Path.ofParts e.1, e.2)).map Path.parts

/-- What a walk finds at an entry does not depend on the spelling of its path. -/
theorem partsAt_unspelled (t : Tree) (excluded : List String) (depth : Nat) (e : Path × Entry) :
    t.partsAt excluded depth (unspelled e) = (t.filesAt excluded depth e).map Path.parts := by
  obtain ⟨p, content | _⟩ := e
  · exact congrArg (fun parts => [parts]) p.ofParts_parts
  · unfold partsAt unspelled filesAt
    dsimp only
    rw [Path.name?_congr p.ofParts_parts, t.filesBelow_congr excluded depth p.ofParts_parts]

/-- Nor does what it finds at the entries of a directory. -/
theorem map_parts_filesBelow_succ (t : Tree) (excluded : List String) (depth : Nat) (p : Path) :
    (t.filesBelow excluded (depth + 1) p).map Path.parts =
      ((t.children p).map unspelled).flatMap (t.partsAt excluded depth) := by
  rw [filesBelow_succ, List.map_flatMap, List.flatMap_map]
  exact List.flatMap_congr fun e _ => (t.partsAt_unspelled excluded depth e).symm

/-! ## Trees that agree -/

/-- The entries of a directory, without their spelling: those of the tree that have its parts and
one more. -/
theorem mem_map_unspelled_children_iff {p : Path} {parts : List Part} {entry : Entry} :
    (parts, entry) ∈ (t.children p).map unspelled ↔ t.find? p = some .directory ∧
      (∃ q, (q, entry) ∈ t.entries ∧ q.parts = parts) ∧
        ∃ last, last ≠ .root ∧ parts = (t.resolve p).parts ++ [last] := by
  rw [List.mem_map]
  constructor
  · rintro ⟨⟨q, entry⟩, hchild, hq⟩
    obtain ⟨rfl, rfl⟩ := Prod.mk.inj hq
    obtain ⟨hp, hmem, hparts⟩ := mem_children_iff.mp hchild
    exact ⟨hp, ⟨q, hmem, rfl⟩, hparts⟩
  · rintro ⟨hp, ⟨q, hmem, rfl⟩, hparts⟩
    exact ⟨(q, entry), mem_children_iff.mpr ⟨hp, hmem, hparts⟩, rfl⟩

/-- No two entries of a directory are the same but for their spelling. -/
theorem Proper.nodup_map_unspelled_children (ht : t.Proper) (p : Path) :
    ((t.children p).map unspelled).Nodup := by
  refine List.pairwise_map.mpr ((ht.children_pairwise p).imp fun hne heq => hne ?_)
  exact (Prod.mk.inj heq).1

namespace Agrees

/-- Agreement goes both ways. -/
theorem symm (h : t.Agrees t') : t'.Agrees t where
  root_eq := h.root_eq.symm
  at?_eq p := (h.at?_eq p).symm

/-- Paths are seen alike. -/
theorem resolve_eq (h : t.Agrees t') (p : Path) : t'.resolve p = t.resolve p := by
  unfold resolve
  rw [h.root_eq]

/-- Every path leads to the same. -/
theorem find?_eq (h : t.Agrees t') (p : Path) : t'.find? p = t.find? p := by
  unfold find?
  rw [h.resolve_eq, h.at?_eq]

/-- Every file reads the same. -/
theorem read_eq (h : t.Agrees t') (p : Path) : t'.read p = t.read p := by
  unfold read
  dsimp only
  rw [h.resolve_eq, h.at?_eq]

/-- An entry of one tree is an entry of the other, in some spelling. -/
theorem exists_mem_entries (h : t.Agrees t') (ht : t.Proper) {q : Path} {entry : Entry}
    (hq : (q, entry) ∈ t.entries) : ∃ q', (q', entry) ∈ t'.entries ∧ q'.parts = q.parts := by
  refine exists_mem_of_at? ?_
  rw [h.at?_eq]
  exact ht.at?_eq_some_iff.mpr ⟨q, hq, rfl⟩

variable (h : t.Agrees t') (ht : t.Proper) (ht' : t'.Proper)

include h ht ht'

/-- Directories have the same entries. -/
theorem children_perm (p : Path) :
    ((t'.children p).map unspelled).Perm ((t.children p).map unspelled) := by
  refine (List.perm_ext_iff_of_nodup (ht'.nodup_map_unspelled_children p)
    (ht.nodup_map_unspelled_children p)).mpr fun ⟨parts, entry⟩ => ?_
  have hentry : (∃ q, (q, entry) ∈ t'.entries ∧ q.parts = parts) ↔
      ∃ q, (q, entry) ∈ t.entries ∧ q.parts = parts := by
    constructor
    · rintro ⟨q, hq, rfl⟩
      exact h.symm.exists_mem_entries ht' hq
    · rintro ⟨q, hq, rfl⟩
      exact h.exists_mem_entries ht hq
  rw [mem_map_unspelled_children_iff, mem_map_unspelled_children_iff, h.find?_eq, h.resolve_eq,
    hentry]

/-- The same files are below a directory. -/
theorem filesBelow_perm (excluded : List String) (depth : Nat) (p : Path) :
    ((t'.filesBelow excluded depth p).map Path.parts).Perm
      ((t.filesBelow excluded depth p).map Path.parts) := by
  -- By induction on the levels: below an entry one level less is left, in whatever spelling.
  induction depth generalizing p with
  | zero => exact .refl _
  | succ depth ih =>
    have hat : ∀ e, (t'.partsAt excluded depth e).Perm (t.partsAt excluded depth e) := by
      rintro ⟨parts, content | _⟩
      · exact .refl _
      · unfold partsAt filesAt
        dsimp only
        split_ifs
        · exact .refl _
        · exact ih (Path.ofParts parts)
    rw [map_parts_filesBelow_succ, map_parts_filesBelow_succ]
    exact (h.children_perm ht ht' p).flatMap fun e _ => hat e

/-- Walks find paths of the same parts, one after the other. -/
theorem walk_parts (p : Path) (depth : Nat) (excluded : List String) :
    (t'.walk p depth excluded).map Path.parts = (t.walk p depth excluded).map Path.parts := by
  have hsorted : ∀ s : Tree, ((s.walk p depth excluded).map Path.parts).Pairwise
      fun ps qs => Path.partsLe ps qs := fun s => List.pairwise_map.mpr (s.walk_pairwise ..)
  have hperm : ((t'.walk p depth excluded).map Path.parts).Perm
      ((t.walk p depth excluded).map Path.parts) :=
    ((t'.walk_perm ..).map _).trans
      ((h.filesBelow_perm ht ht' excluded depth p).trans ((t.walk_perm ..).map _).symm)
  -- The order leaves nothing open between paths of different parts.
  refine List.Perm.eq_of_pairwise ?_ (hsorted t') (hsorted t) hperm
  exact fun ps qs _ _ hpq hqp => Path.partsLe_antisymm hpq hqp

end Agrees

end PortSurvey.Tree
