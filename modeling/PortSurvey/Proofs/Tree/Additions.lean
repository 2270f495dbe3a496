import Mathlib.Data.List.Pairwise
import Mathlib.Data.List.Perm.Basic
import PortSurvey.Proofs.Path.Spelling
import PortSurvey.Proofs.Tree.Walk

/-!
# What additions make of a tree

A tree is made from an empty one by additions of files and directories. What is then at a path is
the last file that was added there, or else a directory if an addition leads through the path
(`Tree.at?_ofAdditions`). If no two files are added at one path, the order of the additions does not
matter (`Tree.agrees_of_perm`): the trees agree on what is at every path. They may still hold their
entries in another order, and spell paths in another way.
-/

namespace PortSurvey

/-- What is added to a tree. -/
inductive Addition
  /-- A file, with its content. -/
  | file (path : Path) (content : String)
  /-- A directory. -/
  | directory (path : Path)
  deriving DecidableEq

namespace Addition

variable (root : Path) (parts : List Part)

/-- The parts of the path at which a file is added, seen from a root. -/
def fileParts? : Addition → Option (List Part)
  | .file p _ => some (root.join p).parts
  | .directory _ => none

/-- The parts of the path down to which directories are made. -/
def way : Addition → List Part
  | .file p _ => (root.join p).parentParts?.getD []
  | .directory p => (root.join p).parts

/-- The file that an addition puts at the path with these parts. -/
def fileAt? : Addition → Option Entry
  | .file p content => if (root.join p).parts = parts then some (.file content) else none
  | .directory _ => none

/-- The directory that an addition makes at the path with these parts, if nothing is there. -/
def directoryAt? (x : Addition) : Option Entry :=
  if parts ≠ [] ∧ parts <+: x.way root then some .directory else none

variable {root parts}

/-- An addition that puts a file at a path adds it there. -/
theorem fileParts?_of_fileAt? {x : Addition} {entry : Entry} (h : x.fileAt? root parts = some entry) :
    x.fileParts? root = some parts := by
  cases x with
  | file p content =>
    rw [fileAt?] at h
    split_ifs at h with hparts
    exact congrArg some hparts
  | directory p => cases h

/-- Only directories are made on the way. -/
theorem eq_directory_of_directoryAt? {x : Addition} {entry : Entry}
    (h : x.directoryAt? root parts = some entry) : entry = .directory := by
  unfold directoryAt? at h
  split_ifs at h
  exact (Option.some.inj h).symm

end Addition

namespace Tree

variable {t t' : Tree}

/-! ## What is at a path after an addition -/

/-- The same is at paths of the same parts. -/
theorem at?_congr (t : Tree) {p q : Path} (h : p.parts = q.parts) : t.at? p = t.at? q := by
  unfold at? Path.same
  rw [h]

/-- An entry that is put at a path is there, and elsewhere nothing changes. -/
theorem at?_put (t : Tree) (p : Path) (entry : Entry) (q : Path) :
    (t.put p entry).at? q = if p.parts = q.parts then some entry else t.at? q := by
  -- An entry whose place is taken keeps its path, and so it is found as before.
  have hreplaced : (t.entries.map fun e => if e.1.same p then (e.1, entry) else e).find?
      (·.1.same q) = (t.entries.find? (·.1.same q)).map
        fun e => if e.1.same p then (e.1, entry) else e := by
    rw [List.find?_map, Function.comp_def]
    simp only [replaced_fst]
  have hfound : ∀ {e : Path × Entry}, t.entries.find? (·.1.same q) = some e →
      e.1.parts = q.parts := fun hfind => by
    simpa only [Path.same_iff] using List.find?_some hfind
  unfold put
  split_ifs with hthere hparts hparts
  · obtain ⟨found, hat⟩ := Option.isSome_iff_exists.mp (t.at?_congr hparts ▸ hthere)
    obtain ⟨e, hfind, -⟩ := Option.map_eq_some_iff.mp hat
    have hsame : e.1.same p := Path.same_iff.mpr ((hfound hfind).trans hparts.symm)
    unfold at?
    rw [hreplaced, hfind, Option.map_some, Option.map_some, if_pos hsame]
  · unfold at?
    rw [hreplaced]
    cases hfind : t.entries.find? (·.1.same q) with
    | none => rfl
    | some e =>
      have hother : ¬ e.1.same p := fun hsame =>
        hparts ((Path.same_iff.mp hsame).symm.trans (hfound hfind))
      rw [Option.map_some, if_neg hother]
  · have hnone : t.at? q = none := by
      rwa [Option.not_isSome_iff_eq_none, t.at?_congr hparts] at hthere
    unfold at? at hnone ⊢
    rw [Option.map_eq_none_iff] at hnone
    rw [List.find?_append, hnone, Option.none_or, List.find?_singleton,
      if_pos (Path.same_iff.mpr hparts), Option.map_some]
  · unfold at?
    rw [List.find?_append, List.find?_singleton, if_neg (mt Path.same_iff.mp hparts), Option.or_none]

/-- Making directories down a path makes them where nothing is, and changes nothing else. -/
theorem at?_putDirectories {down : List Part} {p : Path} (hdown : down <+: p.parts) (q : Path) :
    (t.putDirectories down).at? q =
      (t.at? q).or (if q.parts ≠ [] ∧ q.parts <+: down then some .directory else none) := by
  -- What is new at a path is a directory; where it is new is known already.
  have hnew : (t.putDirectories down).at? q = t.at? q ∨
      t.at? q = none ∧ (t.putDirectories down).at? q = some .directory := by
    unfold putDirectories
    refine List.foldlRecOn (motive := fun s : Tree => s.at? q = t.at? q ∨
      t.at? q = none ∧ s.at? q = some .directory) _ _ (.inl rfl) fun s hs n _ => ?_
    unfold putMissing
    split_ifs with hthere
    · exact hs
    · rw [at?_put]
      split_ifs with hparts
      · rw [Option.not_isSome_iff_eq_none, s.at?_congr hparts] at hthere
        rcases hs with hsame | ⟨-, hdirectory⟩
        · exact .inr ⟨hsame.symm.trans hthere, rfl⟩
        · exact absurd (hthere.symm.trans hdirectory) (by decide)
      · exact hs
  have hsome : ((t.putDirectories down).at? q).isSome ↔
      (t.at? q).isSome ∨ q.parts ≠ [] ∧ q.parts <+: down := by
    rw [← hasParts_iff_isSome, hasParts_putDirectories p hdown, hasParts_iff_isSome]
  cases hq : t.at? q with
  | some entry =>
    rw [hq] at hnew
    exact hnew.resolve_right fun h => absurd h.1 (Option.some_ne_none entry)
  | none =>
    rw [hq] at hnew hsome
    rw [Option.none_or]
    split_ifs with hway
    · exact (hnew.resolve_left fun h => by simp [h, hway] at hsome).2
    · exact Option.not_isSome_iff_eq_none.mp fun h => by simp [hway, h] at hsome

/-- A tree to which something is added. -/
def add (t : Tree) : Addition → Tree
  | .file p content => t.addFile p content
  | .directory p => t.addDirectory p

/-- Additions keep the root. -/
@[simp] theorem add_root (t : Tree) (x : Addition) : (t.add x).root = t.root := by
  cases x with
  | file p content => exact t.addFile_root p content
  | directory p => exact t.putDirectories_root _

/-- After an addition the file that is added is at its path. Elsewhere stays what was there, and
where nothing was is a directory if the addition leads through it. -/
theorem at?_add (t : Tree) (x : Addition) (q : Path) :
    (t.add x).at? q =
      (x.fileAt? t.root q.parts).or ((t.at? q).or (x.directoryAt? t.root q.parts)) := by
  cases x with
  | file p content =>
    have hdown : (t.resolve p).parentParts?.getD [] <+: (t.resolve p).parts :=
      parentParts?_prefix _
    have hfile : (t.add (.file p content)).at? q = if (t.resolve p).parts = q.parts then
        some (.file content) else (t.putDirectories _).at? q :=
      at?_put _ _ _ q
    have hfileAt : (Addition.file p content).fileAt? t.root q.parts =
        if (t.resolve p).parts = q.parts then some (.file content) else none :=
      rfl
    rw [hfile, at?_putDirectories hdown, hfileAt]
    by_cases hparts : (t.resolve p).parts = q.parts
    · rw [if_pos hparts, if_pos hparts, Option.some_or]
    · rw [if_neg hparts, if_neg hparts, Option.none_or]
      rfl
  | directory p => exact at?_putDirectories (List.prefix_refl _) q

/-! ## What is at a path after all additions -/

/-- The tree that additions make, one after the other. -/
def ofAdditions (root : Path) (additions : List Addition) : Tree :=
  additions.foldl add (.empty root)

/-- Additions that come last are made last. -/
theorem ofAdditions_concat (root : Path) (additions : List Addition) (x : Addition) :
    ofAdditions root (additions ++ [x]) = (ofAdditions root additions).add x :=
  List.foldl_concat ..

/-- The root of a tree is that of the empty one. -/
@[simp] theorem ofAdditions_root (root : Path) (additions : List Addition) :
    (ofAdditions root additions).root = root := by
  induction additions using List.reverseRecOn with
  | nil => rfl
  | append_singleton additions x ih => rw [ofAdditions_concat, add_root, ih]

/-- A tree that additions make is built. -/
theorem ofAdditions_built (root : Path) (additions : List Addition) :
    (ofAdditions root additions).Built := by
  induction additions using List.reverseRecOn with
  | nil => exact .empty root
  | append_singleton additions x ih =>
    rw [ofAdditions_concat]
    cases x with
    | file p content => exact ih.addFile p content
    | directory p => exact ih.addDirectory p

/-- At a path is the last file that was added there, or else a directory if an addition leads
through it. -/
theorem at?_ofAdditions (root : Path) (additions : List Addition) (q : Path) :
    (ofAdditions root additions).at? q =
      (additions.reverse.findSome? (·.fileAt? root q.parts)).or
        (additions.findSome? (·.directoryAt? root q.parts)) := by
  induction additions using List.reverseRecOn with
  | nil => rfl
  | append_singleton additions x ih =>
    -- The last addition has the first say on files and the last on directories.
    rw [ofAdditions_concat, at?_add, ofAdditions_root, ih, List.reverse_concat,
      List.findSome?_cons, List.findSome?_append, List.findSome?_singleton]
    cases x.fileAt? root q.parts with
    | none => rw [Option.none_or, Option.or_assoc]
    | some entry => rfl

/-! ## Additions in another order -/

/-- Two trees agree on what is at every path. -/
structure Agrees (t t' : Tree) : Prop where
  /-- Relative paths are seen from the same root. -/
  root_eq : t'.root = t.root
  /-- The same is at every path. -/
  at?_eq : ∀ p, t'.at? p = t.at? p

/-- What is found first does not depend on the order if there is only one thing to be found. -/
theorem findSome?_eq_of_perm {α β : Type} {f : α → Option β} {l l' : List α} (h : l.Perm l')
    (hunique : ∀ x ∈ l, ∀ y ∈ l, ∀ a b, f x = some a → f y = some b → a = b) :
    l'.findSome? f = l.findSome? f := by
  cases hl : l.findSome? f with
  | none =>
    rw [List.findSome?_eq_none_iff] at hl ⊢
    exact fun x hx => hl x (h.mem_iff.mpr hx)
  | some a =>
    obtain ⟨x, hx, hfx⟩ := List.exists_of_findSome?_eq_some hl
    cases hl' : l'.findSome? f with
    | none => exact absurd (List.findSome?_eq_none_iff.mp hl' x (h.mem_iff.mp hx)) (by simp [hfx])
    | some b =>
      obtain ⟨y, hy, hfy⟩ := List.exists_of_findSome?_eq_some hl'
      rw [hunique x hx y (h.mem_iff.mpr hy) a b hfx hfy]

/-- Of additions that add no two files at one path, one adds a file there at most. -/
theorem eq_of_fileParts? {root : Path} {additions : List Addition}
    (hdistinct : (additions.filterMap (·.fileParts? root)).Nodup) {x y : Addition}
    (hx : x ∈ additions) (hy : y ∈ additions) {parts : List Part}
    (hpx : x.fileParts? root = some parts) (hpy : y.fileParts? root = some parts) : x = y := by
  by_contra hne
  have hpairwise := List.pairwise_filterMap.mp hdistinct
  have hsymm : Std.Symm fun x y : Addition => ∀ b, x.fileParts? root = some b →
      ∀ b', y.fileParts? root = some b' → b ≠ b' :=
    ⟨fun x y h b hb b' hb' => (h b' hb' b hb).symm⟩
  exact hpairwise.forall hx hy hne parts hpx parts hpy rfl

/-- If no two files are added at one path, the order of the additions does not matter to what is at
any path. -/
theorem agrees_of_perm {root : Path} {additions additions' : List Addition}
    (hdistinct : (additions.filterMap (·.fileParts? root)).Nodup)
    (h : additions.Perm additions') :
    (ofAdditions root additions).Agrees (ofAdditions root additions') where
  root_eq := by rw [ofAdditions_root, ofAdditions_root]
  at?_eq q := by
    have hfile : additions'.reverse.findSome? (·.fileAt? root q.parts) =
        additions.reverse.findSome? (·.fileAt? root q.parts) := by
      refine findSome?_eq_of_perm
        ((List.reverse_perm _).trans (h.trans (List.reverse_perm _).symm)) ?_
      intro x hx y hy a b ha hb
      have hxy : x = y := eq_of_fileParts? hdistinct (List.mem_reverse.mp hx)
        (List.mem_reverse.mp hy) (Addition.fileParts?_of_fileAt? ha)
        (Addition.fileParts?_of_fileAt? hb)
      exact Option.some.inj (ha.symm.trans (hxy ▸ hb))
    have hdirectory : additions'.findSome? (·.directoryAt? root q.parts) =
        additions.findSome? (·.directoryAt? root q.parts) := by
      refine findSome?_eq_of_perm h fun x _ y _ a b ha hb => ?_
      rw [Addition.eq_directory_of_directoryAt? ha, Addition.eq_directory_of_directoryAt? hb]
    rw [at?_ofAdditions, at?_ofAdditions, hfile, hdirectory]

end Tree

end PortSurvey
