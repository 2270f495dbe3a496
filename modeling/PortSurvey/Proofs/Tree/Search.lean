import Mathlib.Algebra.GroupWithZero.Nat
import Mathlib.Algebra.Order.BigOperators.Group.List
import Mathlib.Data.List.Perm.Basic
import Mathlib.Logic.Relation
import Mathlib.Tactic.SplitIfs
import PortSurvey.Proofs.Tree.Basic

/-!
# Walks turn by turn

`Tree.filesBelow` walks down a tree by recursion. The same walk can be made in turns: a `Search`
keeps the directories that are still to be listed on a stack, each with its level below the root,
and the files that it has met. A turn lists the directory on top of the stack, in whatever order its
entries come; what cannot be listed is passed over (`Search.Turn`). A file counts if it is at most
`depth` levels down, and a directory is put on the stack if it is fewer and its name is not
excluded, so that the two tests have to meet at the last level.

Every turn keeps, up to order, the files that were met together with those below the directories on
the stack (`Search.Turn.reachable_perm`), and makes the number of turns that are left smaller
(`Search.Turn.turnsLeft_lt`). Hence every search ends, whatever the order of the entries, and what
it has met then is what the walk finds (`Tree.search_ends`).
-/

namespace PortSurvey.Tree

variable {t : Tree} {depth : Nat} {excluded : List String}

/-- A walk under way. -/
structure Search where
  /-- The directories that are still to be listed, the next one first, with their levels. -/
  pending : List (Path × Nat)
  /-- The files that were met. -/
  found : List Path

namespace Search

/-- A walk that begins: its root is to be listed. -/
def start (r : Path) : Search :=
  ⟨[(r, 0)], []⟩

/-- A search that meets an entry of a directory at a level. -/
def meet (depth : Nat) (excluded : List String) (level : Nat) (s : Search) : Path × Entry → Search
  | (path, .file _) => if level + 1 ≤ depth then { s with found := s.found ++ [path] } else s
  | (path, .directory) =>
    if level + 1 < depth ∧ path.name?.getD "" ∉ excluded then
      { s with pending := (path, level + 1) :: s.pending }
    else s

/-- One turn of a search. -/
inductive Turn (t : Tree) (depth : Nat) (excluded : List String) : Search → Search → Prop
  /-- The directory on top of the stack is listed, its entries in any order. -/
  | lists {p : Path} {level : Nat} {pending : List (Path × Nat)} {found : List Path}
      {entries listed : List (Path × Entry)} (hlist : t.list p = .ok entries)
      (hlisted : listed.Perm entries) :
      Turn t depth excluded ⟨(p, level) :: pending, found⟩
        (listed.foldl (meet depth excluded level) ⟨pending, found⟩)
  /-- What is on top of the stack cannot be listed. -/
  | passes {p : Path} {level : Nat} {pending : List (Path × Nat)} {found : List Path}
      {fault : Fault} (hlist : t.list p = .error fault) :
      Turn t depth excluded ⟨(p, level) :: pending, found⟩ ⟨pending, found⟩

/-- A turn takes a directory from the stack and meets the entries that a walk finds there. -/
theorem Turn.exists_eq {s s' : Search} (h : Turn t depth excluded s s') :
    ∃ p level pending found, ∃ listed : List (Path × Entry), s = ⟨(p, level) :: pending, found⟩ ∧
      listed.Perm (t.children p) ∧
      s' = listed.foldl (meet depth excluded level) ⟨pending, found⟩ := by
  cases h with
  | @lists p level pending found entries listed hlist hlisted =>
    refine ⟨p, level, pending, found, listed, rfl, ?_, rfl⟩
    rcases t.list_eq p with hok | ⟨-, fault, herror⟩
    · rwa [← Except.ok.inj (hlist.symm.trans hok)]
    · cases hlist.symm.trans herror
  | @passes p level pending found fault hlist =>
    refine ⟨p, level, pending, found, [], rfl, ?_, rfl⟩
    rcases t.list_eq p with hok | ⟨hnone, -⟩
    · cases hlist.symm.trans hok
    · rw [hnone]

/-- A search that has something to list has a turn. -/
theorem exists_turn (t : Tree) (depth : Nat) (excluded : List String) {s : Search}
    (h : s.pending ≠ []) : ∃ s', Turn t depth excluded s s' := by
  obtain ⟨_ | ⟨⟨p, level⟩, pending⟩, found⟩ := s
  · exact absurd rfl h
  · cases hlist : t.list p with
    | ok entries => exact ⟨_, .lists hlist (.refl entries)⟩
    | error fault => exact ⟨_, .passes hlist⟩

/-! ## What is met -/

/-- The files that a search has met and those that are below the directories on its stack. -/
def reachable (t : Tree) (depth : Nat) (excluded : List String) (s : Search) : List Path :=
  s.found ++ s.pending.flatMap fun (p, level) => t.filesBelow excluded (depth - level) p

/-- The files that are found at an entry of a directory at a level. -/
def filesMet (t : Tree) (depth : Nat) (excluded : List String) (level : Nat) :
    Path × Entry → List Path
  | (path, .file _) => if level + 1 ≤ depth then [path] else []
  | (path, .directory) =>
    if level + 1 < depth ∧ path.name?.getD "" ∉ excluded then
      t.filesBelow excluded (depth - (level + 1)) path
    else []

/-- The files below a directory are those that are found at its entries. -/
theorem filesBelow_eq (t : Tree) (depth : Nat) (excluded : List String) (level : Nat) (p : Path) :
    t.filesBelow excluded (depth - level) p =
      (t.children p).flatMap (filesMet t depth excluded level) := by
  rcases Nat.lt_or_ge level depth with hlevel | hlevel
  · -- The level below counts for files, and for directories if it is not the last.
    obtain ⟨left, rfl⟩ := Nat.exists_eq_add_of_lt hlevel
    have hleft : level + left + 1 - level = left + 1 := by omega
    have hbelow : level + left + 1 - (level + 1) = left := by omega
    rw [hleft, filesBelow_succ]
    refine List.flatMap_congr fun ⟨path, entry⟩ _ => ?_
    cases entry with
    | file content => rw [filesAt, filesMet, if_pos (by omega)]
    | directory =>
      rw [filesAt, filesMet, hbelow]
      by_cases hname : path.name?.getD "" ∈ excluded
      · rw [if_pos hname, if_neg fun h => h.2 hname]
      · rcases Nat.eq_zero_or_pos left with rfl | hpos
        · rw [if_neg hname, if_neg fun h => absurd h.1 (by omega)]
          rfl
        · rw [if_neg hname, if_pos ⟨by omega, hname⟩]
  · rw [Nat.sub_eq_zero_of_le hlevel]
    refine (List.flatMap_eq_nil_iff.mpr fun ⟨path, entry⟩ _ => ?_).symm
    cases entry with
    | file content => rw [filesMet, if_neg (by omega)]
    | directory => rw [filesMet, if_neg fun h => absurd h.1 (by omega)]

/-- To meet an entry makes the files reachable that are found there. -/
theorem reachable_meet (t : Tree) (depth : Nat) (excluded : List String) (level : Nat) (s : Search)
    (e : Path × Entry) :
    (reachable t depth excluded (meet depth excluded level s e)).Perm
      (reachable t depth excluded s ++ filesMet t depth excluded level e) := by
  obtain ⟨path, content | _⟩ := e
  · rw [meet, filesMet]
    split_ifs
    · unfold reachable
      rw [List.append_assoc, List.append_assoc]
      exact List.perm_append_comm.append_left _
    · rw [List.append_nil]
  · rw [meet, filesMet]
    split_ifs
    · unfold reachable
      rw [List.flatMap_cons, List.append_assoc]
      exact List.perm_append_comm.append_left _
    · rw [List.append_nil]

/-- To meet entries makes the files reachable that are found at them. -/
theorem reachable_foldl_meet (t : Tree) (depth : Nat) (excluded : List String) (level : Nat)
    (s : Search) (entries : List (Path × Entry)) :
    (reachable t depth excluded (entries.foldl (meet depth excluded level) s)).Perm
      (reachable t depth excluded s ++ entries.flatMap (filesMet t depth excluded level)) := by
  induction entries generalizing s with
  | nil => rw [List.flatMap_nil, List.append_nil, List.foldl_nil]
  | cons e entries ih =>
    rw [List.foldl_cons, List.flatMap_cons, ← List.append_assoc]
    exact (ih _).trans ((reachable_meet t depth excluded level s e).append_right _)

/-- A turn keeps the files that a search can reach. -/
theorem Turn.reachable_perm {s s' : Search} (h : Turn t depth excluded s s') :
    (reachable t depth excluded s').Perm (reachable t depth excluded s) := by
  obtain ⟨p, level, pending, found, listed, rfl, hlisted, rfl⟩ := h.exists_eq
  refine (reachable_foldl_meet ..).trans ?_
  have hfiles : (listed.flatMap (filesMet t depth excluded level)).Perm
      (t.filesBelow excluded (depth - level) p) := by
    rw [filesBelow_eq]
    exact hlisted.flatMap_right _
  unfold reachable
  rw [List.flatMap_cons, List.append_assoc]
  exact (List.perm_append_comm.trans (hfiles.append_right _)).append_left _

/-! ## How long it takes -/

/-- The number of turns that a walk of a directory may take. -/
def turns (t : Tree) : Nat → Path → Nat
  | 0, _ => 1
  | left + 1, p =>
    1 + ((t.children p).map fun e => if e.2.isDirectory then turns t left e.1 else 0).sum

/-- The number of turns that an entry of a directory at a level may add. -/
def turnsMet (t : Tree) (depth level : Nat) (e : Path × Entry) : Nat :=
  if level + 1 < depth ∧ e.2.isDirectory then turns t (depth - (level + 1)) e.1 else 0

/-- The number of turns that a search may still take. -/
def turnsLeft (t : Tree) (depth : Nat) (s : Search) : Nat :=
  (s.pending.map fun (p, level) => turns t (depth - level) p).sum

/-- A directory takes a turn for itself and those that its entries add. -/
theorem sum_turnsMet_lt (t : Tree) (depth level : Nat) (p : Path) :
    ((t.children p).map (turnsMet t depth level)).sum < turns t (depth - level) p := by
  rcases Nat.lt_or_ge level depth with hlevel | hlevel
  · obtain ⟨left, hleft⟩ := Nat.exists_eq_add_of_lt hlevel
    have hbelow : depth - (level + 1) = left := by omega
    rw [show depth - level = left + 1 by omega, turns, Nat.lt_one_add_iff]
    refine List.sum_le_sum fun e _ => ?_
    rw [turnsMet, hbelow]
    split_ifs with hmet hdirectory hdirectory
    · exact Nat.le_refl _
    · exact absurd hmet.2 hdirectory
    · exact Nat.zero_le _
    · exact Nat.le_refl _
  · have hnone : (t.children p).map (turnsMet t depth level) = (t.children p).map fun _ => 0 :=
      List.map_congr_left fun e _ => if_neg fun h => absurd h.1 (by omega)
    rw [hnone, Nat.sub_eq_zero_of_le hlevel, List.map_const', List.sum_replicate, turns]
    exact Nat.one_pos

/-- To meet an entry adds no more turns than it may. -/
theorem turnsLeft_meet_le (t : Tree) (depth : Nat) (excluded : List String) (level : Nat)
    (s : Search) (e : Path × Entry) :
    turnsLeft t depth (meet depth excluded level s e) ≤
      turnsLeft t depth s + turnsMet t depth level e := by
  obtain ⟨path, content | _⟩ := e
  · rw [meet]
    split_ifs
    · exact Nat.le_add_right _ _
    · exact Nat.le_add_right _ _
  · rw [meet]
    split_ifs with h
    · rw [turnsMet, if_pos ⟨h.1, rfl⟩]
      exact Nat.le_of_eq (Nat.add_comm ..)
    · exact Nat.le_add_right _ _

/-- To meet entries adds no more turns than they may. -/
theorem turnsLeft_foldl_meet_le (t : Tree) (depth : Nat) (excluded : List String) (level : Nat)
    (s : Search) (entries : List (Path × Entry)) :
    turnsLeft t depth (entries.foldl (meet depth excluded level) s) ≤
      turnsLeft t depth s + (entries.map (turnsMet t depth level)).sum := by
  induction entries generalizing s with
  | nil => exact Nat.le_refl _
  | cons e entries ih =>
    have hmeet := turnsLeft_meet_le t depth excluded level s e
    rw [List.foldl_cons, List.map_cons, List.sum_cons, ← Nat.add_assoc]
    exact (ih _).trans (Nat.add_le_add_right hmeet _)

/-- A turn leaves fewer turns. -/
theorem Turn.turnsLeft_lt {s s' : Search} (h : Turn t depth excluded s s') :
    turnsLeft t depth s' < turnsLeft t depth s := by
  obtain ⟨p, level, pending, found, listed, rfl, hlisted, rfl⟩ := h.exists_eq
  calc turnsLeft t depth (listed.foldl (meet depth excluded level) ⟨pending, found⟩)
      ≤ turnsLeft t depth ⟨pending, found⟩ + (listed.map (turnsMet t depth level)).sum :=
        turnsLeft_foldl_meet_le ..
    _ = turnsLeft t depth ⟨pending, found⟩ + ((t.children p).map (turnsMet t depth level)).sum := by
        rw [(hlisted.map _).sum_eq]
    _ < turnsLeft t depth ⟨pending, found⟩ + turns t (depth - level) p :=
        Nat.add_lt_add_left (sum_turnsMet_lt t depth level p) _
    _ = turnsLeft t depth ⟨(p, level) :: pending, found⟩ := Nat.add_comm ..

end Search

/-! ## Whole searches -/

open Search

/-- No search goes on for ever. -/
theorem wellFounded_turn (t : Tree) (depth : Nat) (excluded : List String) :
    WellFounded fun s' s => Turn t depth excluded s s' :=
  Subrelation.wf Turn.turnsLeft_lt (measure (turnsLeft t depth)).wf

/-- Turns keep the files that a search can reach. -/
theorem reachable_perm_of_turns {s s' : Search}
    (h : Relation.ReflTransGen (Turn t depth excluded) s s') :
    (reachable t depth excluded s').Perm (reachable t depth excluded s) := by
  induction h with
  | refl => exact .refl _
  | tail _ hturn ih => exact hturn.reachable_perm.trans ih

/-- However the entries of directories are ordered, a search ends, has turns as long as there is
something to list, and has met the files of the walk then. -/
theorem search_ends (ht : t.Proper) (r : Path) (depth : Nat) (excluded : List String) :
    (WellFounded fun s' s => Turn t depth excluded s s') ∧
      ∀ s, Relation.ReflTransGen (Turn t depth excluded) (start r) s →
        (s.pending ≠ [] → ∃ s', Turn t depth excluded s s') ∧
        (s.pending = [] → s.found.mergeSort Path.le = t.walk r depth excluded) := by
  refine ⟨t.wellFounded_turn depth excluded, fun s hs => ?_⟩
  refine ⟨exists_turn t depth excluded, fun hend => ?_⟩
  have hfound : s.found.Perm (t.filesBelow excluded depth r) := by
    have hperm := reachable_perm_of_turns hs
    unfold reachable start at hperm
    rwa [hend, List.flatMap_nil, List.append_nil, List.flatMap_singleton, List.nil_append] at hperm
  exact ht.walk_eq_of_perm ((List.mergeSort_perm ..).trans hfound)
    (List.pairwise_mergeSort Path.le_trans Path.le_or_le _)

end PortSurvey.Tree
