import Mathlib.Algebra.BigOperators.Group.List.Lemmas
import Mathlib.Algebra.GroupWithZero.Nat

/-!
# Tallies

A `tally` lists the kinds that occur in a list, each with how often. The kinds are gone through in a
fixed order in which each of them has one place. Whatever that order is, a kind has an entry exactly
if it occurs (`mem_tally_iff`), and the entries add up to the length of the list (`sum_tally`).
-/

namespace PortSurvey

variable {α : Type} [DecidableEq α] {kinds : List α} {l : List α}

/-- The kinds that occur in a list, each with how often. -/
def tally (kinds l : List α) : List (α × Nat) :=
  (kinds.map fun k => (k, l.count k)).filter (·.2 != 0)

/-- The entries are the kinds that occur, in the order of the kinds. -/
theorem tally_eq (kinds l : List α) :
    tally kinds l = (kinds.filter fun k => k ∈ l).map fun k => (k, l.count k) := by
  unfold tally
  rw [List.filter_map]
  congr 1
  refine List.filter_congr fun k _ => ?_
  rw [Function.comp_apply, Bool.eq_iff_iff, bne_iff_ne, decide_eq_true_iff]
  exact List.count_eq_zero.not.trans not_not

/-- The kinds of the entries stand in the order of the kinds. -/
theorem map_tally_sublist (kinds l : List α) : ((tally kinds l).map (·.1)).Sublist kinds := by
  rw [tally_eq, List.map_map]
  exact (List.map_id _).symm ▸ List.filter_sublist

variable (hall : ∀ k, k ∈ kinds)

include hall

/-- A kind has an entry exactly if it occurs, and the entry is how often. -/
theorem mem_tally_iff {k : α} {n : Nat} : (k, n) ∈ tally kinds l ↔ 0 < n ∧ n = l.count k := by
  unfold tally
  rw [List.mem_filter, List.mem_map, bne_iff_ne, ← Nat.pos_iff_ne_zero, and_comm]
  refine and_congr_right fun _ => ?_
  constructor
  · rintro ⟨_, _, h⟩
    obtain ⟨rfl, hn⟩ := Prod.mk.inj h
    exact hn.symm
  · rintro rfl
    exact ⟨k, hall k, rfl⟩

/-- The kinds that occur are the members of the list, each once. -/
theorem occurring_perm (hkinds : kinds.Nodup) (l : List α) :
    (kinds.filter fun k => k ∈ l).Perm l.dedup := by
  refine (List.perm_ext_iff_of_nodup (hkinds.filter _) l.nodup_dedup).mpr fun k => ?_
  rw [List.mem_filter, decide_eq_true_eq, List.mem_dedup]
  exact and_iff_right (hall k)

/-- The entries add up to the number of members. -/
theorem sum_tally (hkinds : kinds.Nodup) (l : List α) :
    ((tally kinds l).map (·.2)).sum = l.length := by
  -- The counts of the members without repetition add up, and in another order they do so too.
  rw [tally_eq, List.map_map, ← List.sum_map_count_dedup_eq_length l]
  exact ((occurring_perm hall hkinds l).map _).sum_eq

end PortSurvey
