import Mathlib.Data.List.Lex
import Mathlib.Data.Prod.Lex
import Mathlib.Data.String.Basic
import PortSurvey.Path

/-!
# The order of paths

Parts are ordered by a key, their rank and then their name, so that paths are ordered as the lists
of the keys of their parts are (`Path.le_iff_keys_le`). Hence any two paths can be compared, and
two that come before each other have the same parts (`Path.parts_eq_of_le`).
-/

namespace PortSurvey

namespace Part

/-- The name that counts in the order of parts; only names have one. -/
def nameKey : Part → String
  | .name s => s
  | _ => ""

/-- By what parts are ordered: first their rank, then their name. -/
def key (p : Part) : ℕ ×ₗ String :=
  toLex (p.rank, p.nameKey)

/-- Parts with the same key are the same. -/
theorem key_injective : Function.Injective key := by
  intro p q h
  cases p <;> cases q <;> simp_all [key, rank, nameKey]

/-- A part comes before another if its key is less. -/
theorem before_iff_key_lt (p q : Part) : p.before q ↔ p.key < q.key := by
  cases p <;> cases q <;>
    simp [before, key, rank, nameKey, Prod.Lex.toLex_lt_toLex]

end Part

namespace Path

/-- The keys of the parts of a path. -/
def keys (p : Path) : List (ℕ ×ₗ String) :=
  p.parts.map Part.key

/-- A list with a first key comes no later than another exactly if its first key is less, or the
first keys agree and the rest comes no later. -/
theorem cons_keys_le_iff {k l : ℕ ×ₗ String} {ks ls : List (ℕ ×ₗ String)} :
    k :: ks ≤ l :: ls ↔ k < l ∨ k = l ∧ ks ≤ ls := by
  rw [le_iff_lt_or_eq, List.cons_lt_cons_iff, List.cons.injEq, or_assoc, ← and_or_left,
    ← le_iff_lt_or_eq]

/-- Lists of parts are ordered as the lists of their keys are. -/
theorem partsLe_iff_map_key_le (ps qs : List Part) :
    partsLe ps qs ↔ ps.map Part.key ≤ qs.map Part.key := by
  induction ps generalizing qs with
  | nil => exact iff_of_true rfl (not_lt.mp (List.not_lt_nil _))
  | cons p ps ih =>
    cases qs with
    | nil => exact iff_of_false Bool.false_ne_true (not_le.mpr (List.nil_lt_cons _ _))
    | cons q qs =>
      rw [partsLe, Bool.or_eq_true, Bool.and_eq_true, beq_iff_eq, Part.before_iff_key_lt, ih,
        List.map_cons, List.map_cons, cons_keys_le_iff, Part.key_injective.eq_iff]

/-- Paths are ordered as the lists of the keys of their parts are. -/
theorem le_iff_keys_le (p q : Path) : p.le q ↔ p.keys ≤ q.keys :=
  partsLe_iff_map_key_le p.parts q.parts

/-- The order of paths is transitive. -/
theorem le_trans (p q r : Path) (hpq : p.le q) (hqr : q.le r) : p.le r := by
  rw [le_iff_keys_le] at hpq hqr ⊢
  exact hpq.trans hqr

/-- Of two paths one comes before the other or has the same parts. -/
theorem le_or_le (p q : Path) : (p.le q || q.le p) = true := by
  rw [Bool.or_eq_true, le_iff_keys_le, le_iff_keys_le]
  exact le_total p.keys q.keys

/-- Lists of parts that come before each other are the same. -/
theorem partsLe_antisymm {ps qs : List Part} (hpq : partsLe ps qs) (hqp : partsLe qs ps) :
    ps = qs := by
  rw [partsLe_iff_map_key_le] at hpq hqp
  exact List.map_injective_iff.mpr Part.key_injective (hpq.antisymm hqp)

/-- Paths that come before each other have the same parts. -/
theorem parts_eq_of_le {p q : Path} (hpq : p.le q) (hqp : q.le p) : p.parts = q.parts :=
  partsLe_antisymm hpq hqp

/-- Paths are the same exactly when their parts are. -/
theorem same_iff {p q : Path} : p.same q ↔ p.parts = q.parts :=
  beq_iff_eq

end Path

end PortSurvey
