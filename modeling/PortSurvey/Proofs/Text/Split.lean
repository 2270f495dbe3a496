import Mathlib.Data.List.Infix
import PortSurvey.Text.Split

/-!
# What cutting and searching a text finds

A text is cut where it was put together: at the first occurrence of a character if what stands
before has none (`splitOnce_append`), and at the last if what stands after has none
(`splitOnceEnd_append`). Where it is cut at every occurrence, what has none belongs to the piece before
it (`exists_splitOnP_append`). A text that occurs inside another is an infix of it (`holds_iff_infix`).
-/

namespace PortSurvey.Text

variable {c : Char} {s before after : List Char}

/-- A character that a text does not have is neither its first nor one of the others. -/
theorem of_notMem_cons {x : Char} (h : c ∉ x :: s) : (x == c) = false ∧ c ∉ s :=
  ⟨beq_eq_false_iff_ne.mpr fun hx => h (hx ▸ List.mem_cons_self),
    fun hmem => h (List.mem_cons_of_mem x hmem)⟩

/-- A text without the character is one piece. -/
theorem splitOnP_of_notMem (h : c ∉ s) : s.splitOnP (· == c) = [s] :=
  List.splitOnP_eq_singleton fun _ hx => beq_eq_false_iff_ne.mpr fun heq => h (heq ▸ hx)

/-- What stands behind a text and does not have the character belongs to the last piece. -/
theorem exists_splitOnP_append (c : Char) (s : List Char) : ∃ front last, ∀ tail : List Char,
    c ∉ tail → (s ++ tail).splitOnP (· == c) = front ++ [last ++ tail] := by
  induction s with
  | nil => exact ⟨[], [], fun tail htail => splitOnP_of_notMem htail⟩
  | cons x rest ih =>
    obtain ⟨front, last, h⟩ := ih
    by_cases hx : x = c
    · refine ⟨[] :: front, last, fun tail htail => ?_⟩
      rw [List.cons_append, List.splitOnP_cons_eq_if_modifyHead, h tail htail, if_pos (by simp [hx])]
      rfl
    · have hne : ¬(x == c) = true := by simpa using hx
      cases front with
      | nil =>
        refine ⟨[], x :: last, fun tail htail => ?_⟩
        rw [List.cons_append, List.splitOnP_cons_eq_if_modifyHead, h tail htail, if_neg hne]
        rfl
      | cons first front =>
        refine ⟨(x :: first) :: front, last, fun tail htail => ?_⟩
        rw [List.cons_append, List.splitOnP_cons_eq_if_modifyHead, h tail htail, if_neg hne]
        rfl

/-- A text without the character is not cut at its first occurrence. -/
theorem splitOnce_of_notMem (h : c ∉ s) : splitOnce c s = none := by
  induction s with
  | nil => rfl
  | cons x rest ih =>
    obtain ⟨hx, hrest⟩ := of_notMem_cons h
    rw [splitOnce, hx, ih hrest]
    rfl

/-- A text is cut at the first occurrence of the character. -/
theorem splitOnce_append (h : c ∉ before) :
    splitOnce c (before ++ c :: after) = some (before, after) := by
  induction before with
  | nil => rw [List.nil_append, splitOnce, beq_self_eq_true, if_pos rfl]
  | cons x rest ih =>
    obtain ⟨hx, hrest⟩ := of_notMem_cons h
    rw [List.cons_append, splitOnce, hx, ih hrest]
    rfl

/-- A text without the character is not cut at its last occurrence. -/
theorem splitOnceEnd_of_notMem (h : c ∉ s) : splitOnceEnd c s = none := by
  induction s with
  | nil => rfl
  | cons x rest ih =>
    obtain ⟨hx, hrest⟩ := of_notMem_cons h
    rw [splitOnceEnd, ih hrest, hx]
    rfl

/-- A text is cut at the last occurrence of the character. -/
theorem splitOnceEnd_append (h : c ∉ after) :
    splitOnceEnd c (before ++ c :: after) = some (before, after) := by
  induction before with
  | nil =>
    rw [List.nil_append, splitOnceEnd, splitOnceEnd_of_notMem h, beq_self_eq_true]
    rfl
  | cons x rest ih => rw [List.cons_append, splitOnceEnd, ih]

/-- A text occurs inside another exactly if it is an infix of it. -/
theorem holdsChars_iff_infix {part : List Char} : holdsChars part s = true ↔ part <:+: s := by
  induction s with
  | nil => rw [holdsChars, List.isEmpty_iff, List.infix_nil]
  | cons x rest ih =>
    rw [holdsChars, Bool.or_eq_true, List.isPrefixOf_iff_prefix, ih, List.infix_cons_iff]

/-- A text occurs inside another exactly if it is an infix of it. -/
theorem holds_iff_infix {text part : String} :
    holds text part = true ↔ part.toList <:+: text.toList :=
  holdsChars_iff_infix

end PortSurvey.Text
