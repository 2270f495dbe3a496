import Mathlib.Data.List.DropRight
import Mathlib.Tactic.SplitIfs
import PortSurvey.Proofs.Text.Quantifier
import PortSurvey.Text.Blank

/-!
# Texts without the blanks at their ends

Blanks are taken off the end of a text character by character (`trimEndChars_cons`), which makes
what follows inductions on the text: the two ends do not get into each other's way
(`trimChars_trimEndChars`), and a text without blanks stays as it is (`trimChars_eq_self`). In a
text with a character that is not to be taken off, only what stands before it loses its begin
(`dropWhile_append_cons`), and only what stands after it loses its end
(`reverse_dropWhile_append_cons`).
-/

namespace PortSurvey.Text

/-- Nothing but a blank is in the text of one blank. -/
theorem isBlank_of_mem_space : ∀ c ∈ [' '], isBlank c = true :=
  List.forall_mem_singleton.mpr rfl

/-- The first character is lost with the blanks at the end only if it is one of them. -/
theorem trimEndChars_cons (c : Char) (s : List Char) : trimEndChars (c :: s) =
    if trimEndChars s = [] ∧ isBlank c = true then [] else c :: trimEndChars s := by
  unfold trimEndChars
  rw [List.reverse_cons, List.dropWhile_append]
  by_cases hrest : s.reverse.dropWhile isBlank = []
  · by_cases hc : isBlank c = true
    · simp [hrest, hc]
    · simp [hrest, hc]
  · simp [hrest]

/-- What stands from a character on that is not to be taken off stays. -/
theorem dropWhile_append_cons {p : Char → Bool} {c : Char} (hc : p c = false) (s rest : List Char) :
    (s ++ c :: rest).dropWhile p = s.dropWhile p ++ c :: rest := by
  have hkept : (c :: rest).dropWhile p = c :: rest :=
    List.dropWhile_cons_of_neg (by rw [hc]; exact Bool.false_ne_true)
  rw [List.dropWhile_append, hkept]
  split_ifs with hempty
  · rw [List.isEmpty_iff.mp hempty, List.nil_append]
  · rfl

/-- What stands up to a character that is not to be taken off the end stays. -/
theorem reverse_dropWhile_append_cons {p : Char → Bool} {c : Char} (hc : p c = false)
    (s t : List Char) : ((s ++ c :: t).reverse.dropWhile p).reverse =
      s ++ c :: (t.reverse.dropWhile p).reverse := by
  rw [List.reverse_append, List.reverse_cons, List.append_assoc, List.singleton_append,
    dropWhile_append_cons hc, List.reverse_append, List.reverse_cons, List.reverse_reverse,
    List.append_assoc, List.singleton_append]

/-- What stands before a character that is not blank is no end of the text. -/
theorem trimEndChars_append_cons (s : List Char) {c : Char} (hc : isBlank c = false)
    (t : List Char) : trimEndChars (s ++ c :: t) = s ++ c :: trimEndChars t :=
  reverse_dropWhile_append_cons hc s t

/-- What is left of a text that loses blanks at its end begins like the text. -/
theorem head?_of_mem_head?_trimEndChars {s : List Char} {c : Char}
    (h : c ∈ (trimEndChars s).head?) : c ∈ s.head? := by
  cases s with
  | nil => cases h
  | cons x s =>
    rw [trimEndChars_cons] at h
    split_ifs at h
    · cases h
    · exact h

/-- It does not matter from which end blanks are taken off first. -/
theorem trimStartChars_trimEndChars (s : List Char) :
    trimStartChars (trimEndChars s) = trimEndChars (trimStartChars s) := by
  unfold trimStartChars
  induction s with
  | nil => rfl
  | cons c s ih =>
    rw [trimEndChars_cons]
    by_cases hc : isBlank c = true
    · rw [List.dropWhile_cons_of_pos hc, ← ih]
      split_ifs with hempty
      · rw [hempty.1]
      · rw [List.dropWhile_cons_of_pos hc]
    · rw [if_neg fun h => hc h.2, List.dropWhile_cons_of_neg hc, List.dropWhile_cons_of_neg hc,
        trimEndChars_cons, if_neg fun h => hc h.2]

/-- Blanks are taken off the end once. -/
theorem trimEndChars_trimEndChars (s : List Char) :
    trimEndChars (trimEndChars s) = trimEndChars s :=
  List.rdropWhile_idempotent isBlank s

/-- A text that loses blanks at its end has the same text without blanks at its ends. -/
theorem trimChars_trimEndChars (s : List Char) : trimChars (trimEndChars s) = trimChars s := by
  unfold trimChars
  rw [trimStartChars_trimEndChars, trimEndChars_trimEndChars]

/-- Blanks are taken off both ends once. -/
theorem trimChars_trimChars (s : List Char) : trimChars (trimChars s) = trimChars s := by
  unfold trimChars
  rw [trimStartChars_trimEndChars, trimEndChars_trimEndChars]
  unfold trimStartChars
  rw [List.dropWhile_idempotent]

/-- A text without blanks at its ends keeps what is left of it. -/
theorem trim_trim (s : String) : trim (trim s) = trim s := by
  unfold trim
  rw [String.toList_ofList, trimChars_trimChars]

/-- Nothing is taken off a text whose first character is not to be taken off. -/
theorem dropWhile_eq_self {p : Char → Bool} {s : List Char} (h : ∀ c ∈ s.head?, p c = false) :
    s.dropWhile p = s := by
  cases s with
  | nil => rfl
  | cons c s =>
    have hc := h c rfl
    exact List.dropWhile_cons_of_neg (by rw [hc]; exact Bool.false_ne_true)

/-- A text that does not begin with a blank keeps its begin. -/
theorem trimStartChars_eq_self {s : List Char} (h : ∀ c ∈ s.head?, isBlank c = false) :
    trimStartChars s = s :=
  dropWhile_eq_self h

/-- Blanks at the front of a text are lost. -/
theorem trimStartChars_append {blanks : List Char} (hblanks : ∀ c ∈ blanks, isBlank c = true)
    (s : List Char) : trimStartChars (blanks ++ s) = trimStartChars s :=
  List.dropWhile_append_of_pos hblanks

/-- Blanks before a character that is none are lost. -/
theorem trimStartChars_append_cons {blanks : List Char} (hblanks : ∀ c ∈ blanks, isBlank c = true)
    {c : Char} (hc : isBlank c = false) (s : List Char) :
    trimStartChars (blanks ++ c :: s) = c :: s := by
  rw [trimStartChars_append hblanks]
  exact trimStartChars_eq_self fun x hx => Option.some.inj hx ▸ hc

/-- What stands from a character on that is not blank is no begin of the text. -/
theorem trimStartChars_append_of_not_blank (s : List Char) {c : Char} (hc : isBlank c = false)
    (rest : List Char) : trimStartChars (s ++ c :: rest) = trimStartChars s ++ c :: rest :=
  dropWhile_append_cons hc s rest

/-- From a character on that is not blank, a text loses blanks at its end only. -/
theorem trimChars_cons {c : Char} (hc : isBlank c = false) (rest : List Char) :
    trimChars (c :: rest) = c :: trimEndChars rest := by
  have hhead : ∀ x ∈ (c :: rest).head?, isBlank x = false := fun x hx => Option.some.inj hx ▸ hc
  unfold trimChars
  rw [trimStartChars_eq_self hhead]
  exact trimEndChars_append_cons [] hc rest

/-- A character that is not blank is not lost with the blanks at the ends. -/
theorem mem_trimChars {s : List Char} {c : Char} (h : c ∈ s) (hc : isBlank c = false) :
    c ∈ trimChars s := by
  obtain ⟨before, after, rfl⟩ := List.append_of_mem h
  unfold trimChars
  rw [trimStartChars_append_of_not_blank before hc, trimEndChars_append_cons _ hc]
  exact List.mem_append_right _ List.mem_cons_self

/-- A text without blanks stays as it is. -/
theorem trimChars_eq_self {s : List Char} (h : ∀ c ∈ s, isBlank c = false) : trimChars s = s := by
  unfold trimChars
  rw [trimStartChars_eq_self fun c hc => h c (List.mem_of_mem_head? hc)]
  induction s with
  | nil => rfl
  | cons c s ih =>
    have hc := h c List.mem_cons_self
    rw [trimEndChars_cons, ih fun x hx => h x (List.mem_cons_of_mem c hx), hc, if_neg (by simp)]

end PortSurvey.Text
