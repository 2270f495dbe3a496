import Mathlib.Data.List.TakeWhile
import PortSurvey.Proofs.Text.Trim

/-!
# Words of a text

A blank parts a text into two that have their words for themselves (`wordsChars_append_cons`). So the
words do not change with the blanks at the ends (`wordsChars_trimChars`), and without those at its front
a text begins with its first word (`exists_word`).
-/

namespace PortSurvey.Text

variable {s t : List Char} {c : Char}

/-- An empty text has no words. -/
theorem wordsChars_nil : wordsChars [] = [] := by
  unfold wordsChars
  rw [List.splitOnP_nil]
  rfl

/-- A blank parts the words of a text. -/
theorem wordsChars_append_cons (s : List Char) (hc : isBlank c = true) (t : List Char) :
    wordsChars (s ++ c :: t) = wordsChars s ++ wordsChars t := by
  unfold wordsChars
  rw [List.splitOnP_append_cons s t hc, List.filter_append]

/-- There are no words in blanks. -/
theorem wordsChars_of_isBlank (hs : ∀ c ∈ s, isBlank c = true) : wordsChars s = [] := by
  induction s with
  | nil => exact wordsChars_nil
  | cons c s ih =>
    have hrest := wordsChars_append_cons [] (hs c List.mem_cons_self) s
    rw [List.nil_append, wordsChars_nil, List.nil_append] at hrest
    rw [hrest]
    exact ih fun x hx => hs x (List.mem_cons_of_mem c hx)

/-- Blanks before a text have no words. -/
theorem wordsChars_blanks_append (hs : ∀ c ∈ s, isBlank c = true) (t : List Char) :
    wordsChars (s ++ t) = wordsChars t := by
  rcases List.eq_nil_or_concat' s with rfl | ⟨front, c, rfl⟩
  · rw [List.nil_append]
  · have hfront : ∀ x ∈ front, isBlank x = true := fun x hx => hs x (List.mem_append_left _ hx)
    have hc := hs c (List.mem_append_right _ (List.mem_singleton_self c))
    rw [List.append_assoc, List.singleton_append, wordsChars_append_cons front hc,
      wordsChars_of_isBlank hfront, List.nil_append]

/-- Blanks behind a text have no words. -/
theorem wordsChars_append_blanks (s : List Char) (ht : ∀ c ∈ t, isBlank c = true) :
    wordsChars (s ++ t) = wordsChars s := by
  cases t with
  | nil => rw [List.append_nil]
  | cons c t =>
    have hrest : ∀ x ∈ t, isBlank x = true := fun x hx => ht x (List.mem_cons_of_mem c hx)
    rw [wordsChars_append_cons s (ht c List.mem_cons_self), wordsChars_of_isBlank hrest,
      List.append_nil]

/-- A text keeps its words without the blanks at its front. -/
theorem wordsChars_trimStartChars (s : List Char) : wordsChars (trimStartChars s) = wordsChars s := by
  have hsplit : s.takeWhile isBlank ++ trimStartChars s = s := List.takeWhile_append_dropWhile
  conv_rhs => rw [← hsplit]
  exact (wordsChars_blanks_append (fun c hc => List.mem_takeWhile_imp hc) _).symm

/-- A text keeps its words without the blanks at its end. -/
theorem wordsChars_trimEndChars (s : List Char) : wordsChars (trimEndChars s) = wordsChars s := by
  have hsplit : trimEndChars s ++ (s.reverse.takeWhile isBlank).reverse = s := by
    unfold trimEndChars
    rw [← List.reverse_append, List.takeWhile_append_dropWhile, List.reverse_reverse]
  conv_rhs => rw [← hsplit]
  refine (wordsChars_append_blanks _ fun c hc => ?_).symm
  exact List.mem_takeWhile_imp (List.mem_reverse.mp hc)

/-- A text keeps its words without the blanks at its ends. -/
theorem wordsChars_trimChars (s : List Char) : wordsChars (trimChars s) = wordsChars s := by
  unfold trimChars
  rw [wordsChars_trimEndChars, wordsChars_trimStartChars]

/-- Characters that are not blank make one word. -/
theorem wordsChars_of_not_blank (hne : s ≠ []) (hs : ∀ c ∈ s, isBlank c = false) :
    wordsChars s = [s] := by
  unfold wordsChars
  rw [List.splitOnP_eq_singleton hs]
  simpa using hne

/-- Characters that are not blank are the first word if a blank stands behind them. -/
theorem wordsChars_append_of_not_blank (hne : s ≠ []) (hs : ∀ c ∈ s, isBlank c = false)
    (ht : ∀ c ∈ t.head?, isBlank c = true) : wordsChars (s ++ t) = s :: wordsChars t := by
  cases t with
  | nil => rw [List.append_nil, wordsChars_nil, wordsChars_of_not_blank hne hs]
  | cons c t =>
    have hc : isBlank c = true := ht c rfl
    have hbehind := wordsChars_blanks_append (List.forall_mem_singleton.mpr hc) t
    rw [List.singleton_append] at hbehind
    rw [wordsChars_append_cons s hc, wordsChars_of_not_blank hne hs, hbehind, List.singleton_append]

/-- A text without the blanks at its front begins with its first word, and a blank stands behind that. -/
theorem exists_word (h : trimStartChars s ≠ []) : ∃ word rest,
    trimStartChars s = word ++ rest ∧ word ≠ [] ∧ (∀ c ∈ rest.head?, isBlank c = true) ∧
      wordsChars s = word :: wordsChars rest := by
  have hhead : ∀ c ∈ (trimStartChars s).head?, isBlank c = false := by
    intro c hc
    have hnot := List.head?_dropWhile_not isBlank s
    unfold trimStartChars at hc
    rw [Option.mem_def.mp hc] at hnot
    simpa using hnot
  rw [← wordsChars_trimStartChars s]
  generalize trimStartChars s = text at h hhead
  have hsplit : text.takeWhile (fun x => !isBlank x) ++ text.dropWhile (fun x => !isBlank x) = text :=
    List.takeWhile_append_dropWhile
  have hword : ∀ x ∈ text.takeWhile (fun x => !isBlank x), isBlank x = false := by
    intro x hx
    simpa using List.mem_takeWhile_imp hx
  have hne : text.takeWhile (fun x => !isBlank x) ≠ [] := by
    obtain ⟨c, text, rfl⟩ := List.exists_cons_of_ne_nil h
    rw [List.takeWhile_cons_of_pos (by rw [hhead c rfl]; rfl)]
    exact List.cons_ne_nil _ _
  have hrest : ∀ x ∈ (text.dropWhile fun x => !isBlank x).head?, isBlank x = true := by
    intro x hx
    have hnot := List.head?_dropWhile_not (fun x => !isBlank x) text
    rw [Option.mem_def.mp hx] at hnot
    simpa using hnot
  refine ⟨_, _, hsplit.symm, hne, hrest, ?_⟩
  rw [← wordsChars_append_of_not_blank hne hword hrest, hsplit]

end PortSurvey.Text
