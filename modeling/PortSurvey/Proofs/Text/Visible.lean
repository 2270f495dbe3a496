import PortSurvey.Proofs.Text.Lines
import PortSurvey.Proofs.Text.Trim

/-!
# Visible characters

The visible characters of a text are those that are not blank. Neither the blanks at its ends
(`visible_trimChars`) nor the ends of its lines are among them, so that the lines of a text have all that
is visible of it (`flatMap_visible_linesChars`). The last of them is the last character that is left of
the text without the blanks at its end (`getLast?_trimEndChars`).
-/

namespace PortSurvey.Text

/-- The characters of a text that are not blank. -/
def visible (s : List Char) : List Char :=
  s.filter (!isBlank ·)

variable {s t : List Char}

/-- The visible characters of a text in two pieces are those of the pieces. -/
theorem visible_append (s t : List Char) : visible (s ++ t) = visible s ++ visible t :=
  List.filter_append s t

/-- Nothing is visible of blanks. -/
theorem visible_of_isBlank (h : ∀ c ∈ s, isBlank c = true) : visible s = [] :=
  List.filter_eq_nil_iff.mpr fun c hc => by rw [h c hc]; exact Bool.false_ne_true

/-- Blanks between two pieces are not visible. -/
theorem visible_append_cons {c : Char} (hc : isBlank c = true) (s t : List Char) :
    visible (s ++ c :: t) = visible s ++ visible t := by
  have hblank : visible [c] = [] := visible_of_isBlank (List.forall_mem_singleton.mpr hc)
  rw [List.append_cons, visible_append, visible_append, hblank, List.append_nil]

/-- The characters of a text are visible from the other end in the other order. -/
theorem visible_reverse (s : List Char) : visible s.reverse = (visible s).reverse :=
  List.filter_reverse

/-- A text has the same visible characters without the blanks at its front. -/
theorem visible_trimStartChars (s : List Char) : visible (trimStartChars s) = visible s := by
  have hsplit : s.takeWhile isBlank ++ trimStartChars s = s := List.takeWhile_append_dropWhile
  have hfront : visible (s.takeWhile isBlank) = [] :=
    visible_of_isBlank fun c hc => List.mem_takeWhile_imp hc
  calc visible (trimStartChars s)
      = visible (s.takeWhile isBlank) ++ visible (trimStartChars s) := by
        rw [hfront, List.nil_append]
    _ = visible s := by rw [← visible_append, hsplit]

/-- A text has the same visible characters without the blanks at its end. -/
theorem visible_trimEndChars (s : List Char) : visible (trimEndChars s) = visible s := by
  have hstart : visible (s.reverse.dropWhile isBlank) = visible s.reverse :=
    visible_trimStartChars s.reverse
  unfold trimEndChars
  rw [visible_reverse, hstart, visible_reverse, List.reverse_reverse]

/-- A text has the same visible characters without the blanks at its ends. -/
theorem visible_trimChars (s : List Char) : visible (trimChars s) = visible s := by
  unfold trimChars
  rw [visible_trimEndChars, visible_trimStartChars]

/-- The first character that is left of a text without the blanks at its front is its first visible one. -/
theorem head?_trimStartChars (s : List Char) : (trimStartChars s).head? = (visible s).head? := by
  unfold trimStartChars visible
  induction s with
  | nil => rfl
  | cons c rest ih =>
    cases hc : isBlank c with
    | true => rw [List.dropWhile_cons_of_pos hc, List.filter_cons_of_neg (by simp [hc]), ih]
    | false =>
      rw [List.dropWhile_cons_of_neg (by simp [hc]), List.filter_cons_of_pos (by simp [hc])]
      rfl

/-- The last character that is left of a text without the blanks at its end is its last visible one. -/
theorem getLast?_trimEndChars (s : List Char) :
    (trimEndChars s).getLast? = (visible s).getLast? := by
  have hhead : (s.reverse.dropWhile isBlank).head? = (visible s.reverse).head? :=
    head?_trimStartChars s.reverse
  unfold trimEndChars
  rw [List.getLast?_reverse, hhead, visible_reverse, List.head?_reverse]

/-- The lines of a text have the visible characters of the text. -/
theorem flatMap_visible_linesChars (s : List Char) :
    (linesChars s).flatMap visible = visible s := by
  induction s using lines_induction with
  | nil => rfl
  | last hline hne => rw [linesChars_of_notMem hline hne, List.flatMap_singleton]
  | @ended line rest hline ih =>
    rw [linesChars_append_cons hline, List.flatMap_cons, ih, visible_append_cons rfl]
    congr 1
    -- A carriage return that belongs to the end of the line is a blank.
    split_ifs with hreturn
    · obtain ⟨text, rfl⟩ := List.getLast?_eq_some_iff.mp (beq_iff_eq.mp hreturn)
      rw [List.dropLast_concat, visible_append_cons rfl]
      exact (List.append_nil _).symm
    · rfl

end PortSurvey.Text
