import Mathlib.Data.List.TakeWhile
import PortSurvey.Text.Blank

/-!
# Blank texts

A text is blank if nothing is left of it between the blanks at its ends. So a text with a character
that is no blank stays so, whatever stands before and after it.
-/

namespace PortSurvey.Text

/-- A text of two pieces is blank exactly if both are. -/
theorem isBlankText_append (s t : String) :
    isBlankText (s ++ t) = (isBlankText s && isBlankText t) := by
  unfold isBlankText
  rw [String.toList_append, List.all_append]

/-- What follows a text that is not blank does not make it blank. -/
theorem isBlankText_append_of_left {s : String} (h : isBlankText s = false) (t : String) :
    isBlankText (s ++ t) = false := by
  rw [isBlankText_append, h, Bool.false_and]

/-- What stands before a text that is not blank does not make it blank. -/
theorem isBlankText_append_of_right (s : String) {t : String} (h : isBlankText t = false) :
    isBlankText (s ++ t) = false := by
  rw [isBlankText_append, h, Bool.and_false]

/-- Nothing is left of a blank text without its blanks. -/
theorem trim_of_isBlankText {s : String} (h : isBlankText s = true) : trim s = "" := by
  have hdropped : s.toList.dropWhile isBlank = [] :=
    List.dropWhile_eq_nil_iff.mpr fun c hc => List.all_eq_true.mp h c hc
  unfold trim trimChars trimStartChars
  rw [hdropped]
  rfl

end PortSurvey.Text
