/-!
# Statements about the characters of a text

A statement about all characters of a list is decided by going through the list, and one about a
character that may be missing by looking at it. Without these instances such a statement may be taken for
one about all characters that there are, which is decided by trying each of them.
-/

namespace PortSurvey.Text

variable (p : Char → Prop) [DecidablePred p]

/-- Whether all characters of a list have a property is decided on the list. -/
instance (priority := 1100) decidableForallMem (s : List Char) : Decidable (∀ c ∈ s, p c) :=
  List.decidableBAll p s

/-- Whether a character has a property unless it is missing is decided on the character. -/
instance (priority := 1100) decidableForallMemOption (o : Option Char) :
    Decidable (∀ c ∈ o, p c) :=
  Option.decidableForallMem o

/-- Whether a character is there and has a property is decided on the character. -/
instance (priority := 1100) decidableExistsMemOption (o : Option Char) :
    Decidable (∃ c ∈ o, p c) :=
  Option.decidableExistsMem o

end PortSurvey.Text
