/-!
# Occurrences in a text

`occurrences` finds what a recogniser accepts, from left to right and without overlaps: where it
accepts, the search goes on after the characters that it used.
-/

namespace PortSurvey.Text

/-- A recogniser sees the character before a place, if there is one, and the characters from there
on. What it accepts comes with the number of characters used. -/
abbrev Recogniser (α : Type) := Option Char → List Char → Option (α × Nat)

/-- What a recogniser accepts in a text that `prev` stands before, each with its offset. The first
`skip` characters belong to what was accepted before, and `offset` is that of the first. -/
def occurrencesFrom {α : Type} (p : Recogniser α) :
    Nat → Nat → Option Char → List Char → List (Nat × α)
  | _, _, _, [] => []
  | offset, skip + 1, _, c :: rest => occurrencesFrom p (offset + 1) skip (some c) rest
  | offset, 0, prev, c :: rest =>
    match p prev (c :: rest) with
    | some (a, n) => (offset, a) :: occurrencesFrom p (offset + 1) (n - 1) (some c) rest
    | none => occurrencesFrom p (offset + 1) 0 (some c) rest

/-- What a recogniser accepts in a text, each with its offset. -/
def occurrences {α : Type} (p : Recogniser α) (s : List Char) : List (Nat × α) :=
  occurrencesFrom p 0 0 none s

/-- The number of the line on which the character with an offset stands. -/
def lineAt (s : List Char) (offset : Nat) : Nat :=
  (s.take offset).count '\n' + 1

/-- The characters of the line that stand before the character with an offset. -/
def lineBefore (s : List Char) (offset : Nat) : List Char :=
  ((s.take offset).reverse.takeWhile (· != '\n')).reverse

end PortSurvey.Text
