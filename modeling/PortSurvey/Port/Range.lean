import PortSurvey.Text.Blank
import PortSurvey.Text.Numeral
import PortSurvey.Text.Split
import PortSurvey.Yaml.Value

/-!
# Ports in texts and documents

A port is a number from 1 to 65535. In a text it may have blanks around it and a plus sign before
it; a range is written as two ports with a hyphen between them and covers a hundred ports at most.
In a document a port is a whole number or a text.
-/

namespace PortSurvey.Port

open Text

/-- The number of ports that a range may cover. -/
def maxRange : Nat := 100

/-- Reads a port, with blanks around it. -/
def read? (s : List Char) : Option Nat :=
  match Numeral.read maxPort (trimChars s) with
  | .ok 0 => none
  | .ok port => some port
  | .error _ => none

/-- The `n` ports from `first` on. -/
def consecutive (first n : Nat) : List Nat :=
  (List.range n).map (first + ·)

/-- Reads a port or a range of ports: all that it covers, in ascending order. -/
def readRange? (s : List Char) : Option (List Nat) :=
  match splitOnce '-' s with
  | none => (read? s).map ([·])
  | some (before, after) =>
    match read? before, read? after with
    | some first, some last =>
      if first ≤ last ∧ last - first < maxRange then some (consecutive first (last - first + 1))
      else none
    | _, _ => none

/-- The port that a number is. -/
def ofNumber? : Yaml.Number → Option Nat
  | .whole n => if 1 ≤ n ∧ n ≤ maxPort then some n.toNat else none
  | .binary _ => none

/-- The port that a whole number or a text without a tag is. -/
def ofValue? : Yaml.Value → Option Nat
  | .number n => ofNumber? n
  | .string s => read? s.toList
  | _ => none

/-- The port that a whole number without a tag is. -/
def ofWhole? : Yaml.Value → Option Nat
  | .number n => ofNumber? n
  | _ => none

end PortSurvey.Port
