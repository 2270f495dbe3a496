/-!
# Sets of characters as ranges

A property of characters is kept as the ranges of code points that have it. The tables of the
larger properties are written as text, in hexadecimal: ranges are separated by blanks, and a range
of one code point is that code point alone.
-/

namespace PortSurvey.Text

/-- A set of code points, as ranges that include both of their ends. -/
abbrev Ranges := List (Nat × Nat)

/-- Whether a code point lies in one of the ranges. -/
def Ranges.hasCode (r : Ranges) (n : Nat) : Bool :=
  r.any (fun b => b.1 ≤ n && n ≤ b.2)

/-- Whether a character lies in one of the ranges. -/
def Ranges.has (r : Ranges) (c : Char) : Bool :=
  r.hasCode c.toNat

/-- The value of a hexadecimal digit. -/
def hexValue? (c : Char) : Option Nat :=
  if '0' ≤ c ∧ c ≤ '9' then some (c.toNat - '0'.toNat)
  else if 'a' ≤ c ∧ c ≤ 'f' then some (c.toNat - 'a'.toNat + 10)
  else if 'A' ≤ c ∧ c ≤ 'F' then some (c.toNat - 'A'.toNat + 10)
  else none

/-- The number that hexadecimal digits denote; other characters are passed over. -/
def hexNumber (digits : List Char) : Nat :=
  digits.foldl (fun n c => match hexValue? c with | some d => n * 16 + d | none => n) 0

/-- The items of a table, which spaces and line feeds stand between. -/
def tableItems (table : String) : List (List Char) :=
  (table.toList.splitOnP (fun c => c == ' ' || c == '\n')).filter (fun w => !w.isEmpty)

/-- Reads a table of ranges. -/
def Ranges.ofTable (table : String) : Ranges :=
  (tableItems table).map fun item =>
    match item.splitOnP (· == '-') with
    | [lo, hi] => (hexNumber lo, hexNumber hi)
    | _ => (hexNumber item, hexNumber item)

end PortSurvey.Text
