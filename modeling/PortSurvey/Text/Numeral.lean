/-!
# Decimal numerals with a bound

`Numeral.read` reads digits from the left and stops at the first fault: a character that is no
digit, or a digit that carries the number over the bound. One plus sign may stand in front.
-/

namespace PortSurvey.Text

/-- Why a text is no number within its bound. -/
inductive Numeral.Fault
  /-- There is no character at all. -/
  | empty
  /-- A character is no digit, or a sign has no digit after it. -/
  | invalidDigit
  /-- The number is greater than the bound. -/
  | tooLarge
  deriving DecidableEq, Repr

/-- The wording of a fault. -/
def Numeral.Fault.message : Numeral.Fault → String
  | .empty => "cannot parse integer from empty string"
  | .invalidDigit => "invalid digit found in string"
  | .tooLarge => "number too large to fit in target type"

/-- The value of an ASCII digit. -/
def digitValue? (c : Char) : Option Nat :=
  if '0' ≤ c ∧ c ≤ '9' then some (c.toNat - '0'.toNat) else none

/-- Reads digits on top of the number read so far. -/
def Numeral.readDigits (bound : Nat) : Nat → List Char → Except Numeral.Fault Nat
  | n, [] => .ok n
  | n, c :: rest =>
    match digitValue? c with
    | none => .error .invalidDigit
    | some d =>
      if n * 10 + d ≤ bound then Numeral.readDigits bound (n * 10 + d) rest
      else .error .tooLarge

/-- Reads a number of at most `bound`. -/
def Numeral.read (bound : Nat) : List Char → Except Numeral.Fault Nat
  | [] => .error .empty
  | ['+'] => .error .invalidDigit
  | '+' :: rest => Numeral.readDigits bound 0 rest
  | c :: rest => Numeral.readDigits bound 0 (c :: rest)

/-- The greatest number that sixteen bits hold. -/
def maxPort : Nat := 65535

end PortSurvey.Text
