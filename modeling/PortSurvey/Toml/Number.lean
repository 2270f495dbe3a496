import PortSurvey.Text.Decimal
import PortSurvey.Toml.Value

/-!
# Numbers and moments of a configuration document

A number or a moment is a run of characters that is read as a whole. Single underscores may stand
between the digits of a number, and a decimal number has no zero in front that it does not need.
-/

namespace PortSurvey.Toml

open Text

/-- The number that digits with single underscores between them denote. -/
def readDigits? (base : Nat) (s : List Char) : Option Nat :=
  let groups := s.splitOnP (· == '_')
  if groups.any (·.isEmpty) then none else readBase? base groups.flatten

/-- Whether a text is digits with single underscores between them. -/
def isDigits (s : List Char) : Bool :=
  (readDigits? 10 s).isSome

/-- Whether a text is a decimal number without a sign and without a zero that it does not need. -/
def isWhole (s : List Char) : Bool :=
  isDigits s && (s.head? != some '0' || s.length == 1)

/-- Whether a minus sign stands in front, and the characters after a sign. -/
def splitSign : List Char → Bool × List Char
  | '-' :: rest => (true, rest)
  | '+' :: rest => (false, rest)
  | s => (false, s)

/-- The number, if it fits into 64 bits with a sign. -/
def word? (n : Int) : Option Value :=
  if -0x8000000000000000 ≤ n ∧ n < 0x8000000000000000 then some (.whole n) else none

/-- The whole number that a text is. One in another base than ten has no sign. -/
def readWhole? (s : List Char) : Option Value :=
  match s with
  | '0' :: 'x' :: digits => (readDigits? 16 digits).bind fun n => word? n
  | '0' :: 'o' :: digits => (readDigits? 8 digits).bind fun n => word? n
  | '0' :: 'b' :: digits => (readDigits? 2 digits).bind fun n => word? n
  | _ =>
    let (negative, digits) := splitSign s
    if isWhole digits then
      (readDigits? 10 digits).bind fun n => word? (if negative then -(n : Int) else n)
    else none

/-- Whether a text is a number with a point or a power of ten: digits, then a point and digits or
`e` and digits or both. -/
def isBinaryText (s : List Char) : Bool :=
  let digits := (splitSign s).2
  let mantissa := digits.takeWhile (fun c => c != 'e' && c != 'E')
  let power := digits.drop mantissa.length
  let whole := mantissa.takeWhile (· != '.')
  let part := mantissa.drop whole.length
  isWhole whole && (part.isEmpty || isDigits (part.drop 1)) &&
    (power.isEmpty || isDigits (splitSign (power.drop 1)).2) &&
    !(part.isEmpty && power.isEmpty)

/-- The binary number that a text is. One that is too great is none, except below zero, where it is
infinite. -/
def readBinary? (s : List Char) : Option Value :=
  let (negative, word) := splitSign s
  if word == "inf".toList then some (.binary (infinityBits negative))
  else if word == "nan".toList then some (.binary noNumberBits)
  else if isBinaryText s then
    match (readDecimal? (s.filter (· != '_'))).bind Decimal.binary? with
    | some bits => some (.binary bits)
    | none => if negative then some (.binary (infinityBits true)) else none
  else none

/-! ## Moments -/

/-- The number that two digits denote, if it is at most `most`. -/
def readTwo? (most : Nat) (a b : Char) : Option Nat :=
  (readBase? 10 [a, b]).filter (· ≤ most)

/-- The number of days of a month. -/
def daysOf (year month : Nat) : Nat :=
  if month == 2 then
    if year % 4 == 0 && (year % 100 != 0 || year % 400 == 0) then 29 else 28
  else if month ∈ [4, 6, 9, 11] then 30
  else 31

/-- Whether a text is a date, `yyyy-mm-dd`. -/
def isDate : List Char → Bool
  | [y₁, y₂, y₃, y₄, '-', m₁, m₂, '-', d₁, d₂] =>
    match readBase? 10 [y₁, y₂, y₃, y₄], readTwo? 12 m₁ m₂, readTwo? 31 d₁ d₂ with
    | some year, some month, some day => 1 ≤ month && 1 ≤ day && day ≤ daysOf year month
    | _, _, _ => false
  | _ => false

/-- Whether a text is what may follow a time: nothing or the distance from the universal time. -/
def isOffset : List Char → Bool
  | [] => true
  | ['Z'] => true
  | ['z'] => true
  | [sign, h₁, h₂, ':', m₁, m₂] =>
    (sign == '+' || sign == '-') && (readTwo? 23 h₁ h₂).isSome && (readTwo? 59 m₁ m₂).isSome
  | _ => false

/-- The characters after the fraction of a second, if there is one. -/
def afterFraction? : List Char → Option (List Char)
  | '.' :: rest =>
    let digits := rest.takeWhile Char.isDigit
    if digits.isEmpty then none else some (rest.drop digits.length)
  | s => some s

/-- The characters after a time, `hh:mm:ss`, and its fraction. -/
def afterTime? : List Char → Option (List Char)
  | h₁ :: h₂ :: ':' :: m₁ :: m₂ :: ':' :: s₁ :: s₂ :: rest =>
    if (readTwo? 23 h₁ h₂).isSome && (readTwo? 59 m₁ m₂).isSome && (readTwo? 60 s₁ s₂).isSome then
      afterFraction? rest
    else none
  | _ => none

/-- Whether a text is a time, without a distance. -/
def isTime (s : List Char) : Bool :=
  afterTime? s == some []

/-- Whether a text is a date and a time, between which `T` or a space stands. -/
def isDateTime (s : List Char) : Bool :=
  match s.drop 10 with
  | mark :: rest =>
    isDate (s.take 10) && (mark == 'T' || mark == 't' || mark == ' ') &&
      (afterTime? rest).any isOffset
  | [] => false

/-- The moment that a text is. -/
def readMoment? (s : List Char) : Option Value :=
  if isDate s || isTime s || isDateTime s then some (.moment (String.ofList s)) else none

/-! ## Runs of characters -/

/-- Whether a character may stand in a number or a moment. -/
def isNumeric (c : Char) : Bool :=
  c.isAlphanum || c ∈ ['+', '-', '_', '.', ':']

/-- The run of characters of which a number or a moment at the front of a text consists. A space
goes between a date and a time. -/
def numericRun (s : List Char) : List Char :=
  let run := s.takeWhile isNumeric
  match s.drop run.length with
  | ' ' :: rest =>
    if isDate run && rest.head?.any Char.isDigit then run ++ ' ' :: rest.takeWhile isNumeric
    else run
  | _ => run

/-- The truth value, the number or the moment that a run of characters is. -/
def readRun? (run : List Char) : Option Value :=
  if run == "true".toList then some (.bool true)
  else if run == "false".toList then some (.bool false)
  else ((readMoment? run).or (readBinary? run)).or (readWhole? run)

end PortSurvey.Toml
