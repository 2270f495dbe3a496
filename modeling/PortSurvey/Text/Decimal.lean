import PortSurvey.Text.Ranges

/-!
# Decimal numbers

`readDecimal?` reads digits with at most one point among them and a power of ten, and
`Decimal.binary?` rounds to the nearest binary number of 64 bits.
-/

namespace PortSurvey.Text

/-- The number that digits of a base denote, if they are digits and there is one at least. -/
def readBase? (base : Nat) (digits : List Char) : Option Nat :=
  if digits.isEmpty then none
  else
    digits.foldl (fun n c =>
      match n, hexValue? c with
      | some n, some d => if d < base then some (n * base + d) else none
      | _, _ => none) (some 0)

/-- The digits of a decimal number, and the power of ten that they are multiplied with. -/
structure Decimal where
  /-- Whether a minus sign stands in front. -/
  negative : Bool
  /-- The digits, as one number. -/
  digits : Nat
  /-- The power of ten. -/
  exponent : Int

/-- Reads a decimal number: digits with at most one point among them, and a power of ten. -/
def readDecimal? (s : List Char) : Option Decimal :=
  let (negative, s) := match s with
    | '-' :: rest => (true, rest)
    | '+' :: rest => (false, rest)
    | _ => (false, s)
  let whole := s.takeWhile Char.isDigit
  let s := s.drop whole.length
  let (part, s) := match s with
    | '.' :: rest =>
      let part := rest.takeWhile Char.isDigit
      (part, rest.drop part.length)
    | _ => ([], s)
  let value := (whole ++ part).foldl (fun n c => n * 10 + (c.toNat - '0'.toNat)) 0
  let exponent : Option Int := match s with
    | [] => some 0
    | e :: rest =>
      if e == 'e' || e == 'E' then
        match rest with
        | '-' :: digits => (readBase? 10 digits).map (fun n => -(n : Int))
        | '+' :: digits => (readBase? 10 digits).map (fun n => (n : Int))
        | digits => (readBase? 10 digits).map (fun n => (n : Int))
      else none
  if whole.isEmpty && part.isEmpty then none
  else exponent.map (fun e => ⟨negative, value, e - part.length⟩)

/-- The number of decimal digits of a number. -/
def decimalLength (n : Nat) : Nat :=
  if n == 0 then 0 else (Nat.toDigits 10 n).length

/-- The binary number of 64 bits that is nearest to a decimal one, if one of them is near. Both
zeros are one. -/
def Decimal.binary? (d : Decimal) : Option UInt64 :=
  if d.digits == 0 then some 0
  else
    let length : Int := decimalLength d.digits
    if 310 < length + d.exponent then none
    else if length + d.exponent < -330 then some 0
    else
      let x := if d.exponent < 0 then Float.ofScientific d.digits true d.exponent.natAbs
        else Float.ofScientific d.digits false d.exponent.natAbs
      if x.isInf then none
      else if x.toBits == 0 then some 0
      else some (if d.negative then (-x).toBits else x.toBits)

/-- The bits of the infinity of a sign. -/
def infinityBits (negative : Bool) : UInt64 :=
  if negative then 0xFFF0000000000000 else 0x7FF0000000000000

/-- The bits of what is no number. -/
def noNumberBits : UInt64 :=
  0x7FF8000000000000

end PortSurvey.Text
