import PortSurvey.Text.Decimal
import PortSurvey.Text.Split
import PortSurvey.Yaml.Value

/-!
# The values of plain scalars

A plain scalar is no value, a truth value, a number or a text, whichever is the first that fits.
Whole numbers are written in base ten, or after `0x`, `0o` or `0b` in another base; one that
begins with a zero it does not need is a text.
-/

namespace PortSurvey.Yaml

open Text

/-- Whether a plain scalar says that there is no value. -/
def isNullText (s : String) : Bool :=
  s ∈ ["null", "Null", "NULL", "~"]

/-- The truth value that a plain scalar is. -/
def readBool? (s : String) : Option Bool :=
  if s ∈ ["true", "True", "TRUE"] then some true
  else if s ∈ ["false", "False", "FALSE"] then some false
  else none

/-- The rest of a text after `start`. -/
def afterStart? (start : String) (s : List Char) : Option (List Char) :=
  if start.toList.isPrefixOf s then some (s.drop start.length) else none

/-- Whether a text, less one sign, is a zero before other digits. -/
def hasNeedlessZero (s : List Char) : Bool :=
  let digits := match s with
    | '+' :: rest => rest
    | '-' :: rest => rest
    | _ => s
  match digits with
  | '0' :: x :: rest => (x :: rest).all Char.isDigit
  | _ => false

/-- A number after the mark of its base, which `sign` stands before. -/
def readMarked? (sign : String) (s : List Char) : Option Nat :=
  match afterStart? (sign ++ "0x") s with
  | some digits => readBase? 16 digits
  | none =>
    match afterStart? (sign ++ "0o") s with
    | some digits => readBase? 8 digits
    | none => (afterStart? (sign ++ "0b") s).bind (readBase? 2)

/-- The whole number that a plain scalar is. -/
def readWhole? (s : List Char) : Option Int :=
  let unsigned := match s with
    | '+' :: rest => rest
    | _ => s
  match readMarked? "" unsigned with
  | some n => some n
  | none =>
    match readMarked? "-" s with
    | some n => some (-n)
    | none =>
      if hasNeedlessZero s then none
      else
        match s with
        | '-' :: rest => (readBase? 10 rest).map (fun n => -(n : Int))
        | _ => (readBase? 10 unsigned).map (fun n => (n : Int))

/-- The binary number that a plain scalar is. -/
def readBinary? (s : List Char) : Option UInt64 :=
  let unsigned := match s with
    | '+' :: '+' :: _ => none
    | '+' :: '-' :: _ => none
    | '+' :: rest => some rest
    | _ => some s
  match unsigned with
  | none => none
  | some u =>
    let word := String.ofList u
    if word ∈ [".inf", ".Inf", ".INF"] then some (infinityBits false)
    else if String.ofList s ∈ ["-.inf", "-.Inf", "-.INF"] then some (infinityBits true)
    else if String.ofList s ∈ [".nan", ".NaN", ".NAN"] then some noNumberBits
    else (readDecimal? u).bind Decimal.binary?

/-- Whether a whole number fits into 64 bits, with a sign if it is negative. -/
def fitsWord (n : Int) : Bool :=
  -0x8000000000000000 ≤ n && n < 0x10000000000000000

/-- Whether a whole number fits into 128 bits, with a sign if it is negative. -/
def fitsDoubleWord (n : Int) : Bool :=
  -0x80000000000000000000000000000000 ≤ n && n < 0x100000000000000000000000000000000

/-- What a plain scalar is, apart from a text. -/
inductive Plain
  /-- No value. -/
  | null
  /-- A truth value. -/
  | bool (b : Bool)
  /-- A whole number that fits into 128 bits. -/
  | whole (n : Int)
  /-- A binary number. -/
  | binary (bits : UInt64)
  /-- A text. -/
  | text
  deriving DecidableEq

/-- What a plain scalar is. -/
def Plain.ofText (s : String) : Plain :=
  if s.isEmpty || isNullText s then .null
  else
    match readBool? s with
    | some b => .bool b
    | none =>
      match (readWhole? s.toList).filter fitsDoubleWord with
      | some n => .whole n
      | none =>
        if hasNeedlessZero s.toList then .text
        else
          match readBinary? s.toList with
          | some bits => .binary bits
          | none => .text

end PortSurvey.Yaml
