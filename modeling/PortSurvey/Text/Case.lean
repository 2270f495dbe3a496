import PortSurvey.Text.CaseTable

/-!
# Lower and upper case

`lower` and `upper` write a text in one case, character by character. One character may become
several, and a capital sigma becomes a final sigma at the end of a word, which is the one place
where neighbours matter.
-/

namespace PortSurvey.Text

/-- The runs of `lowerTable`. -/
def lowerRuns : List Run :=
  Run.ofTable lowerTable

/-- The runs of `upperTable`. -/
def upperRuns : List Run :=
  Run.ofTable upperTable

/-- The characters with an upper-case form of several characters, and those forms. -/
def wideUppers : List (Nat × List Char) :=
  (tableItems wideUpperTable).map fun row =>
    match row.splitOnP (· == ':') with
    | [source, target] =>
      (hexNumber source, (target.splitOnP (· == '-')).map (fun h => Char.ofNat (hexNumber h)))
    | _ => (0, [])

/-- The characters that are upper, lower or title case. -/
def casedRanges : Ranges :=
  Ranges.ofTable casedTable

/-- The characters that are passed over when the ends of a word are sought. -/
def caseIgnorableRanges : Ranges :=
  Ranges.ofTable caseIgnorableTable

/-- What the first run that has the code point maps it to. -/
def Run.lookup (runs : List Run) (n : Nat) : Option Nat :=
  runs.findSome? (·.map? n)

/-- The lower-case form of a character that stands alone. -/
def lowerChar (c : Char) : List Char :=
  if c.toNat < 0x80 then [c.toLower]
  else if c.toNat == 0x130 then ['i', Char.ofNat 0x307]
  else match Run.lookup lowerRuns c.toNat with
    | some n => [Char.ofNat n]
    | none => [c]

/-- The upper-case form of a character. -/
def upperChar (c : Char) : List Char :=
  if c.toNat < 0x80 then [c.toUpper]
  else match wideUppers.find? (fun row => row.1 == c.toNat) with
    | some row => row.2
    | none =>
      match Run.lookup upperRuns c.toNat with
      | some n => [Char.ofNat n]
      | none => [c]

/-- Whether the first character that is not passed over has a case. -/
def meetsCased (s : List Char) : Bool :=
  match s.dropWhile caseIgnorableRanges.has with
  | c :: _ => casedRanges.has c
  | [] => false

/-- The lower-case form of a sigma between the characters before it, nearest first, and those
after it. -/
def lowerSigma (before after : List Char) : Char :=
  if meetsCased before && !meetsCased after then 'ς' else 'σ'

/-- The lower-case form of a text that follows the characters `before`, nearest first. -/
def lowerAfter (before : List Char) : List Char → List Char
  | [] => []
  | c :: rest =>
    (if c == 'Σ' then [lowerSigma before rest] else lowerChar c) ++ lowerAfter (c :: before) rest

/-- A text in lower case. -/
def lower (s : String) : String :=
  String.ofList (lowerAfter [] s.toList)

/-- A text in upper case. -/
def upper (s : String) : String :=
  String.ofList (s.toList.flatMap upperChar)

/-- A text whose ASCII letters are in lower case. -/
def asciiLower (s : String) : String :=
  String.ofList (s.toList.map Char.toLower)

end PortSurvey.Text
