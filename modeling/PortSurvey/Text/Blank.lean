/-!
# Blanks, trimming and words

The characters with the White_Space property are the blanks of every text that is read here.
`trim` takes them off both ends of a text, and `words` are the maximal runs of other characters.
-/

namespace PortSurvey.Text

/-- Whether a character has the White_Space property. -/
def isBlank (c : Char) : Bool :=
  let n := c.toNat
  (9 ≤ n && n ≤ 13) || n == 0x20 || n == 0x85 || n == 0xA0 || n == 0x1680 ||
    (0x2000 ≤ n && n ≤ 0x200A) || n == 0x2028 || n == 0x2029 || n == 0x202F || n == 0x205F ||
    n == 0x3000

/-- The characters from the first that is not blank on. -/
def trimStartChars (s : List Char) : List Char :=
  s.dropWhile isBlank

/-- The characters up to the last that is not blank. -/
def trimEndChars (s : List Char) : List Char :=
  (s.reverse.dropWhile isBlank).reverse

/-- The characters from the first to the last that is not blank. -/
def trimChars (s : List Char) : List Char :=
  trimEndChars (trimStartChars s)

/-- A text without the blanks at its ends. -/
def trim (s : String) : String :=
  String.ofList (trimChars s.toList)

/-- Whether a text has no character other than blanks. -/
def isBlankText (s : String) : Bool :=
  s.toList.all isBlank

/-- The maximal runs of characters that are not blank, in order. -/
def wordsChars (s : List Char) : List (List Char) :=
  (s.splitOnP isBlank).filter (fun w => !w.isEmpty)

end PortSurvey.Text
