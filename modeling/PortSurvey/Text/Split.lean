/-!
# Cutting and searching texts

`splitOnce` cuts a text at the first occurrence of a character and `splitOnceEnd` at the last.
`holds` says that one text occurs inside another.
-/

namespace PortSurvey.Text

/-- The texts before and after the first occurrence of `c`, if there is one. -/
def splitOnce (c : Char) : List Char → Option (List Char × List Char)
  | [] => none
  | x :: rest =>
    if x == c then some ([], rest)
    else (splitOnce c rest).map (fun (before, after) => (x :: before, after))

/-- The texts before and after the last occurrence of `c`, if there is one. -/
def splitOnceEnd (c : Char) : List Char → Option (List Char × List Char)
  | [] => none
  | x :: rest =>
    match splitOnceEnd c rest with
    | some (before, after) => some (x :: before, after)
    | none => if x == c then some ([], rest) else none

/-- Whether `part` occurs in a list of characters. -/
def holdsChars (part : List Char) : List Char → Bool
  | [] => part.isEmpty
  | x :: rest => part.isPrefixOf (x :: rest) || holdsChars part rest

/-- Whether `part` occurs in `s`. -/
def holds (s part : String) : Bool :=
  holdsChars part.toList s.toList

/-- Whether `s` begins with `start`. -/
def startsWith (s start : String) : Bool :=
  start.toList.isPrefixOf s.toList

/-- Whether `s` ends with `tail`. -/
def endsWith (s tail : String) : Bool :=
  tail.toList.isSuffixOf s.toList

/-- The texts between the occurrences of `c`; one more than there are occurrences. -/
def splitAll (c : Char) (s : String) : List String :=
  (s.toList.splitOnP (· == c)).map String.ofList

/-- The lines of a text: what stands between line feeds, each without a carriage return before its
line feed. A text that ends in a line feed has no line after it. -/
def linesChars (s : List Char) : List (List Char) :=
  let pieces := s.splitOnP (· == '\n')
  let ended := pieces.dropLast.map
    (fun l => if l.getLast? == some '\r' then l.dropLast else l)
  match pieces.getLast? with
  | some (x :: rest) => ended ++ [x :: rest]
  | _ => ended

end PortSurvey.Text
