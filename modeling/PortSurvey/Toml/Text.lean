import PortSurvey.Text.Ranges

/-!
# Texts and keys of a configuration document

A text stands between quotes, basic with escapes or literal without, on one line or between three
quotes on several. A key is a bare word or a text on one line, and dots join keys to a path. Each
reader gives what it read and the characters after it.
-/

namespace PortSurvey.Toml

open Text

/-- Whether a character is a space or a tab. -/
def isSpace (c : Char) : Bool :=
  c == ' ' || c == '\t'

/-- Whether a character may stand in texts and comments: a tab or one that is no control character
of ASCII. -/
def isInside (c : Char) : Bool :=
  c == '\t' || (0x20 ≤ c.toNat && c.toNat != 0x7F)

/-- The characters after spaces and tabs. -/
def skipSpaces (s : List Char) : List Char :=
  s.dropWhile isSpace

/-- The characters after a line break. -/
def newline? : List Char → Option (List Char)
  | '\n' :: rest => some rest
  | '\r' :: '\n' :: rest => some rest
  | _ => none

/-- The characters after the end of a line, on which a comment may stand. -/
def lineEnd? (s : List Char) : Option (List Char) :=
  let s := match skipSpaces s with
    | '#' :: rest => rest.dropWhile isInside
    | s => s
  if s.isEmpty then some [] else newline? s

/-! ## Texts -/

/-- The character that a one-letter escape stands for. -/
def escape? : Char → Option Char
  | 'b' => some '\x08'
  | 't' => some '\t'
  | 'n' => some '\n'
  | 'f' => some '\x0c'
  | 'r' => some '\r'
  | '"' => some '"'
  | '\\' => some '\\'
  | _ => none

/-- The number of hexadecimal digits after an escape by number. -/
def escapeDigits : Char → Nat
  | 'u' => 4
  | 'U' => 8
  | _ => 0

/-- Whether a number is that of a character. -/
def isCharacterCode (n : Nat) : Bool :=
  n < 0xD800 || (0xDFFF < n && n < 0x110000)

/-- The character that the digits of an escape stand for. -/
def characterOf? (digits : List Char) : Option Char :=
  let n := hexNumber digits
  if digits.all (fun c => (hexValue? c).isSome) && isCharacterCode n then some (Char.ofNat n)
  else none

/-- The character that an escape stands for, and the number of characters after its letter. -/
def escaped? (letter : Char) (rest : List Char) : Option (Char × Nat) :=
  match escape? letter with
  | some c => some (c, 0)
  | none =>
    let n := escapeDigits letter
    if n == 0 || rest.length < n then none else (characterOf? (rest.take n)).map (·, n)

/-- Reads a basic text on one line, after its quote. -/
def readBasic (s : List Char) : Option ((List Char) × List Char) :=
  match s with
  | [] => none
  | ['\\'] => none
  | '"' :: rest => some ([], rest)
  | '\\' :: letter :: rest =>
    match escaped? letter rest with
    | some (c, n) => (readBasic (rest.drop n)).map fun (text, after) => (c :: text, after)
    | none => none
  | c :: rest =>
    if isInside c then (readBasic rest).map fun (text, after) => (c :: text, after) else none
termination_by s.length
decreasing_by all_goals simp [List.length_drop]; try omega

/-- Reads a literal text on one line, after its quote. -/
def readLiteral : List Char → Option ((List Char) × List Char)
  | [] => none
  | '\'' :: rest => some ([], rest)
  | c :: rest =>
    if isInside c then (readLiteral rest).map fun (text, after) => (c :: text, after) else none

/-- The characters after spaces, tabs and line breaks. -/
def skipGap : List Char → List Char
  | '\r' :: '\n' :: rest => skipGap rest
  | c :: rest => if isSpace c || c == '\n' then skipGap rest else c :: rest
  | [] => []

/-- The characters after an escaped line break and the gap that follows it, if a break comes after
spaces and tabs. -/
def joinLines? (s : List Char) : Option (List Char) :=
  (newline? (skipSpaces s)).map skipGap

/-- Reads a text on several lines, after its quotes and the line break after them. It ends at three
quotes, of which up to five may stand there: those in front are part of the text. -/
def readLong (quote : Char) (escapes : Bool) : Nat → List Char → Option ((List Char) × List Char)
  | 0, _ => none
  | fuel + 1, s =>
    let add (c : Char) (rest : List Char) : Option ((List Char) × List Char) :=
      (readLong quote escapes fuel rest).map fun (text, after) => (c :: text, after)
    match newline? s with
    | some rest => add '\n' rest
    | none =>
      match s with
      | [] => none
      | c :: rest =>
        if c == quote then
          let quotes := 1 + (rest.takeWhile (· == quote)).length
          if quotes < 3 then add quote rest
          else
            let extra := min (quotes - 3) 2
            some (List.replicate extra quote, s.drop (extra + 3))
        else if escapes && c == '\\' then
          match joinLines? rest with
          | some rest => readLong quote escapes fuel rest
          | none =>
            match rest with
            | [] => none
            | letter :: rest =>
              match escaped? letter rest with
              | some (c, n) => add c (rest.drop n)
              | none => none
        else if isInside c then add c rest
        else none

/-- The characters after a line break, if there is one. -/
def skipNewline (s : List Char) : List Char :=
  (newline? s).getD s

/-- What was read, as a text. -/
def asText (r : Option ((List Char) × List Char)) : Option (String × List Char) :=
  r.map fun (text, after) => (String.ofList text, after)

/-- Reads a text on one line. -/
def readShort : List Char → Option (String × List Char)
  | '"' :: rest => asText (readBasic rest)
  | '\'' :: rest => asText (readLiteral rest)
  | _ => none

/-- Reads a text of any kind. -/
def readText : List Char → Option (String × List Char)
  | '"' :: '"' :: '"' :: rest => asText (readLong '"' true (rest.length + 1) (skipNewline rest))
  | '\'' :: '\'' :: '\'' :: rest =>
    asText (readLong '\'' false (rest.length + 1) (skipNewline rest))
  | s => readShort s

/-! ## Keys -/

/-- Whether a character may stand in a bare key. -/
def isBare (c : Char) : Bool :=
  c.isAlphanum || c == '-' || c == '_'

/-- Reads a key without dots. -/
def readKey (s : List Char) : Option (String × List Char) :=
  let word := s.takeWhile isBare
  if word.isEmpty then readShort s else some (String.ofList word, s.drop word.length)

/-- The number of keys that a path has at most. -/
def maxKeys : Nat := 79

/-- Reads at most `n` keys that dots join, with spaces around each. -/
def readKeys : Nat → List Char → Option ((List String) × List Char)
  | 0, _ => none
  | n + 1, s =>
    match readKey (skipSpaces s) with
    | none => none
    | some (key, rest) =>
      match skipSpaces rest with
      | '.' :: rest => (readKeys n rest).map fun (keys, after) => (key :: keys, after)
      | rest => some ([key], rest)

/-- Reads a path, as the keys up to its last and its last key. -/
def readPath (s : List Char) : Option ((List String × String) × List Char) :=
  match readKeys maxKeys s with
  | some (keys, rest) => keys.getLast?.map fun key => ((keys.dropLast, key), rest)
  | none => none

end PortSurvey.Toml
