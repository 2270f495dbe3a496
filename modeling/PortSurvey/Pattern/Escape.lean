import PortSurvey.Pattern.Basic
import PortSurvey.Pattern.Property

/-!
# Modes and escapes of patterns

`Modes` are the switches that a pattern may set for the rest of a group. An escape stands for a
character, a set of characters or a look at the place.
-/

namespace PortSurvey.Pattern

open Text

/-- Why a text is no pattern. -/
inductive Fault
  /-- A group is not closed, or closed without being open. -/
  | group
  /-- The name of a group is malformed or was used before. -/
  | groupName
  /-- A switch is unknown, repeated or left out. -/
  | mode
  /-- Brackets are not closed, or hold what no set may hold. -/
  | brackets
  /-- A repetition has nothing to repeat, or its counts are malformed. -/
  | repetition
  /-- An escape is unknown or malformed. -/
  | escape
  /-- A property is unknown, or may not be asked for here. -/
  | property
  /-- A pattern would match parts of characters. -/
  | bytes
  /-- Groups are nested too deep. -/
  | depth
  /-- The pattern is too large. -/
  | size
  deriving DecidableEq, Repr

/-- The switches of a pattern. -/
structure Modes where
  /-- Case means nothing. -/
  caseless : Bool
  /-- Lines have beginnings and ends. -/
  lines : Bool
  /-- A dot matches line feeds too. -/
  dotAll : Bool
  /-- Classes are of all characters and not only of ASCII ones. -/
  unicode : Bool
  /-- Carriage returns end lines too. -/
  crlf : Bool
  /-- Blanks and comments in the pattern mean nothing. -/
  spaced : Bool
  deriving DecidableEq, Repr

/-- The switches with which patterns of services begin. -/
def Modes.start : Modes := ⟨true, false, false, true, false, false⟩

/-- What an escape stands for. -/
inductive Escaped
  /-- A character. -/
  | char (c : Char)
  /-- A set of characters. -/
  | set (chars : Ranges)
  /-- A look at the place. -/
  | look (l : Look)

/-- The ASCII characters. -/
def ascii : Ranges := [(0, 0x7F)]

/-- A set with the characters of other case, where case means nothing. Where classes are of ASCII
characters case is theirs alone. -/
def Modes.fold (m : Modes) (r : Ranges) : Ranges :=
  if !m.caseless then r
  else if m.unicode then folded r
  else normalized (r ++ intersection (folded (intersection r ascii)) ascii)

/-- Passes blanks and comments, where they mean nothing. -/
def Modes.skipSpace (m : Modes) : Nat → List Char → List Char
  | 0, s => s
  | fuel + 1, s =>
    if !m.spaced then s
    else
      match s with
      | '#' :: rest => m.skipSpace fuel (rest.dropWhile (· != '\n'))
      | c :: rest => if isBlank c then m.skipSpace fuel rest else s
      | [] => []

/-- Passes blanks and comments, where they mean nothing. -/
def Modes.skip (m : Modes) (s : List Char) : List Char :=
  m.skipSpace (s.length + 1) s

/-- The characters with property `p` at the front of `s`, `max` of them at most, and what stands
after them. What means nothing is passed after each of them. -/
def Modes.takeSpaced (m : Modes) (p : Char → Bool) : Nat → List Char → List Char × List Char
  | max + 1, c :: rest =>
    if p c then
      let (taken, rest) := m.takeSpaced p max (m.skip rest)
      (c :: taken, rest)
    else ([], c :: rest)
  | _, s => ([], s)

/-- The pattern of a character. -/
def Modes.charPattern (m : Modes) (c : Char) : Pattern :=
  .set (m.fold [(c.toNat, c.toNat)])

/-- A set as a pattern; where classes are of ASCII characters it may hold no others. -/
def Modes.setPattern (m : Modes) (r : Ranges) : Except Fault Pattern :=
  if m.unicode || isAscii r then .ok (.set r) else .error .bytes

/-- Whether a character may be escaped to stand for itself. -/
def mayBeEscaped (c : Char) : Bool :=
  c.toNat < 0x80 && !c.isAlphanum && c != '<' && c != '>'

/-- The character that a number is the code point of. -/
def charOfCode? (n : Nat) : Option Char :=
  if n < 0xD800 || (0xDFFF < n && n ≤ maxCode) then some (Char.ofNat n) else none

/-- The character that hexadecimal digits are the number of. -/
def readCode (digits : List Char) : Except Fault Char :=
  match charOfCode? (hexNumber digits) with
  | some c => .ok c
  | none => .error .escape

/-- Whether a character is a hexadecimal digit. -/
def isHexDigit (c : Char) : Bool := (hexValue? c).isSome

/-- Reads an escape by number: in braces, or with a fixed number of digits. Two digits are the
number of a byte, which is no character by itself where it is not ASCII. -/
def readHex (m : Modes) (digits : Nat) (s : List Char) : Except Fault (Escaped × List Char) := do
  match m.skip s with
  | '\x7b' :: rest =>
    let (number, rest) := m.takeSpaced isHexDigit rest.length (m.skip rest)
    match number, rest with
    | _ :: _, '\x7d' :: rest => return (.char (← readCode number), rest)
    | _, _ => throw .escape
  | s =>
    let (number, rest) := m.takeSpaced isHexDigit digits s
    if number.length < digits then throw .escape
    let c ← readCode number
    if !m.unicode && digits == 2 && 0x7F < c.toNat then throw .bytes
    return (.char c, rest)

/-- Reads the name of a property after its letter. -/
def readProperty (m : Modes) (negated : Bool) (s : List Char) :
    Except Fault (Escaped × List Char) :=
  let named := match m.skip s with
    | '\x7b' :: rest => splitOnce '\x7d' rest
    | '\\' :: _ => none
    | c :: rest => some ([c], rest)
    | [] => none
  match named with
  | none => .error .escape
  | some (name, rest) =>
    if !m.unicode then .error .property
    else
      match property? name with
      | some r =>
        let r := m.fold r
        .ok (.set (if negated then complement r else r), rest)
      | none => .error .property

/-- The set that a letter stands for, and its complement where the letter is a capital. -/
def classSet (m : Modes) (letter : Char) : Ranges :=
  let set := match letter.toLower with
    | 'd' => if m.unicode then decimalRanges else asciiDigit
    | 's' => if m.unicode then blank else asciiBlank
    | _ => if m.unicode then wordRanges else asciiWord
  if letter.isUpper then complement set else set

/-- The looks at words that stand in braces after a `\b`. -/
def namedLook? (ascii : Bool) : String → Option Look
  | "start" => some (.wordStart ascii)
  | "end" => some (.wordEnd ascii)
  | "start-half" => some (.wordStartHalf ascii)
  | "end-half" => some (.wordEndHalf ascii)
  | _ => none

/-- Reads what follows a `\b`: the name of a look in braces, if there is one. -/
def readBoundary (m : Modes) (s : List Char) : Except Fault (Escaped × List Char) :=
  let plain : Escaped := .look (.boundary (!m.unicode))
  match s with
  | '\x7b' :: rest =>
    match m.takeSpaced (fun c => c.isAlpha || c == '-') rest.length (m.skip rest) with
    | ([], _) => .ok (plain, s)
    | (name, '\x7d' :: after) =>
      match namedLook? (!m.unicode) (String.ofList name) with
      | some l => .ok (.look l, after)
      | none => .error .escape
    | _ => .error .escape
  | _ => .ok (plain, s)

/-- Reads an escape after its backslash. -/
def readEscaped (m : Modes) (s : List Char) : Except Fault (Escaped × List Char) :=
  match s with
  | [] => .error .escape
  | c :: rest =>
    if mayBeEscaped c then .ok (.char c, rest)
    else
      match c with
      | 'x' => readHex m 2 rest
      | 'u' => readHex m 4 rest
      | 'U' => readHex m 8 rest
      | 'p' => readProperty m false rest
      | 'P' => readProperty m true rest
      | 'd' | 's' | 'w' | 'D' | 'S' | 'W' => .ok (.set (classSet m c), rest)
      | 'a' => .ok (.char '\x07', rest)
      | 'f' => .ok (.char '\x0c', rest)
      | 't' => .ok (.char '\t', rest)
      | 'n' => .ok (.char '\n', rest)
      | 'r' => .ok (.char '\r', rest)
      | 'v' => .ok (.char '\x0b', rest)
      | 'A' => .ok (.look .textStart, rest)
      | 'z' => .ok (.look .textEnd, rest)
      | 'b' => readBoundary m rest
      | 'B' => .ok (.look (.noBoundary (!m.unicode)), rest)
      | '<' => .ok (.look (.wordStart (!m.unicode)), rest)
      | '>' => .ok (.look (.wordEnd (!m.unicode)), rest)
      | _ => .error .escape

end PortSurvey.Pattern
