import PortSurvey.Yaml.Character

/-!
# A place in a text

A `Cursor` holds what is still to be read, and how many characters, lines and columns were passed.
A line feed, a carriage return, both together, and three rarer characters each end one line.
-/

namespace PortSurvey.Yaml

/-- A place in a text. -/
structure Cursor where
  /-- The characters still to be read. -/
  rest : List Char
  /-- The number of characters passed. -/
  index : Nat
  /-- The number of lines passed. -/
  line : Nat
  /-- The number of characters passed on this line. -/
  column : Nat

namespace Cursor

/-- The beginning of a text. -/
def start (text : List Char) : Cursor :=
  ⟨text, 0, 0, 0⟩

/-- The next character, if there is one. -/
def peek (c : Cursor) : Option Char :=
  c.rest.head?

/-- The character `n` places after the next one, if there is one. -/
def peekAt (c : Cursor) (n : Nat) : Option Char :=
  c.rest[n]?

/-- Whether the next character is `x`. -/
def sees (c : Cursor) (x : Char) : Bool :=
  c.peek == some x

/-- Passes `n` characters of a line. -/
def skip (c : Cursor) (n : Nat) : Cursor :=
  ⟨c.rest.drop n, c.index + n, c.line, c.column + n⟩

/-- The characters with property `p` that come next, and the place after them. -/
def takeWhile (p : Char → Bool) (c : Cursor) : List Char × Cursor :=
  let taken := c.rest.takeWhile p
  (taken, c.skip taken.length)

/-- The place after the characters with property `p` that come next. -/
def skipWhile (p : Char → Bool) (c : Cursor) : Cursor :=
  (c.takeWhile p).2

/-- Reads the end of a line: what it contributes to a scalar, and the place after it. Where no line
ends nothing is read. -/
def readBreak (c : Cursor) : List Char × Cursor :=
  match c.rest with
  | '\r' :: '\n' :: rest => (['\n'], ⟨rest, c.index + 2, c.line + 1, 0⟩)
  | x :: rest =>
    if x.toNat == 0x2028 || x.toNat == 0x2029 then ([x], ⟨rest, c.index + 1, c.line + 1, 0⟩)
    else if isBreak x then (['\n'], ⟨rest, c.index + 1, c.line + 1, 0⟩)
    else ([], c)
  | [] => ([], c)

/-- Passes the end of a line, if one is here. -/
def skipBreak (c : Cursor) : Cursor :=
  c.readBreak.2

/-- Passes spaces, tabs and a comment, up to the end of the line if a comment stands there. -/
def skipComment (c : Cursor) : Cursor :=
  let c := c.skipWhile isSpaceOrTab
  if c.sees '#' then c.skipWhile (fun x => !isBreak x) else c

/-- Whether a line of three equal marks, `---` or `...`, begins here. -/
def seesDocumentMark (c : Cursor) : Bool :=
  c.column == 0 && (c.rest.take 3 == ['-', '-', '-'] || c.rest.take 3 == ['.', '.', '.']) &&
    isGap (c.peekAt 3)

end Cursor

end PortSurvey.Yaml
