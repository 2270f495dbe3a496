import PortSurvey.Text.Ranges
import PortSurvey.Yaml.Cursor
import PortSurvey.Yaml.Fault
import PortSurvey.Yaml.Token

/-!
# Directives, anchors and tags

The tokens that begin with a percent sign, an ampersand, an asterisk or an exclamation mark. The
characters of a tag may be written as percent escapes of their UTF-8 bytes.
-/

namespace PortSurvey.Yaml

open Text

/-- Whether a character may stand in a tag; brackets and commas only in one between `<` and `>`. -/
def isTagChar (verbatim : Bool) (c : Char) : Bool :=
  isNameChar c ||
    c ∈ [';', '/', '?', ':', '@', '&', '=', '+', '$', '.', '%', '!', '~', '*', '\'', '(', ')'] ||
    (verbatim && c ∈ [',', '[', ']'])

/-- The byte that a percent escape at the front of `s` stands for. -/
def percentByte? : List Char → Option Nat
  | '%' :: a :: b :: _ =>
    match hexValue? a, hexValue? b with
    | some x, some y => some (x * 16 + y)
    | _, _ => none
  | _ => none

/-- The number of bytes of the character whose encoding begins with `byte`, and the part of its
code point that `byte` holds. -/
def leadingByte? (byte : Nat) : Option (Nat × Nat) :=
  if byte < 0x80 then some (1, byte)
  else if 0xC0 ≤ byte ∧ byte < 0xE0 then some (2, byte % 0x20)
  else if 0xE0 ≤ byte ∧ byte < 0xF0 then some (3, byte % 0x10)
  else if 0xF0 ≤ byte ∧ byte < 0xF8 then some (4, byte % 0x08)
  else none

/-- Reads `n` percent escapes that carry on an encoded character. -/
def readTrailingBytes : Nat → Nat → Cursor → Except Fault (Nat × Cursor)
  | 0, code, c => .ok (code, c)
  | n + 1, code, c =>
    match percentByte? c.rest with
    | some byte =>
      if 0x80 ≤ byte && byte < 0xC0 then readTrailingBytes n (code * 0x40 + byte % 0x40) (c.skip 3)
      else .error .tag
    | none => .error .tag

/-- Reads the percent escapes of one character. -/
def readPercentChar (c : Cursor) : Except Fault (Char × Cursor) :=
  match (percentByte? c.rest).bind leadingByte? with
  | some (bytes, code) =>
    (readTrailingBytes (bytes - 1) code (c.skip 3)).map (fun (code, c) => (Char.ofNat code, c))
  | none => .error .tag

/-- Reads the characters of a tag. -/
def readTagChars (verbatim : Bool) : Nat → List Char → Cursor → Except Fault (List Char × Cursor)
  | 0, taken, c => .ok (taken.reverse, c)
  | fuel + 1, taken, c =>
    match c.peek with
    | some '%' =>
      match readPercentChar c with
      | .error e => .error e
      | .ok (x, c) => readTagChars verbatim fuel (x :: taken) c
    | some x =>
      if isTagChar verbatim x then readTagChars verbatim fuel (x :: taken) (c.skip 1)
      else .ok (taken.reverse, c)
    | none => .ok (taken.reverse, c)

/-- Reads a part of a tag that has at least one character. -/
def readTagPart (verbatim : Bool) (c : Cursor) : Except Fault (List Char × Cursor) :=
  match readTagChars verbatim (c.rest.length + 1) [] c with
  | .error e => .error e
  | .ok ([], _) => .error .tag
  | .ok (part, c) => .ok (part, c)

/-- Reads a handle: an exclamation mark, a name, and a second mark if there is one. -/
def readHandle (c : Cursor) : Except Fault (List Char × Cursor) :=
  if c.sees '!' then
    let (name, c) := (c.skip 1).takeWhile isNameChar
    if c.sees '!' then .ok ('!' :: name ++ ['!'], c.skip 1) else .ok ('!' :: name, c)
  else .error .tag

/-- Whether a text is a handle with a mark at both ends. -/
def isClosedHandle (handle : List Char) : Bool :=
  2 ≤ handle.length && handle.getLast? == some '!'

/-- Reads a tag and what must follow it. -/
def readTag (flow : Bool) (c : Cursor) : Except Fault (Token × Cursor) := do
  let (token, c) ←
    if c.peekAt 1 == some '<' then do
      let (suffix, c) ← readTagPart true (c.skip 2)
      if c.sees '>' then .ok (Token.tag "" (String.ofList suffix), c.skip 1) else .error .tag
    else do
      let (handle, c) ← readHandle c
      if isClosedHandle handle then do
        let (suffix, c) ← readTagPart false c
        .ok (Token.tag (String.ofList handle) (String.ofList suffix), c)
      else do
        let (more, c) ← readTagChars false (c.rest.length + 1) [] c
        match handle.drop 1 ++ more with
        | [] => .ok (Token.tag "" "!", c)
        | suffix => .ok (Token.tag "!" (String.ofList suffix), c)
  if (flow && c.sees ',') || isGap c.peek then .ok (token, c) else .error .tag

/-- Reads an anchor or an alias and what must follow it. -/
def readAnchorName (c : Cursor) : Except Fault (String × Cursor) :=
  let (name, c) := (c.skip 1).takeWhile isNameChar
  let ends := isGap c.peek || c.peek.any (· ∈ ['?', ':', ',', ']', '\x7d', '%', '@', '\x60'])
  if name.isEmpty || !ends then .error .anchorName else .ok (String.ofList name, c)

/-- Reads a number of a version, of nine digits at most. -/
def readVersionNumber (c : Cursor) : Except Fault (Nat × Cursor) :=
  let (digits, c) := c.takeWhile (fun x => '0' ≤ x && x ≤ '9')
  if digits.isEmpty || 9 < digits.length then .error .directive
  else .ok (digits.foldl (fun n d => n * 10 + (d.toNat - '0'.toNat)) 0, c)

/-- Reads a directive that begins here, up to the end of its line. -/
def readDirective (c : Cursor) : Except Fault (Token × Cursor) := do
  let (name, c) := (c.skip 1).takeWhile isNameChar
  if name.isEmpty || !isGap c.peek then throw .directive
  let (token, c) ←
    if name == "YAML".toList then do
      let (major, c) ← readVersionNumber (c.skipWhile isSpaceOrTab)
      if !c.sees '.' then throw .directive
      let (minor, c) ← readVersionNumber (c.skip 1)
      .ok (Token.version major minor, c)
    else if name == "TAG".toList then do
      let (handle, c) ← readHandle (c.skipWhile isSpaceOrTab)
      if handle != ['!'] && !isClosedHandle handle then throw .tag
      if !c.peek.any isSpaceOrTab then throw .tag
      let (stem, c) ← readTagPart true (c.skipWhile isSpaceOrTab)
      if !isGap c.peek then throw .tag
      .ok (Token.handle (String.ofList handle) (String.ofList stem), c)
    else throw .directive
  let c := c.skipComment
  if isBreakOrEnd c.peek then .ok (token, c.skipBreak) else .error .directive

end PortSurvey.Yaml
