import PortSurvey.Pattern.Brackets
import PortSurvey.Pattern.Size
import PortSurvey.Text.Numeral

/-!
# Reading patterns

`Pattern.ofText?` reads a pattern of a service. Patterns are alternatives of sequences of
characters, sets, looks, groups and repetitions; looks around and references to groups are no part
of them.
-/

namespace PortSurvey.Pattern

open Text

/-- The depth to which parts may be nested. -/
def maxNesting : Nat := 250

/-- A part of a pattern that was read. -/
structure Part where
  /-- What it matches; a setting of modes is a part without a pattern. -/
  pattern : Option Pattern
  /-- How deep groups, repetitions, brackets, sequences and alternatives are nested in it. -/
  height : Nat

/-- The part that matches a text without parts. -/
def Part.leaf (p : Pattern) : Part := ⟨some p, 0⟩

/-- The depth of what is made of parts: a single part is what it makes. -/
def joinedHeight (parts : List Part) : Nat :=
  match parts with
  | [p] => p.height
  | _ => parts.foldl (fun h p => max h (p.height + 1)) 0

/-- What is made of a sequence of parts, the last one first. -/
def Part.sequence (parts : List Part) : Part where
  pattern := some <| match parts.filterMap (·.pattern) with
    | [] => .empty
    | last :: before => before.foldl (fun p q => seq q p) last
  height := joinedHeight parts

/-- What is made of alternatives, the last one first. -/
def Part.alternatives (parts : List Part) : Part where
  pattern := some <| match parts.filterMap (·.pattern) with
    | [] => .empty
    | last :: before => before.foldl (fun p q => .either q p) last
  height := joinedHeight parts

/-- A part in a group. -/
def Part.grouped (p : Part) (isNoted : Bool) : Part :=
  ⟨p.pattern.map fun p => if isNoted then .group p else p, p.height + 1⟩

/-- Repeats the last part of a sequence. -/
def repeatLast (parts : List Part) (min : Nat) (max : Option Nat) : Except Fault (List Part) :=
  match parts with
  | ⟨some p, height⟩ :: rest => .ok (⟨some (.repeated p min max), height + 1⟩ :: rest)
  | _ => .error .repetition

/-- Passes the mark that makes a repetition short, which matters only for what is taken note of. -/
def skipLazy (s : List Char) : List Char :=
  match s with
  | '?' :: rest => rest
  | _ => s

/-- Passes the mark that makes a counted repetition short. -/
def skipLazyCounted (m : Modes) (s : List Char) : List Char :=
  skipLazy (m.skip s)

/-- Reads a count of repetitions, with blanks around it. -/
def readCount (m : Modes) (s : List Char) : Except Fault (Nat × List Char) :=
  let (digits, rest) := m.takeSpaced Char.isDigit s.length (trimStartChars s)
  match Numeral.readDigits 0xFFFFFFFF 0 digits with
  | .ok n => if digits.isEmpty then .error .repetition else .ok (n, trimStartChars rest)
  | .error _ => .error .repetition

/-- Reads the counts of a repetition after its brace. -/
def readCounts (m : Modes) (s : List Char) : Except Fault (Nat × Option Nat × List Char) := do
  let (min, s) ← readCount m (m.skip s)
  match s with
  | '\x7d' :: rest => return (min, some min, rest)
  | ',' :: rest =>
    match m.skip rest with
    | '\x7d' :: rest => return (min, none, rest)
    | rest =>
      let (max, s) ← readCount m rest
      match s with
      | '\x7d' :: rest => if max < min then throw .repetition else return (min, some max, rest)
      | _ => throw .repetition
  | _ => throw .repetition

/-- Sets a switch by its letter. -/
def Modes.switch (m : Modes) (on : Bool) : Char → Option Modes
  | 'i' => some { m with caseless := on }
  | 'm' => some { m with lines := on }
  | 's' => some { m with dotAll := on }
  | 'U' => some m
  | 'u' => some { m with unicode := on }
  | 'R' => some { m with crlf := on }
  | 'x' => some { m with spaced := on }
  | _ => none

/-- Reads switches up to a colon or the end of the group; `seen` are the letters before. -/
def readModes (m : Modes) (on : Bool) (seen : List Char) :
    List Char → Except Fault (Modes × List Char × List Char)
  | [] => .error .mode
  | c :: rest =>
    if c == ':' || c == ')' then
      if seen.head? == some '-' then .error .mode else .ok (m, seen, c :: rest)
    else if c ∈ seen then .error .mode
    else if c == '-' then readModes m false (c :: seen) rest
    else
      match m.switch on c with
      | some m => readModes m on (c :: seen) rest
      | none => .error .mode

/-- The alphabetic characters. -/
def alphabetic : Ranges := Ranges.ofTable alphabeticTable

/-- The characters that are numbers. -/
def numeric : Ranges := rangesWhere (inCategory "N") (tableRows categoryTable)

/-- Whether a character may stand in the name of a group. -/
def isGroupNameChar (first : Bool) (c : Char) : Bool :=
  c == '_' || alphabetic.has c ||
    (!first && (c == '.' || c == '[' || c == ']' || numeric.has c))

/-- Reads the name of a group after its bracket. -/
def readGroupName (names : List String) (s : List Char) :
    Except Fault (String × List Char) :=
  match splitOnce '>' s with
  | none => .error .groupName
  | some (name, rest) =>
    match name with
    | [] => .error .groupName
    | c :: more =>
      let text := String.ofList name
      if isGroupNameChar true c && more.all (isGroupNameChar false) && text ∉ names then
        .ok (text, rest)
      else .error .groupName

/-- What an opening parenthesis begins. -/
inductive Opened
  /-- A group that is taken note of. -/
  | noted
  /-- A group with a name, which is taken note of. -/
  | named (name : String)
  /-- A group with modes of its own. -/
  | group (m : Modes)
  /-- A setting of modes for the rest of the group around it. -/
  | setting (m : Modes)

/-- Reads what stands after an opening parenthesis and before what is grouped. -/
def readOpened (m : Modes) (names : List String) (s : List Char) :
    Except Fault (Opened × List Char) :=
  match s with
  | '?' :: 'P' :: '<' :: rest =>
    (readGroupName names rest).map fun (name, rest) => (.named name, rest)
  | '?' :: '<' :: rest =>
    (readGroupName names rest).map fun (name, rest) => (.named name, rest)
  | '?' :: rest =>
    match readModes m true [] rest with
    | .error e => .error e
    | .ok (m', _, ':' :: rest) => .ok (.group m', rest)
    | .ok (m', seen, rest) =>
      if seen.isEmpty then .error .repetition else .ok (.setting m', rest.drop 1)
  | _ => .ok (.noted, s)

/-- The pattern of a dot. -/
def Modes.dot (m : Modes) : Except Fault Pattern :=
  let excluded : Ranges :=
    if m.dotAll then [] else if m.crlf then [(0x0A, 0x0A), (0x0D, 0x0D)] else [(0x0A, 0x0A)]
  m.setPattern (complement excluded)

/-- The pattern of an escape. -/
def Modes.escaped (m : Modes) : Escaped → Except Fault Pattern
  | .char c => .ok (m.charPattern c)
  | .set r => m.setPattern r
  | .look l => .ok (.look l)

/-- Reads alternatives up to the end of their group, which is left to be read, or of the text.
`names` are the names of groups so far, `done` the alternatives before this one and `items` the
parts of it, the last one first. -/
def readGroup : Nat → Modes → List String → List Part → List Part → List Char →
    Except Fault (Part × List String × List Char)
  | 0, _, _, _, _, _ => .error .group
  | fuel + 1, m, names, done, items, s => do
    let next (p : Pattern) (rest : List Char) :=
      readGroup fuel m names done (Part.leaf p :: items) rest
    match m.skip s with
    | [] => return (Part.alternatives (Part.sequence items :: done), names, [])
    | ')' :: rest => return (Part.alternatives (Part.sequence items :: done), names, ')' :: rest)
    | '|' :: rest => readGroup fuel m names (Part.sequence items :: done) [] rest
    | '(' :: rest =>
      let (opened, rest) ← readOpened m names (m.skip rest)
      match opened with
      | .setting m' => readGroup fuel m' names done (⟨none, 0⟩ :: items) rest
      | _ =>
        let (inner, names, isNoted) := match opened with
          | .group m' => (m', names, false)
          | .named name => (m, name :: names, true)
          | _ => (m, names, true)
        let (p, names, rest) ← readGroup fuel inner names [] [] rest
        match rest with
        | ')' :: rest => readGroup fuel m names done (p.grouped isNoted :: items) rest
        | _ => throw .group
    | '[' :: rest =>
      let (b, rest) ← readBrackets m (rest.length + 1) rest
      readGroup fuel m names done (⟨some (← m.setPattern b.chars), b.height⟩ :: items) rest
    | '*' :: rest => readGroup fuel m names done (← repeatLast items 0 none) (skipLazy rest)
    | '+' :: rest => readGroup fuel m names done (← repeatLast items 1 none) (skipLazy rest)
    | '?' :: rest => readGroup fuel m names done (← repeatLast items 0 (some 1)) (skipLazy rest)
    | '\x7b' :: rest =>
      let (min, max, rest) ← readCounts m rest
      readGroup fuel m names done (← repeatLast items min max) (skipLazyCounted m rest)
    | '.' :: rest => next (← m.dot) rest
    | '^' :: rest => next (.look (if m.lines then .lineStart m.crlf else .textStart)) rest
    | '$' :: rest => next (.look (if m.lines then .lineEnd m.crlf else .textEnd)) rest
    | '\\' :: rest =>
      let (e, rest) ← readEscaped m rest
      next (← m.escaped e) rest
    | c :: rest => next (m.charPattern c) rest

/-- Reads a pattern of a service, in which case means nothing at first. -/
def ofText? (text : String) : Except Fault Pattern := do
  let s := text.toList
  let (part, _, rest) ← readGroup (2 * s.length + 2) Modes.start [] [] [] s
  if !rest.isEmpty then throw .group
  if maxNesting < part.height then throw .depth
  let p := part.pattern.getD .empty
  if !p.isSmall then throw .size
  return p

end PortSurvey.Pattern
