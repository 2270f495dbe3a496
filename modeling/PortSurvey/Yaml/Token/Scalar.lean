import PortSurvey.Text.Numeral
import PortSurvey.Text.Ranges
import PortSurvey.Yaml.Cursor
import PortSurvey.Yaml.Fault

/-!
# The text of scalars

A scalar is plain, quoted or a block. In plain and quoted scalars a line break folds into a space
and further breaks stay; a block keeps its breaks, or folds those between lines that do not begin
with a blank. `Break` is the pending end of a line: its first break and those after it.
-/

namespace PortSurvey.Yaml

open Text

/-- The pending line breaks inside a scalar. -/
structure Breaks where
  /-- What the first break contributes. -/
  leading : List Char
  /-- What the breaks after it contribute. -/
  trailing : List Char

/-- What pending breaks contribute once a line goes on: a single line feed becomes a space, and of
several the first is dropped. -/
def Breaks.folded (b : Breaks) : List Char :=
  if b.leading == ['\n'] then if b.trailing.isEmpty then [' '] else b.trailing
  else b.leading ++ b.trailing

/-- Reads blanks and line breaks. Before the first break the blanks are kept; `indent` is the
column that a tab after a break must have reached, if tabs are to be checked. The result holds the
blanks, the breaks if there was one, and the place after them. -/
def readGap (indent : Option Nat) : Nat → List Char → Option Breaks → Cursor →
    Except Fault (List Char × Option Breaks × Cursor)
  | 0, blanks, breaks, c => .ok (blanks, breaks, c)
  | fuel + 1, blanks, breaks, c =>
    match c.peek with
    | none => .ok (blanks, breaks, c)
    | some x =>
      if isSpaceOrTab x then
        match breaks with
        | none => readGap indent fuel (blanks ++ [x]) none (c.skip 1)
        | some b =>
          match indent with
          | some column =>
            if x == '\t' && c.column < column then .error .indentation
            else readGap indent fuel blanks (some b) (c.skip 1)
          | none => readGap indent fuel blanks (some b) (c.skip 1)
      else if isBreak x then
        let (text, after) := c.readBreak
        match breaks with
        | none => readGap indent fuel [] (some ⟨text, []⟩) after
        | some b => readGap indent fuel blanks (some ⟨b.leading, b.trailing ++ text⟩) after
      else .ok (blanks, breaks, c)

/-! ## Plain scalars -/

/-- Whether a plain scalar ends before the next character, by an indicator. -/
def endsPlain (flow : Bool) (c : Cursor) : Bool :=
  (c.sees ':' && isGap (c.peekAt 1)) || (flow && c.peek.any isFlowIndicator)

/-- Whether a colon stands before a character that no plain scalar of a flow collection may have
after a colon. -/
def isStrayColon (flow : Bool) (c : Cursor) : Bool :=
  flow && c.sees ':' && (c.peekAt 1).any (fun x => isFlowIndicator x || x == '?')

/-- Reads the characters of a plain scalar up to a gap or an indicator. -/
def readPlainRun (flow : Bool) : Nat → List Char → Cursor → Except Fault (List Char × Cursor)
  | 0, taken, c => .ok (taken.reverse, c)
  | fuel + 1, taken, c =>
    if isGap c.peek then .ok (taken.reverse, c)
    else if isStrayColon flow c then .error .indicator
    else if endsPlain flow c then .ok (taken.reverse, c)
    else
      match c.peek with
      | some x => readPlainRun flow fuel (x :: taken) (c.skip 1)
      | none => .ok (taken.reverse, c)

/-- Reads runs of a plain scalar and the gaps between them. `text` is what was read, `blanks` and
`breaks` the gap after it. The result also says whether the scalar ended after a line break. -/
def readPlainRuns (flow : Bool) (indent : Nat) :
    Nat → List Char → List Char → Option Breaks → Cursor →
      Except Fault (List Char × Bool × Cursor)
  | 0, text, _, breaks, c => .ok (text, breaks.isSome, c)
  | fuel + 1, text, blanks, breaks, c =>
    if c.seesDocumentMark || c.sees '#' then .ok (text, breaks.isSome, c)
    else
      match readPlainRun flow (c.rest.length + 1) [] c with
      | .error e => .error e
      | .ok (run, c) =>
        let gap := match breaks with
          | some b => b.folded
          | none => blanks
        let text := if run.isEmpty then text else text ++ gap ++ run
        let blanks := if run.isEmpty then blanks else []
        let breaks := if run.isEmpty then breaks else none
        if c.peek.isNone || !isGap c.peek then .ok (text, breaks.isSome, c)
        else
          match readGap (some indent) (c.rest.length + 1) blanks breaks c with
          | .error e => .error e
          | .ok (blanks, breaks, c) =>
            if !flow && c.column < indent then .ok (text, breaks.isSome, c)
            else readPlainRuns flow indent fuel text blanks breaks c

/-- Reads a plain scalar. `indent` is the least column at which it may go on, outside flow
collections. The result holds its text, whether it ended after a line break, and the place after
it. -/
def readPlain (flow : Bool) (indent : Nat) (c : Cursor) :
    Except Fault (List Char × Bool × Cursor) :=
  readPlainRuns flow indent (c.rest.length + 1) [] [] none c

/-! ## Quoted scalars -/

/-- The character that a one-letter escape stands for. -/
def escape? : Char → Option Char
  | '0' => some '\x00'
  | 'a' => some '\x07'
  | 'b' => some '\x08'
  | 't' => some '\t'
  | '\t' => some '\t'
  | 'n' => some '\n'
  | 'v' => some '\x0b'
  | 'f' => some '\x0c'
  | 'r' => some '\r'
  | 'e' => some '\x1b'
  | ' ' => some ' '
  | '"' => some '"'
  | '/' => some '/'
  | '\\' => some '\\'
  | 'N' => some (Char.ofNat 0x85)
  | '_' => some (Char.ofNat 0xA0)
  | 'L' => some (Char.ofNat 0x2028)
  | 'P' => some (Char.ofNat 0x2029)
  | _ => none

/-- The number of hexadecimal digits after an escape by number. -/
def escapeDigits? : Char → Option Nat
  | 'x' => some 2
  | 'u' => some 4
  | 'U' => some 8
  | _ => none

/-- Whether a number is that of a character. -/
def isScalarValue (n : Nat) : Bool :=
  n < 0xD800 || (0xDFFF < n && n ≤ 0x10FFFF)

/-- Reads an escape by its letter and, for an escape by number, its digits. -/
def readEscape (c : Cursor) : Except Fault (Char × Cursor) :=
  match c.peekAt 1 with
  | none => .error .quotedText
  | some letter =>
    match escape? letter with
    | some x => .ok (x, c.skip 2)
    | none =>
      match escapeDigits? letter with
      | none => .error .quotedText
      | some n =>
        let digits := (c.rest.drop 2).take n
        if digits.length == n && digits.all (fun d => (hexValue? d).isSome) then
          let code := hexNumber digits
          if isScalarValue code then .ok (Char.ofNat code, c.skip (2 + n)) else .error .quotedText
        else .error .quotedText

/-- Reads the characters of a quoted scalar up to a gap, its closing quote or an escaped line
break; the last part of the result says whether it was an escaped line break. -/
def readQuotedRun (quote : Char) : Nat → List Char → Cursor →
    Except Fault (List Char × Cursor × Bool)
  | 0, taken, c => .ok (taken.reverse, c, false)
  | fuel + 1, taken, c =>
    match c.peek with
    | none => .ok (taken.reverse, c, false)
    | some x =>
      if isGap (some x) then .ok (taken.reverse, c, false)
      else if quote == '\'' && x == '\'' && c.peekAt 1 == some '\'' then
        readQuotedRun quote fuel ('\'' :: taken) (c.skip 2)
      else if x == quote then .ok (taken.reverse, c, false)
      else if quote == '"' && x == '\\' && (c.peekAt 1).any isBreak then
        .ok (taken.reverse, (c.skip 1).skipBreak, true)
      else if quote == '"' && x == '\\' then
        match readEscape c with
        | .error e => .error e
        | .ok (y, c) => readQuotedRun quote fuel (y :: taken) c
      else readQuotedRun quote fuel (x :: taken) (c.skip 1)

/-- Reads runs of a quoted scalar and the gaps between them, up to its closing quote. -/
def readQuotedRuns (quote : Char) : Nat → List Char → Cursor → Except Fault (List Char × Cursor)
  | 0, _, _ => .error .quotedText
  | fuel + 1, text, c =>
    if c.seesDocumentMark || c.peek.isNone then .error .quotedText
    else
      match readQuotedRun quote (c.rest.length + 1) [] c with
      | .error e => .error e
      | .ok (run, c, escapedBreak) =>
        let text := text ++ run
        if c.sees quote then .ok (text, c.skip 1)
        else
          let breaks := if escapedBreak then some ⟨[], []⟩ else none
          match readGap none (c.rest.length + 1) [] breaks c with
          | .error e => .error e
          | .ok (blanks, breaks, c) =>
            let gap := match breaks with
              | some b => b.folded
              | none => blanks
            readQuotedRuns quote fuel (text ++ gap) c

/-- Reads a quoted scalar that begins here with its quote. -/
def readQuoted (quote : Char) (c : Cursor) : Except Fault (List Char × Cursor) :=
  readQuotedRuns quote (c.rest.length + 1) [] (c.skip 1)

/-! ## Block scalars -/

/-- What becomes of the line breaks at the end of a block. -/
inductive Chomping
  /-- All are dropped. -/
  | strip
  /-- The first is kept. -/
  | clip
  /-- All are kept. -/
  | keep
  deriving DecidableEq

/-- The marks after the sign that opens a block: what becomes of its end, and its indentation. -/
def readBlockHeader (c : Cursor) : Except Fault (Chomping × Nat × Cursor) :=
  let chomping (c : Cursor) : Option Chomping × Cursor :=
    if c.sees '+' then (some .keep, c.skip 1)
    else if c.sees '-' then (some .strip, c.skip 1)
    else (none, c)
  let increment (c : Cursor) : Except Fault (Nat × Cursor) :=
    match c.peek.bind digitValue? with
    | some 0 => .error .indentation
    | some d => .ok (d, c.skip 1)
    | none => .ok (0, c)
  match chomping c with
  | (some mode, c) => (increment c).map (fun (d, c) => (mode, d, c))
  | (none, c) =>
    match increment c with
    | .error e => .error e
    | .ok (0, c) => .ok (.clip, 0, c)
    | .ok (d, c) =>
      let (mode, c) := chomping c
      .ok (mode.getD .clip, d, c)

/-- Reads the indentation and empty lines before a line of a block. `indent` is the column of the
block, zero while it is unknown; the result has the greatest column reached. -/
def readBlockBreaks (indent : Nat) : Nat → Nat → List Char → Cursor →
    Except Fault (Nat × List Char × Cursor)
  | 0, reached, breaks, c => .ok (reached, breaks, c)
  | fuel + 1, reached, breaks, c =>
    let spaces := c.rest.takeWhile (· == ' ')
    let passed := if indent == 0 then spaces.length else min spaces.length (indent - c.column)
    let c := c.skip passed
    let reached := max reached c.column
    if (indent == 0 || c.column < indent) && c.sees '\t' then .error .indentation
    else if c.peek.any isBreak then
      let (text, c) := c.readBreak
      readBlockBreaks indent fuel reached (breaks ++ text) c
    else .ok (reached, breaks, c)

/-- Reads the lines of a block. `breaks` are the pending breaks, and `afterBlank` says that there
was a line before and that it began with a blank. -/
def readBlockLines (literal : Bool) (indent : Nat) :
    Nat → List Char → Breaks → Bool → Cursor → Except Fault (List Char × Breaks × Cursor)
  | 0, text, breaks, _, c => .ok (text, breaks, c)
  | fuel + 1, text, breaks, afterBlank, c =>
    if c.column == indent && c.peek.isSome then
      let beginsBlank := c.peek.any isSpaceOrTab
      let gap :=
        if !literal && breaks.leading == ['\n'] && !afterBlank && !beginsBlank then breaks.folded
        else breaks.leading ++ breaks.trailing
      let (line, c) := c.takeWhile (fun x => !isBreak x)
      let (leading, c) := c.readBreak
      match readBlockBreaks indent (c.rest.length + 1) 0 [] c with
      | .error e => .error e
      | .ok (_, trailing, c) =>
        readBlockLines literal indent fuel (text ++ gap ++ line) ⟨leading, trailing⟩ beginsBlank c
    else .ok (text, breaks, c)

/-- Reads a block scalar that begins here with its sign. `parent` is the column of the collection
around it, if there is one. -/
def readBlock (literal : Bool) (parent : Option Nat) (c : Cursor) :
    Except Fault (List Char × Cursor) :=
  match readBlockHeader (c.skip 1) with
  | .error e => .error e
  | .ok (chomping, increment, c) =>
    let c := c.skipComment
    if !isBreakOrEnd c.peek then .error .indentation
    else
      let c := c.skipBreak
      let given := if increment == 0 then 0 else parent.getD 0 + increment
      match readBlockBreaks given (c.rest.length + 1) 0 [] c with
      | .error e => .error e
      | .ok (reached, breaks, c) =>
        let least := match parent with
          | some column => column + 1
          | none => 1
        let indent := if given == 0 then max reached least else given
        match readBlockLines literal indent (c.rest.length + 1) [] ⟨[], breaks⟩ false c with
        | .error e => .error e
        | .ok (text, breaks, c) =>
          let tail := match chomping with
            | .strip => []
            | .clip => breaks.leading
            | .keep => breaks.leading ++ breaks.trailing
          .ok (text ++ tail, c)

end PortSurvey.Yaml
