import PortSurvey.Toml.Number
import PortSurvey.Toml.Text

/-!
# Configuration documents

A document is a list of lines: pairs of a key and a value, headers of tables and headers of rows.
`readLines` reads them, and `Value.ofLines` builds the table of the document from them, in which the
pairs after a header go into its table.
-/

namespace PortSurvey.Toml

/-- What a line of a document says. -/
inductive Line
  /-- A key has a value; dots lead along a path. -/
  | pair (path : List String) (key : String) (value : Value)
  /-- A table begins. -/
  | header (path : List String) (key : String)
  /-- A further table of rows begins. -/
  | row (path : List String) (key : String)

/-- The characters after the gap between the items of an array, in which comments may stand.
`comment` says whether a comment has begun. -/
def skipRemarks (comment : Bool) : List Char → Option (List Char)
  | [] => if comment then none else some []
  | '\r' :: '\n' :: rest => skipRemarks false rest
  | c :: rest =>
    if c == '\n' then skipRemarks false rest
    else if comment then (if isInside c then skipRemarks true rest else none)
    else if c == '#' then skipRemarks true rest
    else if isSpace c then skipRemarks false rest
    else some (c :: rest)

/-- Reads the items of an array, after its bracket; a comma may stand after the last. -/
def readItems (readValue : List Char → Option (Value × List Char)) :
    Nat → List Char → Option (List Value × List Char)
  | 0, _ => none
  | fuel + 1, s => do
    match ← skipRemarks false s with
    | ']' :: rest => some ([], rest)
    | s =>
      let (value, s) ← readValue s
      match ← skipRemarks false s with
      | ']' :: rest => some ([value], rest)
      | ',' :: rest =>
        let (values, rest) ← readItems readValue fuel rest
        some (value :: values, rest)
      | _ => none

/-- Reads a key, the sign after it and the value. -/
def readPair (readValue : List Char → Option (Value × List Char)) (s : List Char) :
    Option (((List String × String) × Value) × List Char) := do
  let (path, s) ← readPath s
  match s with
  | '=' :: s =>
    let (value, s) ← readValue (skipSpaces s)
    some ((path, value), s)
  | _ => none

/-- Reads the pairs of a table on one line, from its first pair to its brace. -/
def readPairs (readValue : List Char → Option (Value × List Char)) :
    Nat → List Char → Option (List ((List String × String) × Value) × List Char)
  | 0, _ => none
  | fuel + 1, s => do
    let (pair, s) ← readPair readValue s
    match skipSpaces s with
    | '}' :: rest => some ([pair], rest)
    | ',' :: rest =>
      let (pairs, rest) ← readPairs readValue fuel rest
      some (pair :: pairs, rest)
    | _ => none

/-- The table on one line that pairs make. -/
def inlineTable (pairs : List ((List String × String) × Value)) : Option Value :=
  Value.withPairs pairs (.table .inline [])

/-- Reads a value in which arrays and tables may be nested `depth` deep. -/
def readValueAt : Nat → List Char → Option (Value × List Char)
  | depth, '[' :: rest =>
    match depth with
    | 0 => none
    | depth + 1 =>
      (readItems (readValueAt depth) (rest.length + 1) rest).map fun (items, after) =>
        (.array items, after)
  | depth, '\x7b' :: rest =>
    match depth with
    | 0 => none
    | depth + 1 =>
      match skipSpaces rest with
      | '}' :: rest => some (.table .inline [], rest)
      | _ => do
        let (pairs, after) ← readPairs (readValueAt depth) (rest.length + 1) rest
        some (← inlineTable pairs, after)
  | _, s =>
    match s.head? with
    | some '"' | some '\'' => (readText s).map fun (text, after) => (.string text, after)
    | _ =>
      let run := numericRun s
      (readRun? run).map fun value => (value, s.drop run.length)

/-- How deep arrays and tables may be nested. -/
def maxDepth : Nat := 79

/-- Reads a value. -/
def readValue (s : List Char) : Option (Value × List Char) :=
  readValueAt maxDepth s

/-- Reads a line, and gives the characters after its end. -/
def readLine (s : List Char) : Option (Line × List Char) := do
  match s with
  | '[' :: '[' :: rest =>
    let (path, rest) ← readPath rest
    match rest with
    | ']' :: ']' :: rest => some (.row path.1 path.2, ← lineEnd? rest)
    | _ => none
  | '[' :: rest =>
    let (path, rest) ← readPath rest
    match rest with
    | ']' :: rest => some (.header path.1 path.2, ← lineEnd? rest)
    | _ => none
  | _ =>
    let ((path, value), rest) ← readPair readValue s
    some (.pair path.1 path.2 value, ← lineEnd? rest)

/-- Reads the lines of a document. -/
def readLines : Nat → List Char → Option (List Line)
  | 0, _ => none
  | fuel + 1, s =>
    match skipSpaces s with
    | [] => some []
    | s =>
      match s.head?, newline? s with
      | some '#', _ => (lineEnd? s).bind (readLines fuel)
      | _, some rest => readLines fuel rest
      | _, none => do
        let (line, rest) ← readLine s
        return line :: (← readLines fuel rest)

/-- A document as far as its lines were added: its table, and the table that pairs go into. -/
structure Progress where
  /-- The table of the document. -/
  root : Value
  /-- The path of the last header. -/
  path : List String

/-- Adds a line to a document. -/
def Progress.add (p : Progress) : Line → Option Progress
  | .pair path key value =>
    (Value.alter false (Value.withPair path key value) p.path p.root).map fun root =>
      { p with root := root }
  | .header path key => (p.root.withHeader path key).map (⟨·, path ++ [key]⟩)
  | .row path key => (p.root.withRow path key).map (⟨·, path ++ [key]⟩)

/-- The table that lines make. -/
def Value.ofLines (lines : List Line) : Option Value :=
  (lines.foldlM Progress.add ⟨.table .header [], []⟩).map (·.root)

/-- The characters of a text after the mark of its encoding. -/
def afterMark (s : List Char) : List Char :=
  match s with
  | '\uFEFF' :: rest => rest
  | _ => s

/-- The table of a document. -/
def Value.ofText? (text : String) : Option Value :=
  let s := afterMark text.toList
  (readLines (s.length + 1) s).bind Value.ofLines

end PortSurvey.Toml
