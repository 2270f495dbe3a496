import PortSurvey.Pattern.Escape

/-!
# Sets in brackets

A set in brackets lists characters, ranges, escapes, named ASCII sets and further sets. Two hyphens,
two ampersands and two tildes take the set after them away, cut with it, or keep what only one of
both has; they bind from left to right.
-/

namespace PortSurvey.Pattern

open Text

/-- An operation on two sets. -/
inductive SetOp
  /-- What both have. -/
  | both
  /-- What the first has and the second has not. -/
  | without
  /-- What only one has. -/
  | onlyOne

/-- A set in brackets, and how deep lists, operations and brackets are nested in it. -/
structure Bracketed where
  /-- The set. -/
  chars : Ranges
  /-- The depth; a single member has none. -/
  height : Nat

/-- The sets of a list in brackets so far: what stands before the last operation, and what after. -/
structure Listed where
  /-- The set before the last operation, and the operation. -/
  before : Option (Bracketed × SetOp)
  /-- The set after it. -/
  current : Ranges
  /-- The number of members after it. -/
  count : Nat
  /-- The greatest depth of those members. -/
  deepest : Nat

/-- The list that begins with single characters. -/
def Listed.start (chars : List Char) : Listed :=
  ⟨none, chars.map (fun c => (c.toNat, c.toNat)), chars.length, 0⟩

/-- Applies the last operation. -/
def Listed.result (m : Modes) (l : Listed) : Bracketed :=
  let height := if 1 < l.count then l.deepest + 1 else l.deepest
  match l.before with
  | none => ⟨l.current, height⟩
  | some (left, op) =>
    let first := m.fold left.chars
    let second := m.fold l.current
    let chars := match op with
      | .both => intersection first second
      | .without => difference first second
      | .onlyOne => symmetricDifference first second
    ⟨chars, max left.height height + 1⟩

/-- Adds a set to those after the last operation. -/
def Listed.add (l : Listed) (b : Bracketed) : Listed :=
  { l with
    current := l.current ++ b.chars
    count := l.count + 1
    deepest := max l.deepest b.height }

/-- Begins the set after an operation. -/
def Listed.operate (m : Modes) (l : Listed) (op : SetOp) : Listed :=
  ⟨some (l.result m, op), [], 0, 0⟩

/-- Reads a named ASCII set, which begins after its bracket. -/
def asciiSet? (m : Modes) : List Char → Option (Ranges × List Char)
  | ':' :: s =>
    let (negated, s) := match s with
      | '^' :: rest => (true, rest)
      | _ => (false, s)
    match splitOnce ':' s with
    | some (name, ']' :: rest) =>
      (asciiClass? (String.ofList name)).map fun r =>
        (if negated then complement (m.fold r) else r, rest)
    | _ => none
  | _ => none

/-- Reads a character or an escape that stands in brackets. -/
def readMember (m : Modes) : List Char → Except Fault (Escaped × List Char)
  | '\\' :: rest => readEscaped m rest
  | c :: rest => .ok (.char c, rest)
  | [] => .error .brackets

/-- Reads a member of a list in brackets, or a range between two characters. -/
def readMembers (m : Modes) (s : List Char) : Except Fault (Ranges × List Char) := do
  let (first, s) ← readMember m s
  let s := m.skip s
  let single : Except Fault (Ranges × List Char) :=
    match first with
    | .char c =>
      if m.unicode || c.toNat < 0x80 then .ok ([(c.toNat, c.toNat)], s) else .error .bytes
    | .set r => .ok (r, s)
    | .look _ => .error .brackets
  match s with
  | [] => throw .brackets
  | '-' :: rest =>
    let rest := m.skip rest
    match rest with
    | [] => throw .brackets
    | ']' :: _ => single
    | '-' :: _ => single
    | _ =>
      let (last, s) ← readMember m rest
      match first, last with
      | .char a, .char b =>
        if b.toNat < a.toNat || (!m.unicode && 0x7F < b.toNat) then throw .brackets
        else return ([(a.toNat, b.toNat)], s)
      | _, _ => throw .brackets
  | _ => single

mutual

/-- Reads a list in brackets up to its end; the first bracket was read. -/
def readListed (m : Modes) : Nat → Listed → List Char → Except Fault (Bracketed × List Char)
  | 0, _, _ => .error .brackets
  | fuel + 1, l, s =>
    match m.skip s with
    | [] => .error .brackets
    | ']' :: rest => .ok (l.result m, rest)
    | '&' :: '&' :: rest => readListed m fuel (l.operate m .both) rest
    | '-' :: '-' :: rest => readListed m fuel (l.operate m .without) rest
    | '~' :: '~' :: rest => readListed m fuel (l.operate m .onlyOne) rest
    | '[' :: rest =>
      match asciiSet? m rest with
      | some (r, rest) => readListed m fuel (l.add ⟨r, 0⟩) rest
      | none =>
        match readBrackets m fuel rest with
        | .ok (b, rest) => readListed m fuel (l.add b) rest
        | .error e => .error e
    | s =>
      match readMembers m s with
      | .ok (r, rest) => readListed m fuel (l.add ⟨r, 0⟩) rest
      | .error e => .error e

/-- Reads a set in brackets after its first bracket. Hyphens at its front stand for themselves, and
so does a closing bracket. -/
def readBrackets (m : Modes) : Nat → List Char → Except Fault (Bracketed × List Char)
  | 0, _ => .error .brackets
  | fuel + 1, s =>
    let s := m.skip s
    let (negated, s) := match s with
      | '^' :: rest => (true, m.skip rest)
      | _ => (false, s)
    let (hyphens, s) := m.takeSpaced (· == '-') s.length s
    let (first, s) := match hyphens, s with
      | [], ']' :: rest => ([']'], rest)
      | _, _ => (hyphens, s)
    match readListed m fuel (.start first) s with
    | .error e => .error e
    | .ok (b, rest) =>
      let r := m.fold b.chars
      .ok (⟨if negated then complement r else r, b.height + 1⟩, rest)

end

end PortSurvey.Pattern
