import PortSurvey.Pattern.Basic

/-!
# Sizes of patterns

A pattern is looked for by machines that read the bytes of a text, one forwards and one backwards.
A machine has a number of states, and the pattern is refused if either of them takes up too much
room. `Pattern.size` counts that room: what is repeated counts as often as it may have to be
matched, and a set of characters as the tree of the byte ranges that encode it.
-/

namespace PortSurvey.Pattern

open Text

/-- The room that a machine may take up. -/
def maxSize : Nat := 10 * 1024 * 1024

/-- The room of a state with one way out or none. -/
def stateSize : Nat := 32

/-- The room of a way out of a state that reads a byte. -/
def wayOutSize : Nat := 8

/-- The room of one choice of a state that chooses without reading. -/
def choiceSize : Nat := 4

/-- A range of bytes. -/
abbrev ByteRange := Nat × Nat

/-- The byte ranges of which each sequence encodes numbers from `lo` to `hi`, the numbers being of
one leading byte, counted from `lead`, and `trailing` bytes of six bits. -/
def byteRanges : Nat → Nat → Nat → Nat → List (List ByteRange)
  | 0, lead, lo, hi => [[(lead + lo, lead + hi)]]
  | trailing + 1, lead, lo, hi =>
    let unit := 64 ^ (trailing + 1)
    let (a, b) := (lo / unit, hi / unit)
    let under (n lo hi : Nat) : List (List ByteRange) :=
      (byteRanges trailing 0x80 lo hi).map ((lead + n, lead + n) :: ·)
    if a == b then under a (lo % unit) (hi % unit)
    else
      let cutsFirst := lo % unit != 0
      let cutsLast := hi % unit != unit - 1
      let first := if cutsFirst then a + 1 else a
      let last := if cutsLast then b - 1 else b
      (if cutsFirst then under a (lo % unit) (unit - 1) else []) ++
        (if first ≤ last then
          (byteRanges trailing 0x80 0 (unit - 1)).map ((lead + first, lead + last) :: ·)
        else []) ++
        (if cutsLast then under b 0 (hi % unit) else [])

/-- How characters are encoded: the number of bytes after the leading one, what the leading one is
counted from, and the first and last code point. -/
def encodings : List (Nat × Nat × Nat × Nat) :=
  [(0, 0, 0, 0x7F), (1, 0xC0, 0x80, 0x7FF), (2, 0xE0, 0x800, 0xD7FF), (2, 0xE0, 0xE000, 0xFFFF),
    (3, 0xF0, 0x10000, maxCode)]

/-- The sequences of byte ranges that encode the characters of ranges in order. -/
def encoded (r : Ranges) : List (List ByteRange) :=
  r.flatMap fun (lo, hi) =>
    encodings.flatMap fun (trailing, lead, least, greatest) =>
      if max lo least ≤ min hi greatest then
        byteRanges trailing lead (max lo least) (min hi greatest)
      else []

/-- Parts a list where `key` changes. -/
def groupsBy {α β : Type} [BEq β] (key : α → β) : List α → List (β × List α)
  | [] => []
  | x :: rest =>
    match groupsBy key rest with
    | (k, xs) :: groups =>
      if k == key x then (k, x :: xs) :: groups else (key x, [x]) :: (k, xs) :: groups
    | [] => [(key x, [x])]

/-- The states of a machine that reads a character forwards: each by its byte ranges and the
numbers of the states after them. -/
abbrev States := List (List (ByteRange × Nat))

/-- The number of a state, which is added if there is none like it. The state after a character has
the number zero. -/
def States.numberOf (states : States) (state : List (ByteRange × Nat)) : Nat × States :=
  match states.idxOf? state with
  | some i => (states.length - i, states)
  | none => (states.length + 1, state :: states)

/-- Adds the states that read the rests of sequences, which are at most `depth` long: equal rests
are read by one state. -/
def States.add (states : States) : Nat → List (List ByteRange) → Nat × States
  | 0, _ => (0, states)
  | depth + 1, sequences =>
    match sequences with
    | [] | [] :: _ => (0, states)
    | _ =>
      let (state, states) := (groupsBy List.head? sequences).foldl
        (fun (done : List (ByteRange × Nat) × States) group =>
          let (number, states) := done.2.add depth (group.2.map List.tail)
          ((group.1.getD (0, 0), number) :: done.1, states)) ([], states)
      states.numberOf state.reverse

/-- The number of states that read sequences backwards, where each begin of a sequence is read by
one state. -/
def beginCount : Nat → List (List ByteRange) → Nat
  | 0, _ => 0
  | depth + 1, sequences =>
    (groupsBy List.head? (sequences.filter (!·.isEmpty))).foldl
      (fun count group => count + 1 + beginCount depth (group.2.map List.tail)) 0

/-- The number of items of some lists together. -/
def totalLength {α : Type} (lists : List (List α)) : Nat :=
  lists.foldl (fun n l => n + l.length) 0

/-- The bytes of the longest character. -/
def maxBytes : Nat := 4

/-- The room that a set takes up. -/
def setSize (backwards : Bool) (r : Ranges) : Nat :=
  let r := normalized r
  let sequences := encoded r
  match r with
  | [] => stateSize
  | _ =>
    if r.all (fun b => b.1 == b.2) && r.length == 1 then
      stateSize * totalLength sequences
    else if isAscii r then 2 * stateSize + wayOutSize * r.length
    else if backwards then
      (2 + beginCount maxBytes sequences) * stateSize + choiceSize * sequences.length
    else
      let states := (States.add [] maxBytes sequences).2
      (1 + states.length) * stateSize + wayOutSize * totalLength states

/-- Whether only the empty text matches. -/
def isVoid : Pattern → Bool
  | .empty => true
  | .set _ => false
  | .look _ => true
  | .group p => isVoid p
  | .concat p q => isVoid p && isVoid q
  | .either p q => isVoid p && isVoid q
  | .repeated p _ max => isVoid p || max == some 0

/-- Whether a match has at least one character. -/
def isLong : Pattern → Bool
  | .empty => false
  | .set r => !r.isEmpty
  | .look _ => false
  | .group p => isLong p
  | .concat p q => isLong p || isLong q
  | .either p q => isLong p && isLong q
  | .repeated p min max => 0 < min && max != some 0 && isLong p

/-- The room that repetitions of a pattern take up, of which one takes up `one`. -/
def repeatedSize (isLong : Bool) (one min : Nat) : Option Nat → Nat
  | none =>
    if min == 0 then
      one + if isLong then stateSize + 2 * choiceSize else 3 * stateSize + 4 * choiceSize
    else min * one + stateSize + 2 * choiceSize
  | some max =>
    if max == min then min * one
    else if min == 0 && max == 1 then one + 2 * (stateSize + choiceSize)
    else
      (if min == 0 then stateSize else min * one) + stateSize +
        (max - min) * (stateSize + 2 * choiceSize + one)

/-- What a pattern adds to the machines. -/
structure Room where
  /-- The room of its alternatives together. -/
  alternatives : Nat
  /-- The number of its alternatives; none if it adds nothing where something else stands. -/
  count : Nat
  /-- If all of its alternatives are single characters, or all of them are larger sets: whether they
  are single, and the set of them all. -/
  set : Option (Bool × Ranges)

/-- The room of a pattern. -/
def Room.total (backwards : Bool) (r : Room) : Nat :=
  match r.set with
  | some (_, set) => if r.count == 1 then r.alternatives else setSize backwards set
  | none =>
    if r.count == 0 then stateSize
    else if r.count == 1 then r.alternatives
    else r.alternatives + 2 * stateSize + choiceSize * r.count

/-- The room of a pattern with one alternative. -/
def Room.single (size : Nat) : Room := ⟨size, 1, none⟩

/-- The room of nothing. -/
def Room.nothing : Room := ⟨0, 0, none⟩

/-- The room of two patterns one of which must match. -/
def Room.either (r s : Room) : Room where
  alternatives := r.alternatives + s.alternatives
  count := r.count + s.count
  set :=
    match r.set, s.set with
    | some (a, x), some (b, y) => if a == b then some (a, x ++ y) else none
    | _, _ => none

/-- What a pattern adds to the machine that reads backwards or forwards. Only the one that reads
forwards takes note of groups. -/
def room (backwards : Bool) : Pattern → Room
  | .empty => .nothing
  | .set r =>
    let r := normalized r
    let isSingle := r.length == 1 && r.all (fun b => b.1 == b.2)
    ⟨setSize backwards r, 1, some (isSingle, r)⟩
  | .look _ => .single stateSize
  | .group p =>
    .single ((room backwards p).total backwards + if backwards then 0 else 2 * stateSize)
  | .concat p q =>
    let (r, s) := (room backwards p, room backwards q)
    if r.count == 0 then s
    else if s.count == 0 then r
    else .single (r.total backwards + s.total backwards)
  | .either p q =>
    let orState (r : Room) : Room := if r.count == 0 then .single stateSize else r
    (orState (room backwards p)).either (orState (room backwards q))
  | .repeated p min max =>
    let r := room backwards p
    let (min, max) :=
      if isVoid p then (Nat.min min 1, some (Nat.min (max.getD 1) 1)) else (min, max)
    if max == some 0 then .nothing
    else if min == 1 && max == some 1 then r
    else .single (repeatedSize (isLong p) (r.total backwards) min max)

/-- The room that a pattern takes up in the machine that reads backwards or forwards. A loop over
all bytes stands before the pattern, and the end of a match after it. -/
def size (backwards : Bool) (p : Pattern) : Nat :=
  let loop := 3 * stateSize + wayOutSize + 2 * choiceSize
  let whole := if backwards then stateSize else 3 * stateSize
  loop + (room backwards p).total backwards + whole

/-- Whether a pattern takes up no more room than it may. -/
def isSmall (p : Pattern) : Bool :=
  p.size true ≤ maxSize && p.size false ≤ maxSize

end PortSurvey.Pattern
