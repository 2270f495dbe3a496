import PortSurvey.Pattern.Basic

/-!
# Globs

A glob describes paths. `?` stands for a byte and `*` for any number of them, neither for a slash;
`**` between slashes stands for any number of directories, brackets for one of a set of bytes, and
braces for one of several globs. `Glob.ofText?` reads a glob and `Glob.covers` says whether it
describes a whole path.
-/

namespace PortSurvey.Disk

open Text

/-- A part of a glob. -/
inductive Glob.Part
  /-- A character. -/
  | literal (c : Char)
  /-- A byte that is no slash. -/
  | any
  /-- Bytes that are no slashes. -/
  | run
  /-- Nothing, or what ends with a slash, at the front of a glob. -/
  | anywhere
  /-- A slash and what follows it, at the end of a glob. -/
  | within
  /-- A slash, or what begins and ends with one. -/
  | between
  /-- A byte of a set, or of none of its ranges if `outside`. -/
  | oneOf (outside : Bool) (ranges : List (Char × Char))
  /-- What one of several globs describes. -/
  | choice (globs : List (List Part))

/-- A description of paths. -/
abbrev Glob := List Glob.Part

namespace Glob

/-! ## Reading -/

/-- What was read of the innermost braces, or of the whole glob. -/
structure Open where
  /-- The globs before the last comma, the last first. -/
  finished : List Glob
  /-- The parts of the glob that is read, the last first. -/
  parts : Glob

/-- What was read of a glob. -/
structure Reader where
  /-- The innermost braces, or the whole glob. -/
  inner : Open
  /-- What is around them, the innermost first. -/
  outer : List Open

namespace Reader

/-- Adds parts to the glob that is read. -/
def add (r : Reader) (parts : List Part) : Reader :=
  { r with inner := { r.inner with parts := parts.reverse ++ r.inner.parts } }

/-- Puts a part in place of the slash before two stars. Any number of directories may be left out at
the front already. -/
def replaceSlash (r : Reader) (part : Part) : Reader :=
  match r.inner.parts with
  | .anywhere :: _ => r
  | .within :: _ => r
  | _ :: rest => { r with inner := { r.inner with parts := part :: rest } }
  | [] => r

/-- Begins braces. -/
def enter (r : Reader) : Reader :=
  ⟨⟨[], []⟩, r.inner :: r.outer⟩

/-- Begins the next glob inside braces. -/
def next (r : Reader) : Reader :=
  { r with inner := ⟨r.inner.parts.reverse :: r.inner.finished, []⟩ }

/-- Ends braces. -/
def leave? (r : Reader) : Option Reader :=
  match r.outer with
  | [] => none
  | o :: outer =>
    let globs := (r.inner.parts.reverse :: r.inner.finished).reverse
    some ⟨{ o with parts := .choice globs :: o.parts }, outer⟩

/-- The glob that was read, unless braces are still open. -/
def finish? (r : Reader) : Option Glob :=
  if r.outer.isEmpty then some r.inner.parts.reverse else none

/-- Adds two stars, which `before` stands before, and gives how many characters after them belong to
them. -/
def addStars (r : Reader) (before : Option Char) (rest : List Char) : Reader × Nat :=
  let inside := !r.outer.isEmpty
  let plain := (r.add [.run, .run], 0)
  if r.inner.parts.isEmpty then
    match rest.head? with
    | none => (r.add [.anywhere], 0)
    | some '/' => (r.add [.anywhere], 1)
    | some _ => plain
  else if before != some '/' && !(inside && (before == some ',' || before == some '\x7b')) then
    plain
  else
    match rest.head? with
    | none => (r.replaceSlash .within, 0)
    | some '/' => (r.replaceSlash .between, 1)
    | some c => if inside && (c == ',' || c == '\x7d') then (r.replaceSlash .within, 0) else plain

end Reader

/-- Reads the ranges of a set after its bracket, and gives the characters after it. `first` says
that nothing was read yet, and `inRange` that a dash was read last. No set is read if it is not
closed, and no answer is given if a range ends before it begins. -/
def readRanges (first inRange : Bool) (ranges : List (Char × Char)) :
    List Char → Option (Option (List (Char × Char) × List Char))
  | [] => some none
  | c :: rest =>
    if c == ']' && !first then
      some (some (ranges.reverse ++ if inRange then [('-', '-')] else [], rest))
    else if c == '-' && !first && !inRange then readRanges false true ranges rest
    else
      match inRange, ranges with
      | true, (lo, _) :: others =>
        if lo ≤ c then readRanges false false ((lo, c) :: others) rest else none
      | _, _ => readRanges false false ((c, c) :: ranges) rest

/-- Reads a set after its bracket. -/
def readSet (s : List Char) : Option (Option (Part × List Char)) :=
  let (outside, body) := match s with
    | '!' :: rest => (true, rest)
    | '^' :: rest => (true, rest)
    | _ => (false, s)
  (readRanges true false [] body).map fun found =>
    found.map fun (ranges, rest) => (.oneOf outside ranges, rest)

/-- Reads the characters of a glob; `before` is the one before them. If `loose`, a bracket that is
not closed, and all brackets after it, stand for themselves. -/
def read (loose : Bool) : Nat → Option Char → List Char → Reader → Option Glob
  | 0, _, _, _ => none
  | _ + 1, _, [], r => r.finish?
  | fuel + 1, before, c :: rest, r =>
    match c with
    | '?' => read loose fuel (some c) rest (r.add [.any])
    | '*' =>
      match rest with
      | '*' :: rest =>
        let (r, n) := r.addStars before rest
        read loose fuel (if n == 0 then some '*' else some '/') (rest.drop n) r
      | _ => read loose fuel (some c) rest (r.add [.run])
    | '[' =>
      match readSet rest with
      | none => none
      | some (some (part, after)) => read loose fuel (some ']') after (r.add [part])
      | some none => if loose then read loose fuel (some c) rest (r.add [.literal c]) else none
    | '\x7b' => read loose fuel (some c) rest r.enter
    | '\x7d' => r.leave?.bind (read loose fuel (some c) rest)
    | ',' => read loose fuel (some c) rest (if r.outer.isEmpty then r.add [.literal c] else r.next)
    | '\\' =>
      match rest with
      | [] => none
      | x :: rest => read loose fuel (some x) rest (r.add [.literal x])
    | _ => read loose fuel (some c) rest (r.add [.literal c])

/-- Reads the text of a glob. -/
def ofText? (loose : Bool) (s : List Char) : Option Glob :=
  read loose (s.length + 1) none s ⟨⟨[], []⟩, []⟩

/-! ## Matching -/

/-- The bytes of a text, as characters. -/
def byteChars (s : String) : List Char :=
  s.toUTF8.toList.map fun b => Char.ofNat b.toNat

/-- All bytes. -/
def anyByte : Ranges := [(0, 0xFF)]

/-- All bytes but the slash. -/
def noSlash : Ranges := [(0, 0x2E), (0x30, 0xFF)]

/-- The byte that a slash is. -/
def slash : Ranges := [(0x2F, 0x2F)]

/-- The bytes that ranges of characters stand for: those of both ends, and those from the last of
the first end to the first of the last. -/
def byteRanges (ranges : List (Char × Char)) : Ranges :=
  ranges.flatMap fun (lo, hi) =>
    let low := (byteChars lo.toString).map Char.toNat
    let high := (byteChars hi.toString).map Char.toNat
    if lo == hi then low.map fun b => (b, b)
    else
      (low.dropLast.map fun b => (b, b)) ++ [(low.getLastD 0, high.headD 0)] ++
        (high.drop 1).map fun b => (b, b)

/-- The bytes outside of ranges. -/
def otherBytes (ranges : Ranges) : Ranges :=
  ((List.range 256).filter (!ranges.hasCode ·)).map fun b => (b, b)

/-- Any number of bytes of a set. -/
def many (bytes : Ranges) : Pattern :=
  .repeated (.set bytes) 0 none

mutual

/-- The pattern of what a part stands for. -/
def Part.pattern : Part → Pattern
  | .literal c =>
    (byteChars c.toString).foldr (fun b p => .concat (.set [(b.toNat, b.toNat)]) p) .empty
  | .any => .set noSlash
  | .run => many noSlash
  | .anywhere =>
    .either (.repeated (.set slash) 0 (some 1)) (.concat (many anyByte) (.set slash))
  | .within => .concat (.set slash) (many anyByte)
  | .between =>
    .either (.set slash) (.concat (.set slash) (.concat (many anyByte) (.set slash)))
  | .oneOf outside ranges =>
    .set (if outside then otherBytes (byteRanges ranges) else byteRanges ranges)
  | .choice globs => (choicePattern globs).getD .empty

/-- The pattern of what parts one after the other stand for. -/
def partsPattern : List Part → Pattern
  | [] => .empty
  | p :: rest => .concat p.pattern (partsPattern rest)

/-- The pattern of what one of several globs describes; those without parts are left out. -/
def choicePattern : List (List Part) → Option Pattern
  | [] => none
  | glob :: rest =>
    if glob.isEmpty then choicePattern rest
    else
      match choicePattern rest with
      | none => some (partsPattern glob)
      | some others => some (.either (partsPattern glob) others)

end

/-- The pattern of the whole paths that a glob describes. Two stars alone describe all. -/
def pattern (glob : Glob) : Pattern :=
  match glob with
  | [.anywhere] => .empty
  | _ => .concat (.look .textStart) (.concat (partsPattern glob) (.look .textEnd))

/-- Whether a glob describes a path. -/
def covers (glob : Glob) (path : String) : Bool :=
  glob.pattern.occursIn (String.ofList (byteChars path))

end Glob

end PortSurvey.Disk
