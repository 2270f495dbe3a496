import PortSurvey.Pattern.FoldTable
import PortSurvey.Text.WordTable

/-!
# Sets of characters in patterns

A set is a list of ranges of code points. Sets are joined, cut with each other and turned around;
`folded` adds to a set every character that differs from one of its own in case only.
-/

namespace PortSurvey.Pattern

open Text

/-- The greatest code point. -/
def maxCode : Nat := 0x10FFFF

/-- The code points that are no characters. -/
def surrogates : Nat × Nat := (0xD800, 0xDFFF)

/-- Puts a range in front of the first that begins no earlier. -/
def insertRange (b : Nat × Nat) : Ranges → Ranges
  | [] => [b]
  | x :: rest => if b.1 ≤ x.1 then b :: x :: rest else x :: insertRange b rest

/-- Puts ranges into order and joins those that touch. -/
def normalized (r : Ranges) : Ranges :=
  let sorted := r.foldr insertRange []
  (sorted.foldl (fun (done : Ranges) b =>
    match done with
    | last :: rest =>
      if b.1 ≤ last.2 + 1 then (last.1, max last.2 b.2) :: rest else b :: last :: rest
    | [] => [b]) []).reverse

/-- The ranges between `first` and the greatest code point that ranges in order leave out. -/
def gaps (first : Nat) : Ranges → Ranges
  | [] => if first ≤ maxCode then [(first, maxCode)] else []
  | (lo, hi) :: rest => (if first < lo then [(first, lo - 1)] else []) ++ gaps (hi + 1) rest

/-- The characters that are not in a set. -/
def complement (r : Ranges) : Ranges :=
  gaps 0 (normalized (surrogates :: r))

/-- The characters that are in both sets. -/
def intersection (r s : Ranges) : Ranges :=
  complement (complement r ++ complement s)

/-- The characters that are in the first set and not in the second. -/
def difference (r s : Ranges) : Ranges :=
  intersection r (complement s)

/-- The characters that are in one of the sets and not in both. -/
def symmetricDifference (r s : Ranges) : Ranges :=
  difference (r ++ s) (intersection r s)

/-- Whether all characters of a set are ASCII. -/
def isAscii (r : Ranges) : Bool :=
  r.all (fun b => b.2 < 0x80)

/-- The characters that do not fold to themselves, each with what it folds to. -/
def folds : List (Nat × Nat) :=
  (Run.ofTable foldTable).flatMap fun run =>
    (List.range ((run.hi - run.lo) / run.step + 1)).map fun i =>
      (run.lo + i * run.step, run.target + i * run.step)

/-- The characters that differ from an ASCII character in case only, that one included. -/
def asciiForms (n : Nat) : List Nat :=
  let c := Char.ofNat n
  if !c.isAlpha then [n]
  else
    [c.toUpper.toNat, c.toLower.toNat] ++
      (if c.toLower == 'k' then [0x212A] else []) ++ (if c.toLower == 's' then [0x17F] else [])

/-- A set with the characters that fold to or from one of its own. -/
def foldStep (r : Ranges) : Ranges :=
  r ++ folds.filterMap fun (c, f) =>
    match r.hasCode c, r.hasCode f with
    | true, false => some (f, f)
    | false, true => some (c, c)
    | _, _ => none

/-- A set with every character that differs from one of its own in case only. -/
def folded (r : Ranges) : Ranges :=
  if isAscii r then
    normalized (r.flatMap fun (lo, hi) =>
      (List.range (hi + 1 - lo)).flatMap fun i => (asciiForms (lo + i)).map fun n => (n, n))
  else normalized (foldStep (foldStep r))

/-- The ASCII characters that make up words. -/
def asciiWord : Ranges := [(0x30, 0x39), (0x41, 0x5A), (0x5F, 0x5F), (0x61, 0x7A)]

/-- The ASCII digits. -/
def asciiDigit : Ranges := [(0x30, 0x39)]

/-- The ASCII blanks. -/
def asciiBlank : Ranges := [(0x09, 0x0D), (0x20, 0x20)]

/-- All blanks. -/
def blank : Ranges :=
  [(0x09, 0x0D), (0x20, 0x20), (0x85, 0x85), (0xA0, 0xA0), (0x1680, 0x1680), (0x2000, 0x200A),
    (0x2028, 0x2029), (0x202F, 0x202F), (0x205F, 0x205F), (0x3000, 0x3000)]

/-- The sets of ASCII characters that have a name of their own inside brackets. -/
def asciiClass? : String → Option Ranges
  | "alnum" => some [(0x30, 0x39), (0x41, 0x5A), (0x61, 0x7A)]
  | "alpha" => some [(0x41, 0x5A), (0x61, 0x7A)]
  | "ascii" => some [(0x00, 0x7F)]
  | "blank" => some [(0x09, 0x09), (0x20, 0x20)]
  | "cntrl" => some [(0x00, 0x1F), (0x7F, 0x7F)]
  | "digit" => some asciiDigit
  | "graph" => some [(0x21, 0x7E)]
  | "lower" => some [(0x61, 0x7A)]
  | "print" => some [(0x20, 0x7E)]
  | "punct" => some [(0x21, 0x2F), (0x3A, 0x40), (0x5B, 0x60), (0x7B, 0x7E)]
  | "space" => some asciiBlank
  | "upper" => some [(0x41, 0x5A)]
  | "word" => some asciiWord
  | "xdigit" => some [(0x30, 0x39), (0x41, 0x46), (0x61, 0x66)]
  | _ => none

end PortSurvey.Pattern
