import PortSurvey.Pattern.CharSet

/-!
# Patterns and what they match

A `Pattern` describes texts. Its `partials` at a place in a text are what is left to be matched
after the next character, and a text is matched once something `nullable` is left. `occursIn` looks
for a match anywhere in a text. A look at a place sees the characters on both sides of it.
-/

namespace PortSurvey

open Text

/-- What a pattern may ask of a place in a text. -/
inductive Look
  /-- The text begins here. -/
  | textStart
  /-- The text ends here. -/
  | textEnd
  /-- A line begins here; `crlf` says that a carriage return ends lines too. -/
  | lineStart (crlf : Bool)
  /-- A line ends here. -/
  | lineEnd (crlf : Bool)
  /-- A word begins or ends here; `ascii` says that words are of ASCII characters. -/
  | boundary (ascii : Bool)
  /-- No word begins or ends here. -/
  | noBoundary (ascii : Bool)
  /-- A word begins here. -/
  | wordStart (ascii : Bool)
  /-- A word ends here. -/
  | wordEnd (ascii : Bool)
  /-- No character of a word stands before this place. -/
  | wordStartHalf (ascii : Bool)
  /-- No character of a word stands after this place. -/
  | wordEndHalf (ascii : Bool)
  deriving DecidableEq, Repr

/-- A description of texts. -/
inductive Pattern
  /-- The empty text. -/
  | empty
  /-- A text of one character of a set. -/
  | set (chars : Ranges)
  /-- The empty text at a place that is as asked. -/
  | look (l : Look)
  /-- A text of a pattern that is taken note of. -/
  | group (p : Pattern)
  /-- A text of the first followed by one of the second. -/
  | concat (p q : Pattern)
  /-- A text of the first or of the second. -/
  | either (p q : Pattern)
  /-- Texts of a pattern one after the other, `min` of them at least and `max` at most. -/
  | repeated (p : Pattern) (min : Nat) (max : Option Nat)
  deriving DecidableEq, Repr

namespace Look

/-- Whether a character, if there is one, makes up words. -/
def isWord (ascii : Bool) (c : Option Char) : Bool :=
  c.any fun c => if ascii then asciiWord c else isWordChar c
where
  /-- Whether a character is an ASCII one that makes up words. -/
  asciiWord (c : Char) : Bool := Pattern.asciiWord.has c

/-- Whether a place between two characters is as asked. -/
def holds (before after : Option Char) : Look → Bool
  | .textStart => before.isNone
  | .textEnd => after.isNone
  | .lineStart false => before.isNone || before == some '\n'
  | .lineStart true =>
    before.isNone || before == some '\n' || (before == some '\r' && after != some '\n')
  | .lineEnd false => after.isNone || after == some '\n'
  | .lineEnd true =>
    after.isNone || after == some '\r' || (after == some '\n' && before != some '\r')
  | .boundary ascii => isWord ascii before != isWord ascii after
  | .noBoundary ascii => isWord ascii before == isWord ascii after
  | .wordStart ascii => !isWord ascii before && isWord ascii after
  | .wordEnd ascii => isWord ascii before && !isWord ascii after
  | .wordStartHalf ascii => !isWord ascii before
  | .wordEndHalf ascii => !isWord ascii after

end Look

namespace Pattern

/-- The pattern that no text matches. -/
def never : Pattern := .set []

/-- A pattern followed by another. -/
def seq (p q : Pattern) : Pattern :=
  match p with
  | .empty => q
  | _ => .concat p q

/-- Whether the empty text matches at a place between two characters. -/
def nullable (before after : Option Char) : Pattern → Bool
  | .empty => true
  | .set _ => false
  | .look l => l.holds before after
  | .group p => nullable before after p
  | .concat p q => nullable before after p && nullable before after q
  | .either p q => nullable before after p || nullable before after q
  | .repeated p min max => min == 0 || max == some 0 || nullable before after p

/-- What may be left to be matched once the character `c`, which `before` stands before, is used.
Where the repeated pattern may match nothing here, fewer repetitions do. -/
def partials (before : Option Char) (c : Char) : Pattern → List Pattern
  | .empty => []
  | .set chars => if chars.has c then [.empty] else []
  | .look _ => []
  | .group p => partials before c p
  | .concat p q =>
    (partials before c p).map (seq · q) ++
      (if nullable before (some c) p then partials before c q else [])
  | .either p q => partials before c p ++ partials before c q
  | .repeated p min max =>
    if max == some 0 then []
    else
      let min := if nullable before (some c) p then 0 else min - 1
      let rest := Pattern.repeated p min (max.map (· - 1))
      (partials before c p).map (seq · rest)

/-- Whether one of the active patterns matches a front of the text that `before` stands before, or
`p` matches some part of it. -/
def occursFrom (p : Pattern) (active : List Pattern) (before : Option Char) : List Char → Bool
  | [] => (p :: active).any (nullable before none)
  | c :: rest =>
    (p :: active).any (nullable before (some c)) ||
      occursFrom p ((p :: active).flatMap (partials before c)).eraseDups (some c) rest

/-- Whether a pattern matches some part of a text. -/
def occursIn (p : Pattern) (s : String) : Bool :=
  occursFrom p [] none s.toList

end Pattern

end PortSurvey
