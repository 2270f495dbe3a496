import PortSurvey.Archetype.Rows
import PortSurvey.Pattern.Parse
import PortSurvey.Text.Blank

/-!
# Tables of kinds of services

A `Table` lists patterns with the kinds of services that they tell. The first pattern that occurs in
a name tells the kind; an operator's patterns stand before the known ones.
-/

namespace PortSurvey.Archetype

/-- A pattern that can be looked for in names. -/
structure Matcher where
  /-- The pattern and the kind of services. -/
  source : ServicePattern
  /-- What is looked for. -/
  pattern : Pattern

/-- Patterns in the order in which they are tried. -/
abbrev Table := List Matcher

/-- Reads the text of a pattern. -/
def Matcher.ofPattern? (p : ServicePattern) : Except Pattern.Fault Matcher :=
  (Pattern.ofText? p.text).map fun pattern => ⟨p, pattern⟩

namespace Table

/-- The table of the known kinds of services. -/
def known : Table :=
  rows.filterMap fun p => (Matcher.ofPattern? p).toOption

/-- The table with an operator's patterns before the known ones, if all of them can be read. -/
def withPatterns (patterns : List ServicePattern) : Except Pattern.Fault Table :=
  (patterns.mapM Matcher.ofPattern?).map (· ++ known)

/-- The kind of a service that its name tells, with blanks around it and in any case. A blank name
tells none. -/
def lookup? (t : Table) (name : String) : Option Archetype :=
  let name := Text.trim name
  if name.isEmpty then none
  else (t.find? (fun m => m.pattern.occursIn name)).map (·.source.archetype)

end Table

end PortSurvey.Archetype
