import PortSurvey.Text.Split

/-!
# Paths

A path is a text whose parts stand between slashes. Empty parts and single dots say nothing, except
for a dot at the front of a relative path, so that several texts may spell one path: paths are the
same when their parts are. Paths are ordered part by part.
-/

namespace PortSurvey

/-- A part of a path. -/
inductive Part
  /-- The root, at the front of an absolute path. -/
  | root
  /-- The dot at the front of a relative path. -/
  | here
  /-- The way up to the directory around. -/
  | up
  /-- The name of an entry. -/
  | name (s : String)
  deriving DecidableEq, Repr

namespace Part

/-- The text of a part. -/
def text : Part → String
  | .root => "/"
  | .here => "."
  | .up => ".."
  | .name s => s

/-- The name that a part is. -/
def name? : Part → Option String
  | .name s => some s
  | _ => none

/-- The place of a part in the order, before its name counts. -/
def rank : Part → Nat
  | .root => 0
  | .here => 1
  | .up => 2
  | .name _ => 3

/-- Whether a part comes before another: the root, the dot, the way up, then the names. -/
def before (p q : Part) : Bool :=
  match p, q with
  | .name a, .name b => a < b
  | _, _ => p.rank < q.rank

end Part

/-- A path, as it is spelled. -/
structure Path where
  /-- The spelling. -/
  text : String
  deriving DecidableEq, Repr

namespace Path

/-- The part that stands between two slashes, if it says anything. -/
def partOf? (segment : List Char) : Option Part :=
  if segment.isEmpty || segment == ['.'] then none
  else if segment == ['.', '.'] then some .up
  else some (.name (String.ofList segment))

/-- Whether a path begins at the root. -/
def isAbsolute (p : Path) : Bool :=
  p.text.toList.head? == some '/'

/-- The parts of a path. -/
def parts (p : Path) : List Part :=
  let segments := p.text.toList.splitOnP (· == '/')
  let named := segments.filterMap partOf?
  if p.isAbsolute then .root :: named
  else if segments.head? == some ['.'] then .here :: named
  else named

/-- Whether two paths have the same parts. -/
def same (p q : Path) : Bool :=
  p.parts == q.parts

/-- Whether a list of parts comes before another or is the same. -/
def partsLe : List Part → List Part → Bool
  | [], _ => true
  | _ :: _, [] => false
  | p :: ps, q :: qs => p.before q || (p == q && partsLe ps qs)

/-- Whether a path comes before another or has the same parts. -/
def le (p q : Path) : Bool :=
  partsLe p.parts q.parts

/-- The path `q` seen from `p`; an absolute `q` is itself. -/
def join (p q : Path) : Path :=
  if q.isAbsolute then q
  else if p.text.isEmpty || p.text.toList.getLast? == some '/' then ⟨p.text ++ q.text⟩
  else ⟨p.text ++ "/" ++ q.text⟩

/-- The parts of the directory that a path lies in. -/
def parentParts? (p : Path) : Option (List Part) :=
  match p.parts.getLast? with
  | none | some .root => none
  | some _ => some p.parts.dropLast

/-- The name of the entry that a path leads to, unless it ends with a way up. -/
def name? (p : Path) : Option String :=
  p.parts.getLast?.bind Part.name?

/-- The name of the entry without what follows its last dot. A dot in front is part of the name. -/
def stem? (p : Path) : Option String :=
  p.name?.map fun name =>
    match Text.splitOnceEnd '.' name.toList with
    | some (x :: before, _) => String.ofList (x :: before)
    | _ => name

/-- What follows the last dot in the name of the entry. A dot in front is part of the name. -/
def ending? (p : Path) : Option String :=
  p.name?.bind fun name =>
    match Text.splitOnceEnd '.' name.toList with
    | some (_ :: _, after) => some (String.ofList after)
    | _ => none

/-- The parts of `p` that come after those of `q`, if `p` begins with them. -/
def below? (p q : Path) : Option (List Part) :=
  if q.parts.isPrefixOf p.parts then some (p.parts.drop q.parts.length) else none

/-- The texts of parts, with slashes between them. -/
def joinParts (parts : List Part) : String :=
  String.intercalate "/" (parts.map Part.text)

/-- The spelling of parts as a path. -/
def ofParts (parts : List Part) : Path :=
  parts.foldl (fun p part => p.join ⟨part.text⟩) ⟨""⟩

end Path

end PortSurvey
