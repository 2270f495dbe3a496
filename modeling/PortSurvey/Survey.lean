import PortSurvey.Artifact.Read
import PortSurvey.Inventory.Basic
import PortSurvey.Tree.Basic

/-!
# Surveys

A survey walks the files below a root, reads those that are artifacts and puts what they declare
into an inventory. It never fails: a root that is no directory holds nothing, and an artifact that
cannot be read declares nothing.
-/

namespace PortSurvey

/-- What a survey asks of a store of files. -/
structure FileStore where
  /-- Whether a path leads to a directory. -/
  isDirectory : Path → Bool
  /-- The files below a directory down to a depth and without directories of excluded names, in
  the order of their paths; nothing if the names cannot be used. -/
  walk : Path → Nat → List String → Option (List Path)
  /-- The content of a file. -/
  read : Path → Option String

/-- A tree as a store of files. -/
def Tree.store (t : Tree) : FileStore where
  isDirectory := t.isDirectory
  walk := fun p depth excluded => some (t.walk p depth excluded)
  read := fun p => (t.read p).toOption

namespace Survey

/-- How far a survey goes. -/
structure Limits where
  /-- The number of levels below the root. -/
  depth : Nat
  /-- The number of files that are looked at. -/
  files : Nat
  /-- The names of the directories that are left out. -/
  excluded : List String
  deriving DecidableEq, Repr

/-- The usual limits. -/
def Limits.standard : Limits where
  depth := 10
  files := 10000
  excluded := [".git", "node_modules", ".terraform", "vendor", "target"]

/-- The service to name for artifacts that lie directly at the root. -/
def rootService (root : Path) : String :=
  match root.name? with
  | some name => if name.isEmpty then "app" else name
  | none => "app"

/-- The parts of a path below the root; those of the whole path if it does not lie there. -/
def partsBelow (root p : Path) : List Part :=
  (p.below? root).getD p.parts

/-- What the reader of an artifact is told about it. An artifact that names no service is that of
the directory in which it lies. -/
def describe (root p : Path) : Artifact.File where
  path := p
  display := Path.joinParts (partsBelow root p)
  service := ((partsBelow root p).dropLast.getLast?.bind Part.name?).getD (rootService root)

/-- The artifacts among files. -/
def artifacts (files : List Path) : List (Path × Artifact.Kind) :=
  files.filterMap fun p => (Artifact.Kind.ofPath? p).map fun kind => (p, kind)

/-- The declarations of an artifact; none if it cannot be read. -/
def declarationsOf (store : FileStore) (root p : Path) (kind : Artifact.Kind) :
    List Declaration :=
  match store.read p with
  | none => []
  | some content => ((kind.read (describe root p) content).toOption).getD []

/-- What the artifacts below a root declare. -/
def run (store : FileStore) (limits : Limits) (root : Path) : Inventory :=
  if store.isDirectory root then
    match store.walk root limits.depth limits.excluded with
    | some files =>
      ⟨root, (artifacts (files.take limits.files)).flatMap fun (p, kind) =>
        declarationsOf store root p kind⟩
    | none => Inventory.empty root
  else Inventory.empty root

end Survey

end PortSurvey
