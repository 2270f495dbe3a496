import PortSurvey.Path
import PortSurvey.Text.Quoted

/-!
# Trees of files

A `Tree` holds files and directories by their paths. Relative paths are seen from its root. An
entry keeps the spelling with which it was first put into the tree, and putting it there makes the
directories above it.
-/

namespace PortSurvey

/-- What a path of a tree leads to. -/
inductive Entry
  /-- A file, with its content. -/
  | file (content : String)
  /-- A directory. -/
  | directory
  deriving DecidableEq, Repr

namespace Entry

/-- Whether an entry is a directory. -/
def isDirectory : Entry → Bool
  | .directory => true
  | .file _ => false

/-- Whether an entry is a file. -/
def isFile (e : Entry) : Bool :=
  !e.isDirectory

end Entry

/-- Files and directories by their paths. -/
structure Tree where
  /-- The path from which relative paths are seen. -/
  root : Path
  /-- The entries with their paths, no two of which have the same parts. -/
  entries : List (Path × Entry)
  deriving DecidableEq

namespace Tree

/-- Why a tree does not answer. -/
inductive Fault
  /-- Nothing is at the path of a file. -/
  | noFile (path : Path)
  /-- A directory is at the path of a file. -/
  | notFile (path : Path)
  /-- A file is at the path of a directory. -/
  | notDirectory (path : Path)
  /-- Nothing is at the path of a directory. -/
  | noDirectory (path : Path)
  deriving DecidableEq, Repr

/-- The wording of a fault. -/
def Fault.message : Fault → String
  | .noFile path => "File not found: " ++ Text.quoted path.text
  | .notFile path => "Not a file: " ++ Text.quoted path.text
  | .notDirectory path => "Not a directory: " ++ Text.quoted path.text
  | .noDirectory path => "Directory not found: " ++ Text.quoted path.text

/-- A tree without entries. -/
def empty (root : Path) : Tree :=
  ⟨root, []⟩

/-- A path as it is seen from the root of the tree. -/
def resolve (t : Tree) (p : Path) : Path :=
  t.root.join p

/-- What is at a path that needs no resolving. -/
def at? (t : Tree) (p : Path) : Option Entry :=
  (t.entries.find? (fun e => e.1.same p)).map (·.2)

/-- What a path leads to. -/
def find? (t : Tree) (p : Path) : Option Entry :=
  t.at? (t.resolve p)

/-- Whether a path leads to something. -/
def has (t : Tree) (p : Path) : Bool :=
  (t.find? p).isSome

/-- Whether a path leads to a directory. -/
def isDirectory (t : Tree) (p : Path) : Bool :=
  (t.find? p).any Entry.isDirectory

/-- Whether a path leads to a file. -/
def isFile (t : Tree) (p : Path) : Bool :=
  (t.find? p).any Entry.isFile

/-- Puts an entry at a path, in place of what was there. -/
def put (t : Tree) (p : Path) (entry : Entry) : Tree :=
  if (t.at? p).isSome then
    { t with entries := t.entries.map (fun e => if e.1.same p then (e.1, entry) else e) }
  else { t with entries := t.entries ++ [(p, entry)] }

/-- Makes a directory at a path where nothing is. -/
def putMissing (t : Tree) (p : Path) : Tree :=
  if (t.at? p).isSome then t else t.put p .directory

/-- Makes directories at a path and above it where nothing is. -/
def putDirectories (t : Tree) (parts : List Part) : Tree :=
  (List.range parts.length).foldl
    (fun t n => t.putMissing (Path.ofParts (parts.take (n + 1)))) t

/-- Puts a file into the tree. -/
def addFile (t : Tree) (p : Path) (content : String) : Tree :=
  let p := t.resolve p
  (t.putDirectories (p.parentParts?.getD [])).put p (.file content)

/-- Puts a directory into the tree. -/
def addDirectory (t : Tree) (p : Path) : Tree :=
  t.putDirectories (t.resolve p).parts

/-- The content of the file that a path leads to. -/
def read (t : Tree) (p : Path) : Except Fault String :=
  let p := t.resolve p
  match t.at? p with
  | some (.file content) => .ok content
  | some .directory => .error (.notFile p)
  | none => .error (.noFile p)

/-- The entries of the directory that a path leads to, with their paths. -/
def list (t : Tree) (p : Path) : Except Fault (List (Path × Entry)) :=
  let p := t.resolve p
  match t.at? p with
  | some .directory => .ok (t.entries.filter (fun e => e.1.parentParts? == some p.parts))
  | some (.file _) => .error (.notDirectory p)
  | none => .error (.noDirectory p)

/-- The files below a directory, down to `depth` levels and without those below directories with an
excluded name. What cannot be listed is passed over. -/
def filesBelow (t : Tree) (excluded : List String) : Nat → Path → List Path
  | 0, _ => []
  | depth + 1, p =>
    match t.list p with
    | .error _ => []
    | .ok entries =>
      entries.flatMap fun (path, entry) =>
        match entry with
        | .file _ => [path]
        | .directory =>
          if (path.name?.getD "") ∈ excluded then [] else filesBelow t excluded depth path

/-- The files below a directory, in the order of their paths. -/
def walk (t : Tree) (p : Path) (depth : Nat) (excluded : List String) : List Path :=
  (t.filesBelow excluded depth p).mergeSort Path.le

end Tree

end PortSurvey
