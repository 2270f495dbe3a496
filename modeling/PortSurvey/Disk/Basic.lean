import PortSurvey.Path
import PortSurvey.Text.Quoted

/-!
# Disks

A `Disk` holds files, directories and links below a working directory, by their names on the way
from there. `Disk.resolve?` follows a path, and the links on it, to where it leads. Nothing leads
out of the working directory.
-/

namespace PortSurvey

/-- What a name on a disk stands for. -/
inductive Disk.Item
  /-- A file, with its bytes. -/
  | file (content : ByteArray)
  /-- A directory. -/
  | directory
  /-- A link to a path, seen from the directory in which it lies. -/
  | link (target : String)

/-- Files, directories and links by the names on the way to them. -/
structure Disk where
  /-- The items, no two of which have the same names. -/
  items : List (List String × Disk.Item)

namespace Disk

/-- Why a disk does not answer. -/
inductive Fault
  /-- A path leads to no file that holds text. -/
  | noText (path : Path)
  /-- A path leads to no directory. -/
  | noDirectory (path : Path)
  /-- An exclusion is no glob. -/
  | exclusion (text : String)
  deriving DecidableEq, Repr

/-- The wording of a fault. -/
def Fault.message : Fault → String
  | .noText path => "Failed to read file " ++ Text.quoted path.text
  | .noDirectory path => "Failed to read directory " ++ Text.quoted path.text
  | .exclusion text => "Invalid exclusion pattern " ++ Text.quoted text

/-- A disk with nothing on it. -/
def empty : Disk := ⟨[]⟩

/-- What is at a place. -/
def item? (d : Disk) (place : List String) : Option Item :=
  if place.isEmpty then some .directory
  else (d.items.find? (·.1 == place)).map (·.2)

/-- Whether a directory is at a place. -/
def hasDirectory (d : Disk) (place : List String) : Bool :=
  match d.item? place with
  | some .directory => true
  | _ => false

/-- The pieces of a path between its slashes; none if it is empty or does not begin at the working
directory. -/
def pieces? (text : String) : Option (List String) :=
  if text.isEmpty || text.toList.head? == some '/' then none
  else some ((text.toList.splitOnP (· == '/')).map String.ofList)

/-- The place to which pieces of a path lead from another. At most `links` links are followed. -/
def follow? (d : Disk) (links : Nat) (place : List String) (pieces : List String) :
    Option (List String) :=
  match pieces with
  | [] => some place
  | piece :: rest =>
    if !d.hasDirectory place then none
    else if piece.isEmpty || piece == "." then d.follow? links place rest
    else if piece == ".." then d.follow? links place.dropLast rest
    else
      match d.item? (place ++ [piece]) with
      | none => none
      | some (.link target) =>
        match links, pieces? target with
        | links + 1, some inner => d.follow? links place (inner ++ rest)
        | _, _ => none
      | some _ => d.follow? links (place ++ [piece]) rest
termination_by (links, pieces.length)

/-- The number of links that are followed on a path at most. -/
def maxLinks : Nat := 40

/-- The place to which a path leads. -/
def resolve? (d : Disk) (p : Path) : Option (List String) :=
  (pieces? p.text).bind (d.follow? maxLinks [])

/-- What a path leads to. -/
def find? (d : Disk) (p : Path) : Option Item :=
  (d.resolve? p).bind d.item?

/-- Whether a path leads to something. -/
def has (d : Disk) (p : Path) : Bool :=
  (d.find? p).isSome

/-- Whether a path leads to a directory. -/
def isDirectory (d : Disk) (p : Path) : Bool :=
  (d.resolve? p).any d.hasDirectory

/-- Whether a path leads to a file. -/
def isFile (d : Disk) (p : Path) : Bool :=
  match d.find? p with
  | some (.file _) => true
  | _ => false

/-- The bytes of the file that a path leads to. -/
def bytes? (d : Disk) (p : Path) : Option ByteArray :=
  match d.find? p with
  | some (.file content) => some content
  | _ => none

/-- The text of the file that a path leads to. -/
def read (d : Disk) (p : Path) : Except Fault String :=
  match (d.bytes? p).bind String.fromUTF8? with
  | some text => .ok text
  | none => .error (.noText p)

/-- The names in the directory at a place, with what they stand for. -/
def namesAt (d : Disk) (place : List String) : List (String × Item) :=
  d.items.filterMap fun (names, item) =>
    if names.dropLast == place then names.getLast?.map fun name => (name, item) else none

/-- An entry of a directory. -/
structure Listed where
  /-- The path of the directory with the name of the entry. -/
  path : Path
  /-- The name of the entry. -/
  name : String
  /-- Whether it leads to a directory. -/
  isDirectory : Bool
  deriving DecidableEq, Repr

/-- The entries of the directory that a path leads to. Links count as what they lead to, and those
that lead nowhere are left out. -/
def list (d : Disk) (p : Path) : Except Fault (List Listed) :=
  match (d.resolve? p).filter d.hasDirectory with
  | none => .error (.noDirectory p)
  | some place =>
    .ok ((d.namesAt place).filterMap fun (name, _) =>
      (d.follow? maxLinks place [name]).map fun there =>
        ⟨p.join ⟨name⟩, name, d.hasDirectory there⟩)

/-! ## Writing -/

/-- Puts an item at a place. -/
def put (d : Disk) (place : List String) (item : Item) : Disk :=
  if (d.item? place).isSome then
    ⟨d.items.map fun e => if e.1 == place then (place, item) else e⟩
  else ⟨d.items ++ [(place, item)]⟩

/-- Makes the directories to which pieces of a path lead from a place where they are missing, and
gives the place of the last. -/
def makeFrom (d : Disk) (place : List String) : List String → Option (Disk × List String)
  | [] => if d.hasDirectory place then some (d, place) else none
  | piece :: rest =>
    if d.hasDirectory place && (d.item? (place ++ [piece])).isNone &&
        piece ∉ ["", ".", ".."] then
      makeFrom (d.put (place ++ [piece]) .directory) (place ++ [piece]) rest
    else (d.follow? maxLinks place [piece]).bind fun there => makeFrom d there rest

/-- Makes the directories of a path. -/
def addDirectory (d : Disk) (p : Path) : Disk :=
  match (pieces? p.text).bind (d.makeFrom []) with
  | some (d, _) => d
  | none => d

/-- Puts an item under the last name of a path, with the directories above it. A file goes where a
link under that name leads. -/
def addItem (d : Disk) (p : Path) (item : Item) : Disk :=
  match pieces? p.text with
  | none => d
  | some pieces =>
    match d.makeFrom [] pieces.dropLast, pieces.getLast? with
    | some (d, place), some name =>
      match d.follow? maxLinks place [name] with
      | some there => if d.hasDirectory there then d else d.put there item
      | none => if (d.item? (place ++ [name])).isSome then d else d.put (place ++ [name]) item
    | _, _ => d

/-- Puts a file on the disk. -/
def addFile (d : Disk) (p : Path) (content : ByteArray) : Disk :=
  d.addItem p (.file content)

/-- Puts a link on the disk, where nothing is. -/
def addLink (d : Disk) (p : Path) (target : String) : Disk :=
  match (pieces? p.text).bind (d.follow? maxLinks []) with
  | some _ => d
  | none => d.addItem p (.link target)

end Disk

end PortSurvey
