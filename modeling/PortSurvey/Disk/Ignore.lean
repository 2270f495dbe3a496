import PortSurvey.Disk.Basic
import PortSurvey.Disk.Glob
import PortSurvey.Text.Blank

/-!
# Files that are left out

A file of rules in a directory says which paths below it are left out. A rule is a glob; after an
exclamation mark it keeps what an earlier rule leaves out, before a slash at its end it speaks of
directories only, and with a slash elsewhere it describes whole paths below the directory. The last
rule that speaks of a path decides.
-/

namespace PortSurvey.Disk

open Text

/-- A rule on paths. -/
structure Rule where
  /-- The paths of which it speaks, seen from the directory of the rule. -/
  glob : Glob
  /-- Whether the paths are kept. -/
  keeps : Bool
  /-- Whether it speaks of directories only. -/
  directories : Bool

namespace Rule

/-- Whether a text begins with an escaped exclamation mark or number sign. -/
def isEscaped : List Char → Bool
  | '\\' :: '!' :: _ => true
  | '\\' :: '#' :: _ => true
  | _ => false

/-- A text without the slash at its end, and without a backslash before that; nothing if no slash is
there. -/
def withoutSlash? (s : List Char) : Option (List Char) :=
  match s.reverse with
  | '/' :: '\\' :: rest => some rest.reverse
  | '/' :: rest => some rest.reverse
  | _ => none

/-- The text of the glob of a rule. What has no slash may lie in any directory, and what lies in a
directory is not the directory itself. -/
def globText (anchored : Bool) (s : List Char) : List Char :=
  let s :=
    if anchored || '/' ∈ s || s == "**".toList then s else "**/".toList ++ s
  if "/**".toList.isSuffixOf s then s ++ "/*".toList else s

/-- The rule of a line that is neither blank nor a remark. -/
def ofRule? (loose : Bool) (line : List Char) : Option Rule :=
  let (keeps, anchored, s) :=
    if isEscaped line then (false, false, line.drop 1)
    else
      let (keeps, s) := match line with
        | '!' :: rest => (true, rest)
        | _ => (false, line)
      match s with
      | '/' :: rest => (keeps, true, rest)
      | _ => (keeps, false, s)
  let inner := withoutSlash? s
  (Glob.ofText? loose (globText anchored (inner.getD s))).map fun glob =>
    ⟨glob, keeps, inner.isSome⟩

/-- A line without the blanks at its end, unless the last of them is escaped. -/
def trimLine (line : List Char) : List Char :=
  if "\\ ".toList.isSuffixOf line then line else trimEndChars line

/-- The rule of a line, if it holds one that can be read. -/
def ofLine? (line : List Char) : Option Rule :=
  match trimLine line with
  | [] => none
  | '#' :: _ => none
  | s => ofRule? true s

/-- Whether a rule speaks of a path. -/
def speaksOf (r : Rule) (path : List String) (isDirectory : Bool) : Bool :=
  (isDirectory || !r.directories) && r.glob.covers (String.intercalate "/" path)

/-- The lines of a file, which line feeds end; a carriage return before one belongs to it. -/
def lines (content : ByteArray) : List (List UInt8) :=
  (content.toList.splitOnP (· == 10)).map fun line =>
    if line.getLast? == some 13 then line.dropLast else line

/-- The rules of a file. What follows the first line that is no text is passed over. -/
def ofFile (content : ByteArray) : List Rule :=
  let texts := ((lines content).map fun line => String.fromUTF8? ⟨line.toArray⟩).takeWhile
    Option.isSome
  let texts := texts.filterMap fun text => text.map String.toList
  match texts with
  | [] => []
  | first :: rest =>
    (first.dropWhile (· == '\uFEFF') :: rest).filterMap ofLine?

/-- Whether rules leave a path out or keep it, if one of them speaks of it. -/
def leavesOut? (rules : List Rule) (path : List String) (isDirectory : Bool) : Option Bool :=
  (rules.reverse.find? (·.speaksOf path isDirectory)).map (!·.keeps)

end Rule

/-- The rules of a directory. -/
structure Rules where
  /-- Those that always hold. -/
  always : List Rule
  /-- Those that hold inside a repository. -/
  versioned : List Rule
  /-- Those that a repository holds for itself. -/
  own : List Rule
  /-- Whether a repository has its root here. -/
  isRepository : Bool

/-- The rules in the file to which pieces of a path lead from a place. -/
def rulesAt (d : Disk) (place pieces : List String) : List Rule :=
  match (d.follow? maxLinks place pieces).bind d.item? with
  | some (.file content) => Rule.ofFile content
  | _ => []

/-- The rules of the directory at a place. -/
def rulesOf (d : Disk) (place : List String) : Rules where
  always := d.rulesAt place [".ignore"]
  versioned := d.rulesAt place [".gitignore"]
  own := d.rulesAt place [".git", "info", "exclude"]
  isRepository := (d.follow? maxLinks place [".git"]).isSome

/-- The rules of the directories above an item, the nearest first, each with the path of the item
from there. -/
def rulesAbove (d : Disk) (place : List String) : List (Rules × List String) :=
  (List.range place.length).reverse.map fun n => (d.rulesOf (place.take n), place.drop n)

/-- The directories up to the one in which the repository has its root; none without a
repository. -/
def insideRepository (above : List (Rules × List String)) : List (Rules × List String) :=
  if above.any (·.1.isRepository) then
    let outside := above.dropWhile (!·.1.isRepository)
    above.take (above.length - outside.length + 1)
  else []

/-- Whether the rules of the directories above it leave an item out. -/
def isLeftOut (d : Disk) (place : List String) (isDirectory : Bool) : Bool :=
  let above := d.rulesAbove place
  let inside := insideRepository above
  let say (dirs : List (Rules × List String)) (rules : Rules → List Rule) : Option Bool :=
    dirs.findSome? fun (r, path) => Rule.leavesOut? (rules r) path isDirectory
  (((say above (·.always)).or (say inside (·.versioned))).or (say inside (·.own))).getD false

end PortSurvey.Disk
