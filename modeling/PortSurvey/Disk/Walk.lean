import PortSurvey.Disk.Ignore
import PortSurvey.Survey

/-!
# Walks over disks

A walk gathers the files below a directory. It does not follow links, except that its root may be
one, leaves out what rules leave out, and does not enter directories that an exclusion describes. An
exclusion is the text of a rule on directories.
-/

namespace PortSurvey.Disk

/-- The rule that an exclusion is, seen from the root of a walk. -/
def exclusion? (text : String) : Option Rule :=
  Rule.ofRule? false ("!".toList ++ text.toList ++ "/".toList)

/-- The rules that exclusions are. -/
def exclusions (texts : List String) : Except Fault (List Rule) :=
  texts.mapM fun text =>
    match exclusion? text with
    | some rule => .ok rule
    | none => .error (.exclusion text)

/-- Whether a walk from `root` passes over an item. -/
def passesOver (d : Disk) (excluded : List Rule) (root path : List String)
    (isDirectory : Bool) : Bool :=
  excluded.any (·.speaksOf path isDirectory) || d.isLeftOut (root ++ path) isDirectory

/-- The files below a directory that a walk from `root` finds, down to `depth` levels, by their
paths from there. -/
def filesBelow (d : Disk) (excluded : List Rule) (root : List String) :
    Nat → List String → List (List String)
  | 0, _ => []
  | depth + 1, path =>
    (d.namesAt (root ++ path)).flatMap fun (name, item) =>
      let path := path ++ [name]
      match item with
      | .link _ => []
      | .file _ => if d.passesOver excluded root path false then [] else [path]
      | .directory =>
        if d.passesOver excluded root path true then []
        else filesBelow d excluded root depth path

/-- The files that a walk finds, in the order of their paths. The walk of a file finds that file. -/
def walk (d : Disk) (p : Path) (depth : Nat) (excluded : List String) :
    Except Fault (List Path) := do
  let rules ← exclusions excluded
  match d.resolve? p with
  | none => return []
  | some root =>
    if d.hasDirectory root then
      let found := (d.filesBelow rules root depth []).map fun path =>
        path.foldl (fun p name => p.join ⟨name⟩) p
      return found.mergeSort Path.le
    else return [p]

/-- A disk as a store of files. -/
def store (d : Disk) : FileStore where
  isDirectory := d.isDirectory
  walk := fun p depth excluded => (d.walk p depth excluded).toOption
  read := fun p => (d.read p).toOption

end PortSurvey.Disk
