import PortSurvey.Yaml.Scalar
import PortSurvey.Yaml.Stream

/-!
# Reading values

`Value.ofDocument` follows the references of a document and reads its scalars. Collections may be
nested 128 deep, and references may be followed a hundred times as often as the document has nodes.
`Value.ofText` reads a text with one document, and `Value.streamOfText` all documents of a text.
-/

namespace PortSurvey.Yaml

/-- The depth to which collections may be nested. -/
def maxDepth : Nat := 128

/-- A reader of nodes counts the references that it follows. -/
abbrev Reading (α : Type) := StateT Nat (Except Fault) α

/-- The node itself, or the anchored node that a reference means. -/
def Document.follow (d : Document) : Node → Reading Node
  | .reference number => do
    let followed := (← get) + 1
    if d.size * 100 < followed then throw .repetition
    set followed
    match d.anchored? number with
    | some node => return node
    | none => throw .unknownAlias
  | node => return node

/-- A tag as a value carries it: without the exclamation marks in front of it. -/
def plainTag (tag : List Char) : List Char :=
  match tag with
  | '!' :: x :: rest => x :: rest
  | _ => tag

/-- The tag of the document's own that a node has, if it has one. -/
def ownTag? : Option String → Option String
  | some tag =>
    match tag.toList with
    | '!' :: rest => some (String.ofList (plainTag (plainTag ('!' :: rest))))
    | _ => none
  | none => none

/-- The part of the shared tags that comes before their names. -/
def sharedTag (name : String) : Option String :=
  some ("tag:yaml.org,2002:" ++ name)

/-- The value of a plain scalar that has no tag. -/
def Value.ofPlain (text : String) : Except Fault Value :=
  match Plain.ofText text with
  | .null => .ok .null
  | .bool b => .ok (.bool b)
  | .whole n => if fitsWord n then .ok (.number (.whole n)) else .error .scalar
  | .binary bits => .ok (.number (.binary bits))
  | .text => .ok (.string text)

/-- The value of a scalar. The shared tags of truth values, numbers and no value ask for a text of
that kind; any other shared tag makes a text. -/
def Value.ofScalar (tag : Option String) (plain : Bool) (text : String) : Except Fault Value :=
  if tag == sharedTag "bool" then
    match readBool? text with
    | some b => .ok (.bool b)
    | none => .error .scalar
  else if tag == sharedTag "int" then
    match readWhole? text.toList with
    | some n => if fitsWord n then .ok (.number (.whole n)) else .error .scalar
    | none => .error .scalar
  else if tag == sharedTag "float" then
    match readBinary? text.toList with
    | some bits => .ok (.number (.binary bits))
    | none => .error .scalar
  else if tag == sharedTag "null" then
    if isNullText text then .ok .null else .error .scalar
  else if plain && tag.isNone then Value.ofPlain text
  else .ok (.string text)

/-- The value of a scalar under a tag of the document's own. -/
def Value.ofTaggedScalar (plain : Bool) (text : String) : Except Fault Value :=
  if plain then Value.ofPlain text else .ok (.string text)

/-- The value of a node in which collections may be nested `depth` deep. -/
def Document.valueAt (d : Document) : Nat → Node → Reading Value
  | depth, node => do
    match ← d.follow node with
    | .reference _ => throw .unknownAlias
    | .scalar tag plain text =>
      match ownTag? tag with
      | some name => return .tagged name (← Value.ofTaggedScalar plain text)
      | none => Value.ofScalar tag plain text
    | .sequence tag items =>
      match depth with
      | 0 => throw .depth
      | depth + 1 =>
        let inner := Value.sequence (← items.mapM (d.valueAt depth))
        return match ownTag? tag with
          | some name => .tagged name inner
          | none => inner
    | .mapping tag entries =>
      match depth with
      | 0 => throw .depth
      | depth + 1 =>
        let read ← entries.foldlM (fun (done : List (Value × Value)) entry => do
          let key ← d.valueAt depth entry.1
          if done.any (fun e => e.1.same key) then throw .duplicateKey
          let value ← d.valueAt depth entry.2
          return (key, value) :: done) []
        let inner := Value.mapping read.reverse
        return match ownTag? tag with
          | some name => .tagged name inner
          | none => inner

/-- The value of a document. -/
def Value.ofDocument (d : Document) : Except Fault Value :=
  match d.root with
  | none => .ok .null
  | some node => (d.valueAt maxDepth node).run' 0

/-- The values of the documents of a text, each read or refused on its own. -/
def Value.streamOfText (text : String) : List (Except Fault Value) :=
  (Document.ofText text).map fun d => d.bind Value.ofDocument

/-- The one document of a text. -/
def Document.onlyOfText (text : String) : Except Fault Document :=
  match Document.ofText text with
  | [d] => d
  | [_, .error e] => .error e
  | _ => .error .secondDocument

/-- The value of the one document of a text. -/
def Value.ofText (text : String) : Except Fault Value :=
  (Document.onlyOfText text).bind Value.ofDocument

end PortSurvey.Yaml
