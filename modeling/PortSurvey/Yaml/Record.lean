import PortSurvey.Yaml.Read

/-!
# Reading records

Where the place of a node fixes the kind of its value, the node is read as that kind: as a text
whatever its scalar looks like, as a truth value, as items, as entries, or as a record with named
fields. A record is a mapping from names, or a sequence in which each field has its place. An empty
plain scalar stands for no items, no entries or a record without fields.
-/

namespace PortSurvey.Yaml

/-- Whether a node is a plain scalar without any text. -/
def Node.isBlank : Node → Bool
  | .scalar _ plain text => plain && text.isEmpty
  | _ => false

namespace Document

variable (d : Document)

/-- Reads a text. Any scalar is one, as it is spelled. -/
def readText (node : Node) : Reading String := do
  match ← d.follow node with
  | .scalar _ _ text => return text
  | _ => throw .shape

/-- Reads a truth value, of which tags say nothing. -/
def readBool (node : Node) : Reading Bool := do
  match ← d.follow node with
  | .scalar _ true text =>
    match readBool? text with
    | some b => return b
    | none => throw .shape
  | _ => throw .shape

/-- Reads what may be left open: a plain scalar without a text or with a word for no value leaves it
open, unless it has a tag. The shared tag of no value asks for such a word. -/
def readOptional {α : Type} (read : Node → Reading α) (node : Node) : Reading (Option α) := do
  let node ← d.follow node
  match node with
  | .scalar tag true text =>
    if tag == sharedTag "null" then
      if isNullText text then return none else throw .shape
    else if tag.isNone && (text.isEmpty || isNullText text) then return none
    else return some (← read node)
  | _ => return some (← read node)

/-- Reads a name out of a fixed set: a scalar with that text, or a tag of the document's own with
that name and no value. -/
def readNamed {α : Type} (ofName? : String → Option α) (node : Node) : Reading α := do
  let named (name : String) : Reading α :=
    match ofName? name with
    | some a => return a
    | none => throw .shape
  match ← d.follow node with
  | .scalar tag plain text =>
    match ownTag? tag with
    | some name =>
      if plain && (text.isEmpty || isNullText text) then named name else throw .shape
    | none => named text
  | _ => throw .shape

/-- Reads the nodes of a sequence. -/
def readItems (node : Node) : Reading (List Node) := do
  match ← d.follow node with
  | .sequence _ items => return items
  | node => if node.isBlank then return [] else throw .shape

/-- Reads the nodes of a mapping. -/
def readEntries (node : Node) : Reading (List (Node × Node)) := do
  match ← d.follow node with
  | .mapping _ entries => return entries
  | node => if node.isBlank then return [] else throw .shape

/-- Reads the entries of a mapping whose keys are texts. -/
def readFields (node : Node) : Reading (List (String × Node)) := do
  (← d.readEntries node).mapM fun entry => return (← d.readText entry.1, entry.2)

/-- Reads the fields of a record. No field of the record may come twice, and fields that are not of
the record are passed over unless it is `closed`. -/
def readRecord (names : List String) (closed : Bool) (node : Node) :
    Reading (List (String × Node)) := do
  match ← d.follow node with
  | .sequence _ items =>
    if names.length < items.length then throw .shape else return names.zip items
  | node =>
    let fields ← d.readFields node
    let known := fields.filter (·.1 ∈ names)
    if closed && known.length < fields.length then throw .shape
    else if (known.map (·.1)).Nodup then return known
    else throw .duplicateKey

/-- Reads a value without tags of the document's own, in which collections may be nested `depth`
deep and keys may come twice. -/
def readValueAt : Nat → Node → Reading Value
  | depth, node => do
    match ← d.follow node with
    | .reference _ => throw .unknownAlias
    | .scalar tag plain text =>
      if (ownTag? tag).isSome then throw .shape else Value.ofScalar tag plain text
    | .sequence tag items =>
      match depth with
      | 0 => throw .depth
      | depth + 1 =>
        if (ownTag? tag).isSome then throw .shape
        else return .sequence (← items.mapM (readValueAt depth))
    | .mapping tag entries =>
      match depth with
      | 0 => throw .depth
      | depth + 1 =>
        if (ownTag? tag).isSome then throw .shape
        else return .mapping (← entries.mapM fun entry => do
          return (← readValueAt depth entry.1, ← readValueAt depth entry.2))

end Document

/-- The node of a field. -/
def field? (fields : List (String × Node)) (name : String) : Option Node :=
  (fields.find? (·.1 == name)).map (·.2)

/-- Reads a field that has to be there. -/
def readField {α : Type} (fields : List (String × Node)) (name : String)
    (read : Node → Reading α) : Reading α :=
  match field? fields name with
  | some node => read node
  | none => throw .shape

/-- Reads a field that may be missing, for which `usual` stands then. -/
def readFieldOr {α : Type} (fields : List (String × Node)) (name : String) (usual : α)
    (read : Node → Reading α) : Reading α :=
  match field? fields name with
  | some node => read node
  | none => return usual

end PortSurvey.Yaml
