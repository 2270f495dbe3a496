/-!
# The tokens of a document stream

What the characters of a stream stand for: marks that open and close collections, marks between
their entries, properties of nodes, and scalars.
-/

namespace PortSurvey.Yaml

/-- A token of a document stream. -/
inductive Token
  /-- A `%YAML` directive, with its two numbers. -/
  | version (major minor : Nat)
  /-- A `%TAG` directive: a handle and what it stands for. -/
  | handle (name stem : String)
  /-- The line `---`. -/
  | documentStart
  /-- The line `...`. -/
  | documentEnd
  /-- An indented sequence begins. -/
  | blockSequence
  /-- An indented mapping begins. -/
  | blockMapping
  /-- An indented collection ends. -/
  | blockEnd
  /-- A bracket that opens a sequence. -/
  | flowSequence
  /-- A bracket that closes a sequence. -/
  | flowSequenceEnd
  /-- A brace that opens a mapping. -/
  | flowMapping
  /-- A brace that closes a mapping. -/
  | flowMappingEnd
  /-- The hyphen before an item. -/
  | item
  /-- The comma between entries. -/
  | comma
  /-- A key follows. -/
  | key
  /-- A value follows. -/
  | value
  /-- An alias, with the name of its anchor. -/
  | reference (name : String)
  /-- An anchor, with its name. -/
  | anchor (name : String)
  /-- A tag: its handle, empty if it is written out in full, and the rest of it. -/
  | tag (handle suffix : String)
  /-- A scalar: whether it is plain, and its text. -/
  | scalar (plain : Bool) (text : String)
  deriving DecidableEq, Repr

end PortSurvey.Yaml
