/-!
# Nodes of a document

A document is a tree of scalars, sequences and mappings, with references to anchored nodes in it.
Anchors are numbered: each takes as its number how many names were known before it, a reference
means the number that its name had last, and a number means the node that took it last.
-/

namespace PortSurvey.Yaml

/-- A node of a document. -/
inductive Node
  /-- A reference to the node with this anchor number. -/
  | reference (anchor : Nat)
  /-- A scalar: its tag, whether it is plain, and its text. -/
  | scalar (tag : Option String) (plain : Bool) (text : String)
  /-- A sequence, with its tag. -/
  | sequence (tag : Option String) (items : List Node)
  /-- A mapping, with its tag. -/
  | mapping (tag : Option String) (entries : List (Node × Node))

/-- A node that took an anchor number. -/
structure Anchored where
  /-- The number. -/
  number : Nat
  /-- How many anchored nodes began before this one. -/
  order : Nat
  /-- The node. -/
  node : Node

/-- A document. -/
structure Document where
  /-- The node that the document holds; none if the stream was empty. -/
  root : Option Node
  /-- The anchored nodes. -/
  anchors : List Anchored
  /-- The number of scalars and references and of ends of collections. -/
  size : Nat

/-- The node that an anchor number means: the one that took it last. -/
def Document.anchored? (d : Document) (number : Nat) : Option Node :=
  let candidates := d.anchors.filter (·.number == number)
  (candidates.foldl (fun best a =>
    match best with
    | some (b : Anchored) => if b.order ≤ a.order then some a else some b
    | none => some a) none).map (·.node)

end PortSurvey.Yaml
