/-!
# Values of documents

A value is what a document holds once its references are followed and its scalars are read. A value
may carry a tag of the document's own; `Value.bare` sees through it. `get?`, `text?`, `items?` and
`entries?` see through tags too, so that only a direct match on the value tells a tagged one apart.
-/

namespace PortSurvey.Yaml

/-- A number of a document. -/
inductive Number
  /-- A whole number. -/
  | whole (n : Int)
  /-- A binary number of 64 bits, as its bits; there is one zero and one that is no number. -/
  | binary (bits : UInt64)
  deriving DecidableEq, Repr

/-- A value of a document. -/
inductive Value
  /-- No value. -/
  | null
  /-- A truth value. -/
  | bool (b : Bool)
  /-- A number. -/
  | number (n : Number)
  /-- A text. -/
  | string (s : String)
  /-- A sequence of values. -/
  | sequence (items : List Value)
  /-- Keys and their values, in the order of the document. -/
  | mapping (entries : List (Value × Value))
  /-- A value with a tag of the document's own. -/
  | tagged (tag : String) (inner : Value)

namespace Value

mutual

/-- Whether two values are the same. The order of the entries of a mapping means nothing. -/
def same : Value → Value → Bool
  | .null, .null => true
  | .bool a, .bool b => a == b
  | .number a, .number b => a == b
  | .string a, .string b => a == b
  | .sequence xs, .sequence ys => sameItems xs ys
  | .mapping xs, .mapping ys => xs.length == ys.length && sameEntries xs ys
  | .tagged s a, .tagged t b => s == t && same a b
  | _, _ => false

/-- Whether two lists of values are the same, item by item. -/
def sameItems : List Value → List Value → Bool
  | [], [] => true
  | x :: xs, y :: ys => same x y && sameItems xs ys
  | _, _ => false

/-- Whether each entry is among others. -/
def sameEntries : List (Value × Value) → List (Value × Value) → Bool
  | [], _ => true
  | (k, v) :: rest, ys => ys.any (fun e => same k e.1 && same v e.2) && sameEntries rest ys

end

/-- A value without its tag. -/
def bare : Value → Value
  | .tagged _ inner => bare inner
  | v => v

/-- The text of a value that is one, with or without a tag. -/
def text? (v : Value) : Option String :=
  match v.bare with
  | .string s => some s
  | _ => none

/-- The items of a value that is a sequence, with or without a tag. -/
def items? (v : Value) : Option (List Value) :=
  match v.bare with
  | .sequence items => some items
  | _ => none

/-- The entries of a value that is a mapping, with or without a tag. -/
def entries? (v : Value) : Option (List (Value × Value)) :=
  match v.bare with
  | .mapping entries => some entries
  | _ => none

/-- Whether a value is the text `name`, without a tag. -/
def isName (name : String) : Value → Bool
  | .string s => s == name
  | _ => false

/-- What a mapping, with or without a tag, holds under the key `name`. The key has no tag. -/
def get? (v : Value) (name : String) : Option Value :=
  v.entries?.bind fun entries => (entries.find? (fun e => e.1.isName name)).map (·.2)

end Value

end PortSurvey.Yaml
