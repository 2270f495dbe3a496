/-!
# Dictionaries

A `Dict` is a list of keys with their values in ascending order of the keys, each key once.
`insert` keeps the order and gives a known key its new value; two dictionaries with the same
entries are equal. `ascending` puts the members of a list into order, each once.
-/

namespace PortSurvey

/-- Keys with their values, in ascending order of the keys. -/
abbrev Dict (α β : Type) := List (α × β)

namespace Dict

variable {α β : Type} [DecidableEq α] [LT α] [DecidableLT α]

/-- Puts a key where the order wants it; a known key takes the new value. -/
def insert : Dict α β → α → β → Dict α β
  | [], k, v => [(k, v)]
  | (k', v') :: rest, k, v =>
    if k = k' then (k, v) :: rest
    else if k < k' then (k, v) :: (k', v') :: rest
    else (k', v') :: insert rest k v

/-- The value of a key. -/
def find? (d : Dict α β) (k : α) : Option β :=
  (List.find? (fun e => e.1 = k) d).map (·.2)

/-- Whether a key has a value. -/
def has (d : Dict α β) (k : α) : Bool :=
  d.any (fun e => e.1 = k)

/-- The dictionary of a list of entries, of which later ones prevail. -/
def ofList (entries : List (α × β)) : Dict α β :=
  entries.foldl (fun d e => d.insert e.1 e.2) []

/-- The keys in ascending order. -/
def keys (d : Dict α β) : List α :=
  d.map (·.1)

/-- The values in the order of their keys. -/
def values (d : Dict α β) : List β :=
  d.map (·.2)

/-- Changes the value of a key, which is `first` if there was none. -/
def update (d : Dict α β) (k : α) (first : β) (f : β → β) : Dict α β :=
  d.insert k (match d.find? k with
    | some v => f v
    | none => first)

end Dict

/-- Puts a member into an ascending list, unless it is there. -/
def insertOnce {α : Type} [DecidableEq α] [LT α] [DecidableLT α] (a : α) : List α → List α
  | [] => [a]
  | b :: rest =>
    if a = b then b :: rest
    else if a < b then a :: b :: rest
    else b :: insertOnce a rest

/-- The members of a list in ascending order, each once. -/
def ascending {α : Type} [DecidableEq α] [LT α] [DecidableLT α] (l : List α) : List α :=
  l.foldr insertOnce []

end PortSurvey
