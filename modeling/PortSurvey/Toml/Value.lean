/-!
# Values of a configuration document

A value is a text, a number, a truth value, a moment in time, an array or a table. A table
remembers how it came about, because that decides where keys may still be added to it, and rows are
an array of tables that headers make one by one. `Value.alter` changes the table that a path leads
to; `Value.withPair`, `Value.withHeader` and `Value.withRow` add to a table what a line says.
-/

namespace PortSurvey.Toml

/-- How a table came about. -/
inductive Shape
  /-- By a header of its own. -/
  | header
  /-- By the header of a table inside it. -/
  | implied
  /-- By a key with dots. -/
  | dotted
  /-- On one line, complete. -/
  | inline
  deriving DecidableEq, Repr

/-- A value. -/
inductive Value
  /-- A text. -/
  | string (s : String)
  /-- A whole number. -/
  | whole (n : Int)
  /-- A binary number of 64 bits, as its bits. -/
  | binary (bits : UInt64)
  /-- A truth value. -/
  | bool (b : Bool)
  /-- A date, a time or both, as it is spelled. -/
  | moment (spelling : String)
  /-- An array, complete. -/
  | array (items : List Value)
  /-- An array of tables that further headers may add to. -/
  | rows (tables : List Value)
  /-- A table: its keys and their values, in the order in which they came. -/
  | table (shape : Shape) (entries : List (String × Value))

namespace Value

/-- What a list of entries holds under a key. -/
def valueOf? (entries : List (String × Value)) (key : String) : Option Value :=
  (entries.find? (·.1 == key)).map (·.2)

/-- A list of entries with another value under a key that it has. -/
def setEntry (entries : List (String × Value)) (key : String) (value : Value) :
    List (String × Value) :=
  entries.map fun e => if e.1 == key then (key, value) else e

/-- Applies a change to the table that a value is or, for rows, to the last of its tables. Tables on
one line are complete, and keys with dots do not lead into tables with a header. -/
def inTable? (dotted : Bool) (change : Value → Option Value) : Value → Option Value
  | .table shape entries =>
    if shape == .inline || (dotted && shape == .header) then none
    else change (.table shape entries)
  | .rows tables =>
    match tables.getLast? with
    | some t => (change t).map fun t => .rows (tables.dropLast ++ [t])
    | none => none
  | _ => none

/-- Changes the table that a path leads to, and makes the tables on the way that are missing. -/
def alter (dotted : Bool) (change : Value → Option Value) : List String → Value → Option Value
  | [], v => change v
  | key :: path, .table shape entries =>
    match valueOf? entries key with
    | none =>
      (alter dotted change path (.table (if dotted then .dotted else .implied) [])).map
        fun inner => .table shape (entries ++ [(key, inner)])
    | some v =>
      (inTable? dotted (alter dotted change path) v).map
        fun inner => .table shape (setEntry entries key inner)
  | _ :: _, _ => none

/-- Adds a key with its value to a table, where dots lead along `path`. A table that came about by
dots takes keys by dots only, and any other table takes none by dots. -/
def withPair (path : List String) (key : String) (value : Value) (t : Value) : Option Value :=
  alter true (fun inner =>
    match inner with
    | .table shape entries =>
      if (shape == .dotted) == path.isEmpty || (valueOf? entries key).isSome then none
      else some (.table shape (entries ++ [(key, value)]))
    | _ => none) path t

/-- Adds the table of a header. A table that the headers of others implied takes the header. -/
def withHeader (path : List String) (key : String) (t : Value) : Option Value :=
  alter false (fun inner =>
    match inner with
    | .table shape entries =>
      match valueOf? entries key with
      | none => some (.table shape (entries ++ [(key, .table .header [])]))
      | some (.table .implied known) =>
        some (.table shape (setEntry entries key (.table .header known)))
      | some _ => none
    | _ => none) path t

/-- Adds a row to the rows of a header. -/
def withRow (path : List String) (key : String) (t : Value) : Option Value :=
  alter false (fun inner =>
    match inner with
    | .table shape entries =>
      match valueOf? entries key with
      | none => some (.table shape (entries ++ [(key, .rows [.table .header []])]))
      | some (.rows tables) =>
        some (.table shape (setEntry entries key (.rows (tables ++ [.table .header []]))))
      | some _ => none
    | _ => none) path t

/-- Adds pairs to a table, one after the other. -/
def withPairs (pairs : List ((List String × String) × Value)) (t : Value) : Option Value :=
  pairs.foldlM (fun t p => withPair p.1.1 p.1.2 p.2 t) t

end Value

end PortSurvey.Toml
