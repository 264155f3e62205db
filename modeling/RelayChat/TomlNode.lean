/-!
# Trees of TOML values

What a TOML document says: named values, lists and tables. A table remembers
how it came to be, because that decides what may still be added to it: a table
that only a longer header implied may get its own header once, a table made by
dotted keys may be extended by dotted keys alone, and an inline table is closed.
Numbers with a fraction and points in time are recognised and carry no value.
-/

namespace RelayChat

/-- How a table came to be. -/
inductive TomlOrigin where
  /-- It has its own header, or is the document itself. -/
  | header
  /-- A longer header went through it. -/
  | implied
  /-- Dotted keys made it. -/
  | dotted
deriving DecidableEq, Repr

/-- A value in a document. -/
inductive TomlNode where
  /-- A text. -/
  | text (value : String)
  /-- A whole number. -/
  | integer (value : Int)
  /-- A number that is not whole. -/
  | float
  /-- A truth value. -/
  | boolean (value : Bool)
  /-- A date, a time of day or both. -/
  | moment
  /-- A list written in brackets. -/
  | array (items : List TomlNode)
  /-- A table written in braces. -/
  | inlineTable (entries : List (String × TomlNode))
  /-- A table written line by line. -/
  | table (origin : TomlOrigin) (entries : List (String × TomlNode))
  /-- The tables of a repeated header, the last one last. -/
  | tables (items : List (List (String × TomlNode)))
deriving Repr

/-- The named values of a table, in the order in which they were written. -/
abbrev TomlEntries := List (String × TomlNode)

namespace TomlEntries

/-- The value of a name. -/
def find? (entries : TomlEntries) (name : String) : Option TomlNode :=
  List.lookup name entries

/-- Gives a name a value, in its old place or at the end. -/
def put (entries : TomlEntries) (name : String) (node : TomlNode) : TomlEntries :=
  if (entries.find? name).isSome then
    entries.map fun entry => if entry.1 == name then (name, node) else entry
  else entries ++ [(name, node)]

/-- A table on the way through a document: how it came to be and what is in it. -/
structure Place where
  /-- How the table came to be. -/
  origin : TomlOrigin
  /-- What is in it. -/
  entries : TomlEntries

/-- Changes the table that a path leads to, making the tables that are missing
on the way. A repeated header leads to its last table. Dotted keys do not go
through a table with a header of its own; nothing goes through other values. -/
def within (made : TomlOrigin) (change : Place → Option TomlEntries) :
    List String → Place → Option TomlEntries
  | [], place => change place
  | key :: path, place =>
    match place.entries.find? key with
    | none => do
      let child ← within made change path ⟨made, []⟩
      return place.entries.put key (.table made child)
    | some (.table origin entries) =>
      if made = .dotted ∧ origin = .header then none
      else do
        let child ← within made change path ⟨origin, entries⟩
        return place.entries.put key (.table origin child)
    | some (.tables items) => do
      let last ← items.getLast?
      let child ← within made change path ⟨.header, last⟩
      return place.entries.put key (.tables (items.dropLast ++ [child]))
    | some _ => none

/-- Adds a name with its value, which must be new. -/
def addNew (name : String) (node : TomlNode) (place : Place) : Option TomlEntries :=
  if (place.entries.find? name).isSome then none
  else some (place.entries.put name node)

/-- Adds a value under a dotted key. The table that the key leads to must have
been made by dotted keys too, unless the key has a single part. -/
def addPair (path : List String) (name : String) (node : TomlNode) (place : Place) :
    Option TomlEntries :=
  within .dotted
    (fun reached =>
      if !path.isEmpty && reached.origin != .dotted then none else addNew name node reached)
    path place

/-- Opens the table of a header that names it within its parent. -/
def openTable (name : String) (place : Place) : Option TomlEntries :=
  match place.entries.find? name with
  | none => some (place.entries.put name (.table .header []))
  | some (.table .implied entries) => some (place.entries.put name (.table .header entries))
  | some _ => none

/-- Opens one more table of a repeated header. -/
def openNext (name : String) (place : Place) : Option TomlEntries :=
  match place.entries.find? name with
  | none => some (place.entries.put name (.tables [[]]))
  | some (.tables items) => some (place.entries.put name (.tables (items ++ [[]])))
  | some _ => none

end TomlEntries

namespace TomlNode

/-- A field of a record. A record is written as a table, or as the list of its
fields in their order; a point in time counts as a record without known fields.
`none` for a value that is no record, `some none` for a field that is absent. -/
def field? (node : TomlNode) (index : Nat) (name : String) : Option (Option TomlNode) :=
  match node with
  | table _ entries | inlineTable entries => some (TomlEntries.find? entries name)
  | array items => some items[index]?
  | tables items => some (items[index]?.map (table .header ·))
  | moment => some none
  | text _ | integer _ | float | boolean _ => none

/-- The text of a value that is one. -/
def text? : TomlNode → Option String
  | text value => some value
  | _ => none

/-- The number of a value that is a whole number from zero to `bound`. -/
def upTo? (bound : Nat) : TomlNode → Option Nat
  | integer value => if 0 ≤ value ∧ value ≤ bound then some value.toNat else none
  | _ => none

end TomlNode

end RelayChat
