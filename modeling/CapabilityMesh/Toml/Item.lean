/-
What a TOML document holds, and how dotted keys and headers build up its
tables.  A table that a value writes is closed; one that a header or a dotted
key opens may get further entries, as long as nothing is defined twice.
-/

namespace CapabilityMesh

namespace Toml

/-- How a table came to be. -/
inductive Origin where
  /-- Named by a header of its own. -/
  | headed
  /-- Named on the way to another header. -/
  | implied
  /-- Named by the front of a dotted key. -/
  | dotted
deriving Repr, DecidableEq

/-- A value, or a table that is still open. -/
inductive Item where
  | text (value : String)
  | integer (value : Int)
  | boolean (value : Bool)
  /-- A number with a fraction or an exponent. -/
  | fraction
  /-- A date or a time. -/
  | moment
  | array (items : List Item)
  | inline (entries : List (String × Item))
  | table (origin : Origin) (entries : List (String × Item))
  | tables (rows : List (List (String × Item)))
deriving Repr

/-- The entries of a table, each key once. -/
abbrev Entries := List (String × Item)

namespace Entries

def get? (entries : Entries) (key : String) : Option Item :=
  List.lookup key entries

def replace (entries : Entries) (key : String) (item : Item) : Entries :=
  entries.map fun entry => if entry.1 == key then (key, item) else entry

/-- Add an entry under a dotted key.  `mayAdd` says whether the table reached so
far takes entries of that kind. -/
def add? (key : String) (item : Item) : List String → Bool → Entries → Option Entries
  | [], mayAdd, entries =>
      if mayAdd && (entries.get? key).isNone then some (entries ++ [(key, item)]) else none
  | name :: names, _, entries =>
      match entries.get? name with
      | none => do
          let inner ← add? key item names true []
          some (entries ++ [(name, .table .dotted inner)])
      | some (.table .headed _) => none
      | some (.table origin inner) => do
          let inner ← add? key item names (origin == .dotted) inner
          some (entries.replace name (.table origin inner))
      | some (.tables rows) => do
          let row ← rows.getLast?
          let row ← add? key item names false row
          some (entries.replace name (.tables (rows.dropLast ++ [row])))
      | some _ => none

/-- Change the table that a header names, opening the tables on the way. -/
def modify? (change : Entries → Option Entries) : List String → Entries → Option Entries
  | [], entries => change entries
  | name :: names, entries =>
      match entries.get? name with
      | none => do
          let inner ← modify? change names []
          some (entries ++ [(name, .table .implied inner)])
      | some (.table origin inner) => do
          let inner ← modify? change names inner
          some (entries.replace name (.table origin inner))
      | some (.tables rows) => do
          let row ← rows.getLast?
          let row ← modify? change names row
          some (entries.replace name (.tables (rows.dropLast ++ [row])))
      | some _ => none

/-- Open the table of a header.  One that was only implied before becomes the
header's own. -/
def openTable? (name : String) (entries : Entries) : Option Entries :=
  match entries.get? name with
  | none => some (entries ++ [(name, .table .headed [])])
  | some (.table .implied inner) => some (entries.replace name (.table .headed inner))
  | some _ => none

/-- Open another table in the list of a header. -/
def openRow? (name : String) (entries : Entries) : Option Entries :=
  match entries.get? name with
  | none => some (entries ++ [(name, .tables [[]])])
  | some (.tables rows) => some (entries.replace name (.tables (rows ++ [[]])))
  | some _ => none

end Entries

end Toml

end CapabilityMesh
