/-
The table of dependency values: the current value of each key, in the order of
the keys.
-/
import CapabilityMesh.Injection.Value

namespace CapabilityMesh

/-- Values in the order of their keys, at most one for each key. -/
abbrev DependencyTable := List (DependencyKey × Value)

namespace DependencyTable

def get? (table : DependencyTable) (key : DependencyKey) : Option Value :=
  List.lookup key table

/-- Store a value, in the place of an earlier one of its key. -/
def insert : DependencyTable → DependencyKey → Value → DependencyTable
  | [], key, value => [(key, value)]
  | first :: rest, key, value =>
      if key.precedes first.1 then (key, value) :: first :: rest
      else if key = first.1 then (key, value) :: rest
      else first :: insert rest key value

def erase (table : DependencyTable) (key : DependencyKey) : DependencyTable :=
  table.filter fun entry => entry.1 ≠ key

def ownOf (table : DependencyTable) (function : String) : List Value :=
  (table.filter fun entry => entry.1.isOwnOf function).map Prod.snd

/-- Remove the values that belong to the functions of a name. -/
def eraseOwn (table : DependencyTable) (function : String) : DependencyTable :=
  table.filter fun entry => !entry.1.isOwnOf function

/-- What a function receives for a capability.  Its own value goes before the
shared one. -/
def resolve (table : DependencyTable) (function capability : String) : Option Value :=
  (table.get? (.own function capability)).or (table.get? (.shared capability))

/-- The keys that have a value, in order. -/
def keys (table : DependencyTable) : List DependencyKey :=
  table.map Prod.fst

def describe (table : DependencyTable) : String :=
  "DependencyRegistry \x7b keys: ["
    ++ ", ".intercalate (table.keys.map DependencyKey.describe) ++ "] \x7d"

end DependencyTable

end CapabilityMesh
