/-
Sets of labels, kept in ascending order.
-/

namespace CapabilityMesh

/-- Labels in ascending order, each once. -/
abbrev Tags := List String

namespace Tags

/-- Add a label at its place. -/
def insert : Tags → String → Tags
  | [], tag => [tag]
  | first :: rest, tag =>
      if tag < first then tag :: first :: rest
      else if tag = first then first :: rest
      else first :: insert rest tag

/-- Add labels, one after the other. -/
def insertAll (tags : Tags) (more : List String) : Tags :=
  more.foldl insert tags

/-- The set of some labels. -/
def ofList (tags : List String) : Tags :=
  insertAll [] tags

end Tags

end CapabilityMesh
