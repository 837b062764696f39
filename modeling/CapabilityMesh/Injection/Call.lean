/-
What a call of a wrapped function receives for its dependencies.
-/
import CapabilityMesh.Injection.Table
import CapabilityMesh.Tool.Basic

namespace CapabilityMesh

/-- Values that a caller gives by parameter, each parameter once.  A parameter
without a value is to stay unresolved. -/
abbrev CallOverrides := List (String × Option Value)

namespace CallOverrides

/-- Give a value for a parameter, or none, in the place of an earlier choice. -/
def set (overrides : CallOverrides) (parameter : String) (value : Option Value) :
    CallOverrides :=
  overrides.filter (fun entry => entry.1 ≠ parameter) ++ [(parameter, value)]

def get? (overrides : CallOverrides) (parameter : String) : Option (Option Value) :=
  List.lookup parameter overrides

def erase (overrides : CallOverrides) (parameter : String) : CallOverrides :=
  overrides.filter fun entry => entry.1 ≠ parameter

end CallOverrides

/-- What a call receives: for each declared parameter its value, in the order of
declaration. -/
abbrev Dependencies := List (String × Option Value)

namespace Dependencies

/-- The value of a parameter; the first of its name counts. -/
def get? (d : Dependencies) (parameter : String) : Option Value :=
  (List.lookup parameter d).join

def isResolved (d : Dependencies) (parameter : String) : Bool :=
  (d.get? parameter).isSome

def text? (d : Dependencies) (parameter : String) : Option String :=
  match d.get? parameter with
  | some (.text text) => some text
  | _ => none

def values (d : Dependencies) : List Value :=
  d.filterMap Prod.snd

/-- Resolve the dependencies of a function.  A caller's choice goes before the
table, and serves one parameter only. -/
def resolve (table : DependencyTable) (function : String) :
    List Dependency → CallOverrides → Dependencies
  | [], _ => []
  | d :: ds, overrides =>
      match overrides.get? d.parameter with
      | some choice =>
          (d.parameter, choice) :: resolve table function ds (overrides.erase d.parameter)
      | none =>
          (d.parameter, table.resolve function d.capability)
            :: resolve table function ds overrides

end Dependencies

end CapabilityMesh
