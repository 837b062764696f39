/-
The injector: which functions are wrapped, which of them need a capability, and
the table that their dependencies are resolved from.
-/
import CapabilityMesh.Injection.Table
import CapabilityMesh.Tool.Basic

namespace CapabilityMesh

/-- A wrapped function in the injector's books. -/
structure TrackedFunction where
  key : FunctionKey
  tool : Tool
  mode : CallMode
deriving Repr, DecidableEq

/-- The injector. -/
structure Injector where
  /-- The wrapped functions, in the order of wrapping. -/
  functions : List TrackedFunction := []
  /-- For each capability that a wrapped function needs, the functions that
  need it; none is listed twice. -/
  dependents : List (String × List FunctionKey) := []
  /-- The values that dependencies receive. -/
  table : DependencyTable := []
  /-- The number of the next function. -/
  nextId : Nat := 1
  /-- How often a function was wrapped or released. -/
  generation : Nat := 0
deriving Repr, DecidableEq

namespace Injector

def dependentsOf (i : Injector) (capability : String) : List FunctionKey :=
  (i.dependents.lookup capability).getD []

def addDependent (dependents : List (String × List FunctionKey)) (key : FunctionKey)
    (capability : String) : List (String × List FunctionKey) :=
  match dependents with
  | [] => [(capability, [key])]
  | (name, keys) :: rest =>
      if name = capability then
        (name, if keys.contains key then keys else keys ++ [key]) :: rest
      else (name, keys) :: addDependent rest key capability

/-- Strike a function from a capability's list.  A list that gets empty goes
away. -/
def removeDependent (dependents : List (String × List FunctionKey)) (key : FunctionKey)
    (capability : String) : List (String × List FunctionKey) :=
  dependents.filterMap fun (name, keys) =>
    if name = capability then
      match keys.filter (· ≠ key) with
      | [] => none
      | keys => some (name, keys)
    else some (name, keys)

def nextKey (i : Injector) (name : String) : FunctionKey :=
  ⟨name, i.nextId⟩

/-- Enter a function under the next key. -/
def track (i : Injector) (tool : Tool) (mode : CallMode) : Injector :=
  let key := i.nextKey tool.function
  { i with
    functions := i.functions ++ [⟨key, tool, mode⟩]
    dependents := tool.dependencies.foldl
      (fun dependents d => addDependent dependents key d.capability) i.dependents
    nextId := i.nextId + 1
    generation := i.generation + 1 }

def find? (i : Injector) (key : FunctionKey) : Option TrackedFunction :=
  i.functions.find? fun f => f.key = key

def isWrapped (i : Injector) (name : String) : Bool :=
  i.functions.any fun f => f.key.name == name

def forget (i : Injector) (f : TrackedFunction) : Injector :=
  { i with
    functions := i.functions.filter fun g => g.key ≠ f.key
    dependents := f.tool.dependencies.foldl
      (fun dependents d => removeDependent dependents f.key d.capability) i.dependents
    generation := i.generation + 1 }

/-- Put a function in the place of an older one of its name, in name order. -/
def insertNewest (f : TrackedFunction) : List TrackedFunction → List TrackedFunction
  | [] => [f]
  | g :: rest =>
      if f.key.name < g.key.name then f :: g :: rest
      else if f.key.name = g.key.name then
        (if f.key.id < g.key.id then g else f) :: rest
      else g :: insertNewest f rest

/-- The newest wrapped function of each name, in name order. -/
def newest (i : Injector) : List TrackedFunction :=
  i.functions.foldl (fun newest f => insertNewest f newest) []

def newestNamed? (i : Injector) (name : String) : Option TrackedFunction :=
  i.newest.find? fun f => f.key.name == name

/-- The declarations of the wrapped functions, one for each name. -/
def declaredTools (i : Injector) : List Tool :=
  i.newest.map TrackedFunction.tool

def localCapability? (i : Injector) (capability name : String) : Option LocalCapability :=
  (i.newestNamed? name).map fun f => ⟨capability, f.key, f.mode⟩

/-- Add a name to a list in order, unless it is there. -/
def insertName (name : String) : List String → List String
  | [] => [name]
  | first :: rest =>
      if name < first then name :: first :: rest
      else if name = first then first :: rest
      else first :: insertName name rest

def functionsNeeding (i : Injector) (capability : String) : List String :=
  (i.dependentsOf capability).foldl (fun names key => insertName key.name names) []

def resolve (i : Injector) (function capability : String) : Option Value :=
  i.table.resolve function capability

def describe (i : Injector) : String :=
  "DependencyInjector \x7b functions: " ++ toString i.functions.length
    ++ ", registry: " ++ i.table.describe ++ " \x7d"

end Injector

end CapabilityMesh
