/-
What an application does with an injector: it wraps functions, and stores values
for their dependencies.
-/
import CapabilityMesh.Injection.Heap

namespace CapabilityMesh

namespace Heap

/-- Wrap a function.  The caller gets a handle, and the code gets handles of its
own to the functions in `owned`. -/
def wrap (h : Heap) (tool : Tool) (mode : CallMode) (takes : ArgumentKind)
    (owned : List FunctionKey) : Heap × FunctionKey :=
  let key := h.injector.nextKey tool.function
  let code : FunctionCode := ⟨key, tool, mode, takes, owned⟩
  let h := { h with
    injector := h.injector.track tool mode
    codes := h.codes ++ [code]
    handles := key :: h.handles }
  (h.note (.debug
      s!"[INJECT] Wrapped {key.render} with {tool.dependencies.length} dependencies"),
    key)

/-- Store a value that the caller gives away.  The value that was there before
is given to the caller. -/
def store (h : Heap) (key : DependencyKey) (value : Value) : Heap × Option Value :=
  let old := h.injector.table.get? key
  let word := if old.isSome then "Replaced" else "Registered"
  let h := { h with
    injector := { h.injector with table := h.injector.table.insert key value }
    values := old.toList ++ h.values }
  (h.note (.debug s!"[INJECT] {word} {key.describe}"), old)

def take (h : Heap) (key : DependencyKey) : Heap × Option Value :=
  match h.injector.table.get? key with
  | some old =>
      let h := { h with
        injector := { h.injector with table := h.injector.table.erase key }
        values := old :: h.values }
      (h.note (.debug s!"[INJECT] Unregistered {key.describe}"), some old)
  | none => (h, none)

/-- Store a value and let go of the one before. -/
def put (h : Heap) (key : DependencyKey) (value : Value) : Heap :=
  let (h, old) := h.store key value
  h.dropValues old.toList

/-- Clear a key.  The result says whether it had a value. -/
def clear (h : Heap) (key : DependencyKey) : Heap × Bool :=
  let (h, old) := h.take key
  (h.dropValues old.toList, old.isSome)

def register (h : Heap) (capability : String) (value : Value) : Heap :=
  let h := h.put (.shared capability) value
  let count := (h.injector.dependentsOf capability).length
  h.note (.info s!"[INJECT] Registered '{capability}' ({count} dependent functions)")

/-- Clear the value of a capability for every function.  The result says whether
there was one. -/
def unregister (h : Heap) (capability : String) : Heap × Bool :=
  let (h, found) := h.clear (.shared capability)
  (if found then h.note (.info s!"[INJECT] Unregistered '{capability}'") else h, found)

def registerFor (h : Heap) (function capability : String) (value : Value) : Heap :=
  h.put (.own function capability) value

/-- Clear the value of a capability for the functions of a name.  The result says
whether there was one. -/
def unregisterFor (h : Heap) (function capability : String) : Heap × Bool :=
  h.clear (.own function capability)

/-- Clear every value that belongs to the functions of a name, and count
them.  They go while the table is locked. -/
def clearOwn (h : Heap) (function : String) : Heap × Nat :=
  let gone := h.injector.table.ownOf function
  let h := { h with
    injector := { h.injector with table := h.injector.table.eraseOwn function }
    locks := h.locks + 1 }.letGo (gone.map .value)
  ({ h with locks := h.locks - 1 }, gone.length)

def isLive (h : Heap) (l : LocalCapability) : Bool :=
  h.hasHandle l.key

/-- Whether a local capability can be called in a mode with an argument of a
kind: its function is wrapped, and was made for that. -/
def fits (h : Heap) (l : LocalCapability) (mode : CallMode) (takes : ArgumentKind) : Bool :=
  l.mode == mode && h.isLive l &&
    match h.code? l.key with
    | some code => code.takes == takes
    | none => false

def dependencies (h : Heap) (code : FunctionCode) (overrides : CallOverrides) :
    Dependencies :=
  .resolve h.injector.table code.key.name code.tool.dependencies overrides

end Heap

end CapabilityMesh
