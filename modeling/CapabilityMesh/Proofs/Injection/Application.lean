/-
What an application may do with an injector, one deed at a time.  Every deed ends
at rest.
-/
import CapabilityMesh.Proofs.Injection.Writing

namespace CapabilityMesh

/-- One deed of an application. -/
inductive Deed where
  | wrap (tool : Tool) (mode : CallMode) (takes : ArgumentKind) (owned : List FunctionKey)
  /-- Take one more hold on a function that is still wrapped. -/
  | hold (key : FunctionKey)
  | drop (key : FunctionKey)
  /-- Look a function of a name up, to serve a capability. -/
  | find (capability function : String)
  /-- Take one more hold on a value that is at hand. -/
  | keep (value : Value)
  | discard (value : Value)
  | register (capability : String) (value : Value)
  | unregister (capability : String)
  | registerFor (function capability : String) (value : Value)
  | unregisterFor (function capability : String)
  | store (key : DependencyKey) (value : Value)
  | take (key : DependencyKey)
  | clearOwn (function : String)
deriving Repr, DecidableEq

namespace Heap

/-- Whether an application can come by a value: it makes texts, numbers and
providers itself, but a function of the process has to be there already. -/
def hasAtHand (h : Heap) (value : Value) : Bool :=
  value.target?.isNone || h.values.contains value
    || h.injector.table.any (fun entry => entry.2 == value)

end Heap

namespace Deed

/-- Do a deed.  What cannot be done leaves the heap as it is. -/
def perform (h : Heap) : Deed → Heap
  | wrap tool mode takes owned =>
      if owned.all h.hasHandle then (h.wrap tool mode takes owned).1 else h
  | hold key => if h.hasHandle key then h.holdHandle key else h
  | drop key => h.dropHandle key
  | find capability function =>
      match h.injector.localCapability? capability function with
      | some l => h.holdValue (.inProcess l)
      | none => h
  | keep value => if h.hasAtHand value then h.holdValue value else h
  | discard value => h.dropValue value
  | register capability value =>
      if h.hasAtHand value then h.register capability value else h
  | unregister capability => (h.unregister capability).1
  | registerFor function capability value =>
      if h.hasAtHand value then h.registerFor function capability value else h
  | unregisterFor function capability => (h.unregisterFor function capability).1
  | store key value => if h.hasAtHand value then (h.store key value).1 else h
  | take key => (h.take key).1
  | clearOwn function => (h.clearOwn function).1

/-- Whether a deed writes no value that belongs to the functions of one name. -/
def keepsToShared : Deed → Bool
  | registerFor _ _ _ | unregisterFor _ _ | clearOwn _ => false
  | store (.own _ _) _ | take (.own _ _) => false
  | _ => true

theorem perform_atRest {h : Heap} (hrest : h.AtRest) (d : Deed) :
    (d.perform h).AtRest := by
  cases d with
  | wrap tool mode takes owned =>
      simp only [perform]
      split
      · exact Heap.wrap_atRest hrest tool mode takes owned
      · exact hrest
  | hold key =>
      simp only [perform]
      split
      · exact ⟨hrest.held, hrest.loose⟩
      · exact hrest
  | drop key => exact (Heap.dropHandle_spec hrest key).1
  | find capability function =>
      simp only [perform]
      split
      · exact ⟨hrest.held, hrest.loose⟩
      · exact hrest
  | keep value =>
      simp only [perform]
      split
      · exact ⟨hrest.held, hrest.loose⟩
      · exact hrest
  | discard value => exact (Heap.dropValue_spec hrest value).1
  | register capability value =>
      simp only [perform]
      split
      · exact (Heap.register_spec hrest capability value).1
      · exact hrest
  | unregister capability => exact (Heap.unregister_spec hrest capability).1
  | registerFor function capability value =>
      simp only [perform]
      split
      · exact (Heap.put_spec hrest (.own function capability) value).1
      · exact hrest
  | unregisterFor function capability =>
      exact (Heap.clear_spec hrest (.own function capability)).1
  | store key value =>
      simp only [perform]
      split
      · exact Heap.store_atRest hrest key value
      · exact hrest
  | take key => exact Heap.take_atRest hrest key
  | clearOwn function => exact (Heap.clearOwn_spec hrest function).1

end Deed

end CapabilityMesh
