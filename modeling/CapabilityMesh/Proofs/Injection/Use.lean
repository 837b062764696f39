/-
How applications and agents use a heap, one elementary use at a time.  A usage says
which functions are wrapped and which values are stored.  What every use that a usage
allows keeps is kept by all that an application or an agent does under that usage.
-/
import CapabilityMesh.Proofs.Injection.Application
import CapabilityMesh.Proofs.Injection.Newest

namespace CapabilityMesh

/-- What may be wrapped with which handles of its own, and what may be stored. -/
structure Usage where
  wraps : Tool → List FunctionKey → Prop
  stores : DependencyKey → Value → Prop

namespace Usage

/-- Everything may be wrapped and stored. -/
def any : Usage := ⟨fun _ _ => True, fun _ _ => True⟩

/-- Nothing may be wrapped. -/
def wrapless : Usage := ⟨fun _ _ => False, fun _ _ => True⟩

end Usage

namespace Injector

theorem localCapability?_some {i : Injector} {capability name : String}
    {l : LocalCapability} (hl : i.localCapability? capability name = some l) :
    l.capability = capability ∧ l.key.name = name ∧ (i.find? l.key).isSome = true := by
  obtain ⟨f, hf, rfl⟩ := Option.map_eq_some_iff.mp hl
  have hmem : f ∈ i.newest := List.mem_of_find?_eq_some hf
  have hname : f.key.name = name := by simpa using List.find?_some hf
  refine ⟨rfl, hname, ?_⟩
  rw [find?, List.find?_isSome]
  exact ⟨f, ((newest_represents i).newest f hmem).1, by simp⟩

end Injector

namespace Heap

/-- Whether a value can be come by: it is at hand, or a wrapped function is looked
up. -/
def Provides (h : Heap) (value : Value) : Prop :=
  h.hasAtHand value = true ∨
    ∃ (capability name : String) (l : LocalCapability),
      h.injector.localCapability? capability name = some l ∧ value = .inProcess l

/-- At hand is what the application can make, what it holds and what the table has. -/
theorem hasAtHand_iff (h : Heap) (value : Value) :
    h.hasAtHand value = true ↔
      value.target? = none ∨ value ∈ h.values ∨ ∃ entry ∈ h.injector.table, entry.2 = value := by
  simp [hasAtHand, or_assoc]

/-- One use of a heap. -/
inductive Use (u : Usage) (h : Heap) : Heap → Prop where
  | logged (lines : List LogEntry) : Use u h { h with logged := lines }
  | wrap {tool : Tool} {mode : CallMode} {takes : ArgumentKind}
      {owned : List FunctionKey} (hallowed : u.wraps tool owned)
      (howned : owned.all h.hasHandle = true) :
      Use u h (h.wrap tool mode takes owned).1
  | holdHandle {key : FunctionKey} (hkey : h.hasHandle key = true) :
      Use u h (h.holdHandle key)
  | holdValue {value : Value} (hvalue : h.Provides value) : Use u h (h.holdValue value)
  | store {key : DependencyKey} {value : Value} (hallowed : u.stores key value)
      (hvalue : h.Provides value) : Use u h (h.store key value).1
  | take (key : DependencyKey) : Use u h (h.take key).1
  | dropHandle (key : FunctionKey) : Use u h (h.dropHandle key)
  | dropValue (value : Value) : Use u h (h.dropValue value)
  | clearOwn (function : String) : Use u h (h.clearOwn function).1

/-- Several uses of a heap, one after the other. -/
inductive Uses (u : Usage) (h : Heap) : Heap → Prop where
  | refl : Uses u h h
  | next {middle later : Heap} (hfirst : Uses u h middle) (hlast : Use u middle later) :
      Uses u h later

theorem Use.uses {u : Usage} {h later : Heap} (huse : Use u h later) : Uses u h later :=
  .next .refl huse

theorem Uses.trans {u : Usage} {h middle later : Heap} (hfirst : Uses u h middle)
    (hlast : Uses u middle later) : Uses u h later := by
  induction hlast with
  | refl => exact hfirst
  | next _ huse ih => exact ih.next huse

theorem Uses.keeps {u : Usage} {P : Heap → Prop}
    (huse : ∀ {h later : Heap}, Use u h later → P h → P later) {h later : Heap}
    (huses : Uses u h later) (hP : P h) : P later := by
  induction huses with
  | refl => exact hP
  | next _ hlast ih => exact huse hlast ih

theorem Use.atRest {u : Usage} {h later : Heap} (huse : Use u h later)
    (hrest : h.AtRest) : later.AtRest := by
  cases huse with
  | logged lines => exact ⟨hrest.held, hrest.loose⟩
  | wrap => exact wrap_atRest hrest _ _ _ _
  | holdHandle => exact ⟨hrest.held, hrest.loose⟩
  | holdValue => exact ⟨hrest.held, hrest.loose⟩
  | store => exact store_atRest hrest _ _
  | take key => exact take_atRest hrest key
  | dropHandle key => exact (dropHandle_spec hrest key).1
  | dropValue value => exact (dropValue_spec hrest value).1
  | clearOwn function => exact (clearOwn_spec hrest function).1

section Operations

variable {u : Usage}

theorem note_uses (h : Heap) (entry : LogEntry) : Uses u h (h.note entry) :=
  (Use.logged (entry :: h.logged)).uses

theorem dropValues_uses (h : Heap) (values : List Value) :
    Uses u h (h.dropValues values) := by
  induction values generalizing h with
  | nil => exact .refl
  | cons value rest ih => exact (Use.dropValue value).uses.trans (ih (h.dropValue value))

theorem put_uses {h : Heap} {key : DependencyKey} {value : Value}
    (hallowed : u.stores key value) (hvalue : h.Provides value) :
    Uses u h (h.put key value) :=
  (Use.store hallowed hvalue).uses.trans (dropValues_uses _ _)

theorem clear_uses (h : Heap) (key : DependencyKey) : Uses u h (h.clear key).1 :=
  (Use.take key).uses.trans (dropValues_uses _ _)

theorem register_uses {h : Heap} {capability : String} {value : Value}
    (hallowed : u.stores (.shared capability) value) (hvalue : h.Provides value) :
    Uses u h (h.register capability value) :=
  (put_uses hallowed hvalue).trans (note_uses _ _)

theorem unregister_uses (h : Heap) (capability : String) :
    Uses u h (h.unregister capability).1 := by
  have hclear := clear_uses (u := u) h (.shared capability)
  simp only [unregister]
  split
  · exact hclear.trans (note_uses _ _)
  · exact hclear

end Operations

end Heap

namespace Deed

/-- Whether a deed wraps and stores nothing but what a usage allows. -/
def Follows (u : Usage) : Deed → Prop
  | wrap tool _ _ owned => u.wraps tool owned
  | register capability value => u.stores (.shared capability) value
  | registerFor function capability value => u.stores (.own function capability) value
  | store key value => u.stores key value
  | hold _ | drop _ | find _ _ | keep _ | discard _ | unregister _
  | unregisterFor _ _ | take _ | clearOwn _ => True

theorem follows_any (d : Deed) : d.Follows .any := by
  cases d <;> exact trivial

theorem perform_uses {u : Usage} (h : Heap) {d : Deed} (hd : d.Follows u) :
    Heap.Uses u h (d.perform h) := by
  cases d with
  | wrap tool mode takes owned =>
      simp only [perform]
      split
      · rename_i howned
        exact (Heap.Use.wrap hd howned).uses
      · exact .refl
  | hold key =>
      simp only [perform]
      split
      · rename_i hkey
        exact (Heap.Use.holdHandle hkey).uses
      · exact .refl
  | drop key => exact (Heap.Use.dropHandle key).uses
  | find capability function =>
      simp only [perform]
      split
      · rename_i l hl
        exact (Heap.Use.holdValue (Or.inr ⟨capability, function, l, hl, rfl⟩)).uses
      · exact .refl
  | keep value =>
      simp only [perform]
      split
      · rename_i hvalue
        exact (Heap.Use.holdValue (Or.inl hvalue)).uses
      · exact .refl
  | discard value => exact (Heap.Use.dropValue value).uses
  | register capability value =>
      simp only [perform]
      split
      · rename_i hvalue
        exact Heap.register_uses hd (Or.inl hvalue)
      · exact .refl
  | unregister capability => exact Heap.unregister_uses h capability
  | registerFor function capability value =>
      simp only [perform]
      split
      · rename_i hvalue
        exact Heap.put_uses hd (Or.inl hvalue)
      · exact .refl
  | unregisterFor function capability => exact Heap.clear_uses h _
  | store key value =>
      simp only [perform]
      split
      · rename_i hvalue
        exact (Heap.Use.store hd (Or.inl hvalue)).uses
      · exact .refl
  | take key => exact (Heap.Use.take key).uses
  | clearOwn function => exact (Heap.Use.clearOwn function).uses

end Deed

end CapabilityMesh
