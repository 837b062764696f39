/-
What the operations of a heap do to the books of its injector.  Each of them makes
its own entry; whatever goes beyond that was released on the way.
-/
import CapabilityMesh.Injection.Binding
import CapabilityMesh.Proofs.Injection.Settling
import CapabilityMesh.Proofs.Injection.Table

namespace CapabilityMesh

namespace Heap

/-- A heap between two operations: the injector is held, and nothing is loose. -/
structure AtRest (h : Heap) : Prop where
  held : h.isHeld = true
  loose : h.loose = []

theorem atRest_empty : AtRest {} := ⟨rfl, rfl⟩

theorem AtRest.note {h : Heap} (hrest : h.AtRest) (entry : LogEntry) :
    (h.note entry).AtRest := ⟨hrest.held, hrest.loose⟩

/-- Letting go ends at rest, and all that it does to the books is to release
functions. -/
theorem letGo_spec {h : Heap} (hheld : h.isHeld = true) (things : List Loose) :
    (h.letGo things).AtRest ∧
      Injector.Releases h.injector (h.letGo things).injector := by
  refine ⟨⟨?_, settle_loose _⟩, ?_⟩
  · rw [letGo, settle_isHeld]
    exact hheld
  · exact settle_releases (h := { h with loose := things ++ h.loose }) hheld

theorem dropHandle_spec {h : Heap} (hrest : h.AtRest) (key : FunctionKey) :
    (h.dropHandle key).AtRest ∧
      Injector.Releases h.injector (h.dropHandle key).injector := by
  unfold dropHandle
  split
  · exact letGo_spec (h := { h with handles := h.handles.erase key }) hrest.held _
  · exact ⟨hrest, .refl⟩

theorem dropValue_spec {h : Heap} (hrest : h.AtRest) (value : Value) :
    (h.dropValue value).AtRest ∧
      Injector.Releases h.injector (h.dropValue value).injector := by
  unfold dropValue
  split
  · exact letGo_spec (h := { h with values := h.values.erase value }) hrest.held _
  · exact ⟨hrest, .refl⟩

theorem dropValues_spec {h : Heap} (hrest : h.AtRest) (values : List Value) :
    (h.dropValues values).AtRest ∧
      Injector.Releases h.injector (h.dropValues values).injector := by
  induction values generalizing h with
  | nil => exact ⟨hrest, .refl⟩
  | cons value rest ih =>
      have hfirst := dropValue_spec hrest value
      have hmore := ih hfirst.1
      exact ⟨hmore.1, hfirst.2.trans hmore.2⟩

theorem store_atRest {h : Heap} (hrest : h.AtRest) (key : DependencyKey)
    (value : Value) : (h.store key value).1.AtRest := ⟨hrest.held, hrest.loose⟩

theorem store_injector (h : Heap) (key : DependencyKey) (value : Value) :
    (h.store key value).1.injector =
      { h.injector with table := h.injector.table.insert key value } := rfl

theorem take_atRest {h : Heap} (hrest : h.AtRest) (key : DependencyKey) :
    (h.take key).1.AtRest := by
  unfold take
  split
  · exact ⟨hrest.held, hrest.loose⟩
  · exact hrest

theorem take_injector (h : Heap) (key : DependencyKey) :
    (h.take key).1.injector =
      { h.injector with table := h.injector.table.erase key } := by
  unfold take
  split
  · rfl
  · rename_i hnone
    rw [DependencyTable.erase_of_get?_eq_none hnone]

/-- Storing a value enters it; more is only lost with the value before. -/
theorem put_spec {h : Heap} (hrest : h.AtRest) (key : DependencyKey) (value : Value) :
    (h.put key value).AtRest ∧
      Injector.Releases { h.injector with table := h.injector.table.insert key value }
        (h.put key value).injector :=
  dropValues_spec (store_atRest hrest key value) _

/-- Clearing a key strikes it out; more is only lost with its value. -/
theorem clear_spec {h : Heap} (hrest : h.AtRest) (key : DependencyKey) :
    (h.clear key).1.AtRest ∧
      Injector.Releases { h.injector with table := h.injector.table.erase key }
        (h.clear key).1.injector := by
  have hdrop := dropValues_spec (take_atRest hrest key) (h.take key).2.toList
  rw [take_injector] at hdrop
  exact hdrop

theorem settleSteps_rest (steps : Nat) {h : Heap} (hloose : h.loose = []) :
    settleSteps steps h = h := by
  cases steps with
  | zero => rfl
  | succ n => rw [settleSteps, hloose]

theorem closeCode_held (h : Heap) {key : FunctionKey} (hheld : h.isCodeHeld key = true) :
    h.closeCode key = h := by
  rw [closeCode]
  split
  · rw [if_pos hheld]
  · rfl

/-- A value whose code is held elsewhere can be let go without any effect. -/
theorem letGo_held {h : Heap} (hloose : h.loose = []) {value : Value}
    (hheld : ∀ key, value.target? = some key → h.isCodeHeld key = true) :
    h.letGo [.value value] = h := by
  have hweight : ({ h with loose := [.value value] } : Heap).weight = h.weight + 1 := by
    simp only [weight_eq, hloose, looseWork_cons, looseWeight]
    omega
  have hloosened : ({ h with loose := [.value value] ++ h.loose } : Heap) =
      { h with loose := [.value value] } := by
    rw [hloose]
    rfl
  have hsame : ({ h with loose := [] } : Heap) = h := by
    rw [← hloose]
  have hstill : ({ h with loose := [] } : Heap).takeApart (.value value) = h := by
    rw [hsame, takeApart]
    cases htarget : value.target? with
    | none => rfl
    | some key => exact closeCode_held h (hheld key htarget)
  have hstep : settleSteps (h.weight + 1) { h with loose := [.value value] } =
      settleSteps h.weight (({ h with loose := [] } : Heap).takeApart (.value value)) :=
    rfl
  rw [letGo, hloosened, settle, hweight, hstep, hstill, settleSteps_rest _ hloose]

theorem isCodeHeld_of_get? {h : Heap} {key : DependencyKey} {value : Value}
    {target : FunctionKey} (hvalue : h.injector.table.get? key = some value)
    (htarget : value.target? = some target) : h.isCodeHeld target = true := by
  have hmem := DependencyTable.mem_of_get?_eq_some hvalue
  have hany : h.injector.table.any (fun entry => entry.2.target? == some target) = true :=
    List.any_eq_true.mpr ⟨(key, value), hmem, by simp [htarget]⟩
  simp [isCodeHeld, isHeldByValue, hany]

/-- One hold on a value can be let go without any effect while the table has it. -/
theorem dropValue_stored {h : Heap} (hloose : h.loose = []) {key : DependencyKey}
    {value : Value} (hstored : h.injector.table.get? key = some value) :
    (h.dropValue value).injector = h.injector := by
  rw [dropValue]
  split
  · rw [letGo_held]
    · exact hloose
    · intro target htarget
      exact isCodeHeld_of_get? (h := { h with values := h.values.erase value }) hstored
        htarget
  · rfl

/-- Storing the value that is there already releases nothing. -/
theorem put_same {h : Heap} (hrest : h.AtRest) {key : DependencyKey} {value : Value}
    (hvalue : h.injector.table.get? key = some value) :
    (h.put key value).injector =
      { h.injector with table := h.injector.table.insert key value } := by
  have hold : (h.store key value).2 = some value := hvalue
  have hput : h.put key value = (h.store key value).1.dropValue value := by
    simp only [put, hold]
    rfl
  have hstored : (h.store key value).1.injector.table.get? key = some value := by
    rw [store_injector, DependencyTable.get?_insert, if_pos rfl]
  rw [hput, dropValue_stored (store_atRest hrest key value).loose hstored]
  exact store_injector h key value

theorem clear_none {h : Heap} {key : DependencyKey}
    (hnone : h.injector.table.get? key = none) : (h.clear key).1 = h := by
  simp only [clear, take, hnone]
  rfl

theorem register_spec {h : Heap} (hrest : h.AtRest) (capability : String)
    (value : Value) :
    (h.register capability value).AtRest ∧
      Injector.Releases
        { h.injector with table := h.injector.table.insert (.shared capability) value }
        (h.register capability value).injector := by
  have hput := put_spec hrest (.shared capability) value
  exact ⟨hput.1.note _, hput.2⟩

theorem unregister_spec {h : Heap} (hrest : h.AtRest) (capability : String) :
    (h.unregister capability).1.AtRest ∧
      Injector.Releases
        { h.injector with table := h.injector.table.erase (.shared capability) }
        (h.unregister capability).1.injector := by
  have hclear := clear_spec hrest (.shared capability)
  simp only [unregister]
  split
  · exact ⟨hclear.1.note _, hclear.2⟩
  · exact hclear

/-- The heap in which the values of a name's own are loose, while the table is locked. -/
def clearing (h : Heap) (function : String) : Heap :=
  { h with
    injector := { h.injector with table := h.injector.table.eraseOwn function }
    locks := h.locks + 1
    loose := (h.injector.table.ownOf function).map .value ++ h.loose }

theorem clearOwn_heap (h : Heap) (function : String) :
    (h.clearOwn function).1 =
      { (h.clearing function).settle with
        locks := (h.clearing function).settle.locks - 1 } := rfl

theorem clearOwn_spec {h : Heap} (hrest : h.AtRest) (function : String) :
    (h.clearOwn function).1.AtRest ∧
      Injector.Releases
        { h.injector with table := h.injector.table.eraseOwn function }
        (h.clearOwn function).1.injector := by
  rw [clearOwn_heap]
  refine ⟨⟨?_, settle_loose _⟩, settle_releases (h := h.clearing function) hrest.held⟩
  exact (settle_isHeld _).trans hrest.held

theorem wrap_atRest {h : Heap} (hrest : h.AtRest) (tool : Tool) (mode : CallMode)
    (takes : ArgumentKind) (owned : List FunctionKey) :
    (h.wrap tool mode takes owned).1.AtRest := ⟨hrest.held, hrest.loose⟩

theorem wrap_injector (h : Heap) (tool : Tool) (mode : CallMode)
    (takes : ArgumentKind) (owned : List FunctionKey) :
    (h.wrap tool mode takes owned).1.injector = h.injector.track tool mode := rfl

end Heap

end CapabilityMesh
