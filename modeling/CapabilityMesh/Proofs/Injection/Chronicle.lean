/-
What a dependency resolves to can be read off the history of an injector.  A value of
a function's own stands until its key is cleared or the last function of that name is
released; a shared value stands until its key is cleared; and the former goes before
the latter.  What a deed writes for one name reaches the functions of another name only
by releasing the last of them.  A deed that writes no value of a function's own leaves such
values alone unless it also wraps or releases a function, and that is counted.
-/
import CapabilityMesh.Proofs.Injection.Application

namespace CapabilityMesh

/-- Something that matters to the values of dependencies. -/
inductive Happening where
  | stored (key : DependencyKey) (value : Value)
  | cleared (key : DependencyKey)
  /-- Every value of a name's functions went: the last of them was released, or the
  application cleared them together. -/
  | emptied (function : String)
deriving Repr, DecidableEq

namespace Happening

/-- Whether a key has another value after a happening, or may have. -/
def concerns (key : DependencyKey) : Happening → Bool
  | stored other _ | cleared other => decide (other = key)
  | emptied function => key.isOwnOf function

/-- The value that a happening leaves under the keys that it concerns. -/
def value? : Happening → Option Value
  | stored _ value => some value
  | cleared _ | emptied _ => none

end Happening

/-- What happened, the latest first. -/
abbrev Chronicle := List Happening

namespace Chronicle

/-- The value of a key, given the one that it had before: the latest happening that
concerns the key decides. -/
def valueOr (chronicle : Chronicle) (key : DependencyKey) (old : Option Value) :
    Option Value :=
  match chronicle.find? (Happening.concerns key) with
  | some happening => happening.value?
  | none => old

def value? (chronicle : Chronicle) (key : DependencyKey) : Option Value :=
  chronicle.valueOr key none

theorem valueOr_nil (key : DependencyKey) (old : Option Value) :
    valueOr [] key old = old := rfl

theorem valueOr_cons (first : Happening) (rest : Chronicle) (key : DependencyKey)
    (old : Option Value) :
    valueOr (first :: rest) key old =
      if first.concerns key then first.value? else valueOr rest key old := by
  rw [valueOr, List.find?_cons]
  cases first.concerns key <;> rfl

theorem valueOr_append (later earlier : Chronicle) (key : DependencyKey)
    (old : Option Value) :
    valueOr (later ++ earlier) key old = later.valueOr key (earlier.valueOr key old) := by
  induction later with
  | nil => rfl
  | cons first rest ih => rw [List.cons_append, valueOr_cons, valueOr_cons, ih]

theorem valueOr_emptied (names : List String) (key : DependencyKey) (old : Option Value) :
    valueOr (names.map .emptied) key old =
      if names.any (fun name => key.isOwnOf name) then none else old := by
  induction names with
  | nil => rfl
  | cons first rest ih =>
      rw [List.map_cons, valueOr_cons, List.any_cons, ih]
      cases hfirst : key.isOwnOf first <;> simp [Happening.concerns, hfirst, Happening.value?]

end Chronicle

namespace Injector

/-- The names whose last function went. -/
def orphanedNames (before after : Injector) : List String :=
  (before.functions.map fun f => f.key.name).filter fun name => !after.isWrapped name

theorem any_orphanedNames_own (before after : Injector) (function capability : String) :
    ((orphanedNames before after).any fun name =>
        (DependencyKey.own function capability).isOwnOf name) =
      before.orphans after function := by
  rw [Bool.eq_iff_iff, orphans, Bool.and_eq_true, isWrapped_eq_true]
  simp only [orphanedNames, DependencyKey.isOwnOf, List.any_eq_true, List.mem_filter,
    List.mem_map, beq_iff_eq]
  constructor
  · rintro ⟨name, ⟨⟨f, hf, rfl⟩, hgone⟩, rfl⟩
    exact ⟨⟨f, hf, rfl⟩, hgone⟩
  · rintro ⟨⟨f, hf, rfl⟩, hgone⟩
    exact ⟨f.key.name, ⟨⟨f, hf, rfl⟩, hgone⟩, rfl⟩

/-- The books before and after something that wraps and releases functions as it
likes, and writes no value of a function's own.  Where nothing was wrapped or
released, the functions and their own values stay. -/
structure KeepsOwn (before after : Injector) : Prop where
  generation_le : before.generation ≤ after.generation
  functions : after.generation = before.generation → after.functions = before.functions
  own : after.generation = before.generation → ∀ function capability : String,
    after.table.get? (.own function capability) =
      before.table.get? (.own function capability)

theorem KeepsOwn.refl (i : Injector) : KeepsOwn i i :=
  ⟨Nat.le_refl _, fun _ => rfl, fun _ _ _ => rfl⟩

/-- Entries of other keys come and go, and what else is lost was released. -/
theorem Shrinks.keepsOwn {before after : Injector} {table : DependencyTable}
    (hshrinks : Shrinks { before with table := table } after)
    (hown : ∀ function capability : String,
      table.get? (.own function capability) =
        before.table.get? (.own function capability)) :
    KeepsOwn before after := by
  refine ⟨hshrinks.generation_le, ?_, ?_⟩
  · intro hgeneration
    rw [hshrinks.eq_of_generation hgeneration]
  · intro hgeneration function capability
    rw [hshrinks.eq_of_generation hgeneration]
    exact hown function capability

end Injector

namespace Deed

/-- What a deed writes itself, before anything is released. -/
def writes (h : Heap) : Deed → Chronicle
  | register capability value =>
      if h.hasAtHand value then [.stored (.shared capability) value] else []
  | unregister capability => [.cleared (.shared capability)]
  | registerFor function capability value =>
      if h.hasAtHand value then [.stored (.own function capability) value] else []
  | unregisterFor function capability => [.cleared (.own function capability)]
  | store key value => if h.hasAtHand value then [.stored key value] else []
  | take key => [.cleared key]
  | clearOwn function => [.emptied function]
  | wrap _ _ _ _ | hold _ | drop _ | find _ _ | keep _ | discard _ => []

/-- What happens in a deed, the latest first: it writes, and then it may release
functions. -/
def happenings (h : Heap) (d : Deed) : Chronicle :=
  (Injector.orphanedNames h.injector (d.perform h).injector).map .emptied ++ d.writes h

/-- What happens in deeds that are done one after the other. -/
def chronicleFrom (h : Heap) : List Deed → Chronicle
  | [] => []
  | d :: ds => chronicleFrom (d.perform h) ds ++ d.happenings h

def run (deeds : List Deed) : Heap :=
  deeds.foldl perform {}

/-- The history of an application that did these deeds. -/
def chronicle (deeds : List Deed) : Chronicle :=
  chronicleFrom {} deeds

theorem run_induction {P : Heap → Prop} (hstart : P {})
    (hdeed : ∀ (h : Heap) (d : Deed), P h → P (d.perform h)) (deeds : List Deed) :
    P (run deeds) := by
  rw [run]
  generalize ({} : Heap) = h at hstart
  induction deeds generalizing h with
  | nil => exact hstart
  | cons first rest ih => exact ih (first.perform h) (hdeed h first hstart)

theorem run_atRest (deeds : List Deed) : (run deeds).AtRest :=
  run_induction Heap.atRest_empty (fun _ d hrest => perform_atRest hrest d) deeds

open Injector

theorem perform_releases {h : Heap} (hrest : h.AtRest) {d : Deed}
    (hwrap : ∀ tool mode takes owned, d ≠ .wrap tool mode takes owned) :
    ∃ table : DependencyTable,
      (∀ key, table.get? key = (d.writes h).valueOr key (h.injector.table.get? key)) ∧
        Releases { h.injector with table := table } (d.perform h).injector := by
  have hsame : ∃ table : DependencyTable,
      (∀ key, table.get? key = h.injector.table.get? key) ∧
        Releases { h.injector with table := table } h.injector :=
    ⟨h.injector.table, fun _ => rfl, .refl⟩
  have hstored : ∀ (key other : DependencyKey) (value : Value),
      (h.injector.table.insert key value).get? other =
        Chronicle.valueOr [.stored key value] other (h.injector.table.get? other) := by
    intro key other value
    rw [DependencyTable.get?_insert, Chronicle.valueOr_cons]
    simp [Happening.concerns, eq_comm, Happening.value?, Chronicle.valueOr_nil]
  have hcleared : ∀ key other : DependencyKey,
      (h.injector.table.erase key).get? other =
        Chronicle.valueOr [.cleared key] other (h.injector.table.get? other) := by
    intro key other
    rw [DependencyTable.get?_erase, Chronicle.valueOr_cons]
    simp [Happening.concerns, eq_comm, Happening.value?, Chronicle.valueOr_nil]
  cases d with
  | wrap tool mode takes owned => exact absurd rfl (hwrap tool mode takes owned)
  | hold key =>
      simp only [perform]
      split <;> exact hsame
  | drop key => exact ⟨h.injector.table, fun _ => rfl, (Heap.dropHandle_spec hrest key).2⟩
  | find capability function =>
      simp only [perform]
      split <;> exact hsame
  | keep value =>
      simp only [perform]
      split <;> exact hsame
  | discard value =>
      exact ⟨h.injector.table, fun _ => rfl, (Heap.dropValue_spec hrest value).2⟩
  | register capability value =>
      simp only [perform, writes]
      split
      · exact ⟨_, fun key => hstored _ key value,
          (Heap.register_spec hrest capability value).2⟩
      · exact hsame
  | unregister capability =>
      exact ⟨_, hcleared _, (Heap.unregister_spec hrest capability).2⟩
  | registerFor function capability value =>
      simp only [perform, writes]
      split
      · exact ⟨_, fun key => hstored _ key value, (Heap.put_spec hrest _ value).2⟩
      · exact hsame
  | unregisterFor function capability =>
      exact ⟨_, hcleared _, (Heap.clear_spec hrest _).2⟩
  | store key value =>
      simp only [perform, writes]
      split
      · exact ⟨_, fun other => hstored key other value, .refl⟩
      · exact hsame
  | take key =>
      refine ⟨_, hcleared key, ?_⟩
      simp only [perform]
      rw [Heap.take_injector]
      exact .refl
  | clearOwn function =>
      refine ⟨_, ?_, (Heap.clearOwn_spec hrest function).2⟩
      intro key
      rw [DependencyTable.get?_eraseOwn, writes, Chronicle.valueOr_cons]
      rfl

theorem isWrapped_wrap {h : Heap} (tool : Tool) (mode : CallMode) (takes : ArgumentKind)
    (owned : List FunctionKey) {name : String} (hname : h.injector.isWrapped name = true) :
    (perform h (.wrap tool mode takes owned)).injector.isWrapped name = true := by
  simp only [perform]
  split
  · obtain ⟨f, hf, hfname⟩ := isWrapped_eq_true.mp hname
    exact isWrapped_eq_true.mpr ⟨f, List.mem_append_left _ hf, hfname⟩
  · exact hname

/-- To wrap a function releases none and leaves every value. -/
theorem perform_wrap (h : Heap) (tool : Tool) (mode : CallMode) (takes : ArgumentKind)
    (owned : List FunctionKey) :
    (happenings h (.wrap tool mode takes owned)) = [] ∧
      (perform h (.wrap tool mode takes owned)).injector.table = h.injector.table := by
  constructor
  · rw [happenings, writes, List.append_nil, List.map_eq_nil_iff, orphanedNames,
      List.filter_eq_nil_iff]
    intro name hname
    obtain ⟨f, hf, hfname⟩ := List.mem_map.mp hname
    simp [isWrapped_wrap tool mode takes owned (isWrapped_eq_true.mpr ⟨f, hf, hfname⟩)]
  · simp only [perform]
    split <;> rfl

/-- What a deed writes that keeps to shared values concerns no value of a function's
own. -/
theorem writes_shared {h : Heap} {d : Deed} (hshared : d.keepsToShared = true)
    (function capability : String) (old : Option Value) :
    (d.writes h).valueOr (.own function capability) old = old := by
  have hstored : ∀ (shared : String) (value : Value),
      Chronicle.valueOr [.stored (.shared shared) value] (.own function capability) old =
        old := by
    intro shared value
    simp [Chronicle.valueOr_cons, Happening.concerns, Chronicle.valueOr_nil]
  have hcleared : ∀ shared : String,
      Chronicle.valueOr [.cleared (.shared shared)] (.own function capability) old = old := by
    intro shared
    simp [Chronicle.valueOr_cons, Happening.concerns, Chronicle.valueOr_nil]
  cases d with
  | register capability value =>
      rw [writes]
      split
      · exact hstored capability value
      · rfl
  | unregister capability => exact hcleared capability
  | store key value =>
      cases key with
      | own function capability => cases hshared
      | shared capability =>
          rw [writes]
          split
          · exact hstored capability value
          · rfl
  | take key =>
      cases key with
      | own function capability => cases hshared
      | shared capability => exact hcleared capability
  | registerFor | unregisterFor | clearOwn => cases hshared
  | wrap | hold | drop | find | keep | discard => rfl

/-- A deed that keeps to shared values leaves the own values of functions alone. -/
theorem perform_keepsOwn {h : Heap} (hrest : h.AtRest) {d : Deed}
    (hshared : d.keepsToShared = true) :
    KeepsOwn h.injector (d.perform h).injector := by
  by_cases hwrap : ∃ tool mode takes owned, d = .wrap tool mode takes owned
  · obtain ⟨tool, mode, takes, owned, rfl⟩ := hwrap
    simp only [perform]
    split
    · -- A function that is wrapped is counted.
      rw [Heap.wrap_injector]
      have hcounted : (h.injector.track tool mode).generation =
          h.injector.generation + 1 := rfl
      refine ⟨by omega, fun hgeneration => ?_, fun hgeneration => ?_⟩ <;> omega
    · exact .refl h.injector
  · obtain ⟨table, htable, hreleases⟩ := perform_releases hrest (d := d)
      fun tool mode takes owned heq => hwrap ⟨tool, mode, takes, owned, heq⟩
    exact hreleases.shrinks.keepsOwn fun function capability =>
      (htable _).trans (writes_shared hshared function capability _)

/-- After a deed every key has the value that the happenings of the deed leave. -/
theorem perform_get? {h : Heap} (hrest : h.AtRest) (d : Deed) (key : DependencyKey) :
    (d.perform h).injector.table.get? key =
      (d.happenings h).valueOr key (h.injector.table.get? key) := by
  by_cases hwrap : ∃ tool mode takes owned, d = .wrap tool mode takes owned
  · obtain ⟨tool, mode, takes, owned, rfl⟩ := hwrap
    obtain ⟨hnothing, htable⟩ := perform_wrap h tool mode takes owned
    rw [hnothing, htable, Chronicle.valueOr_nil]
  · obtain ⟨table, htable, hreleases⟩ := perform_releases hrest (d := d)
      fun tool mode takes owned heq => hwrap ⟨tool, mode, takes, owned, heq⟩
    rw [happenings, Chronicle.valueOr_append, Chronicle.valueOr_emptied, ← htable]
    cases key with
    | own function capability =>
        rw [any_orphanedNames_own, hreleases.get?_own]
        rfl
    | shared capability =>
        rw [hreleases.get?_shared]
        simp [DependencyKey.isOwnOf]

theorem chronicleFrom_get? (deeds : List Deed) {h : Heap} (hrest : h.AtRest)
    (key : DependencyKey) :
    (deeds.foldl perform h).injector.table.get? key =
      (chronicleFrom h deeds).valueOr key (h.injector.table.get? key) := by
  induction deeds generalizing h with
  | nil => rfl
  | cons first rest ih =>
      rw [List.foldl_cons, ih (perform_atRest hrest first), chronicleFrom,
        Chronicle.valueOr_append, perform_get? hrest]

theorem run_get? (deeds : List Deed) (key : DependencyKey) :
    (run deeds).injector.table.get? key = (chronicle deeds).value? key :=
  chronicleFrom_get? deeds Heap.atRest_empty key

end Deed

namespace Heap

/-- A key that is cleared had a value exactly if the result says so, and it has none
any more. -/
theorem clear_found {h : Heap} (hrest : h.AtRest) (key : DependencyKey) :
    (h.clear key).2 = (h.injector.table.get? key).isSome ∧
      (h.clear key).1.injector.table.get? key = none := by
  constructor
  · simp only [clear, take]
    cases h.injector.table.get? key <;> rfl
  · have hreleases := (clear_spec hrest key).2
    have hgone : (h.injector.table.erase key).get? key = none := by
      rw [DependencyTable.get?_erase, if_pos rfl]
    cases key with
    | own function capability => rw [hreleases.get?_own, hgone, ite_self]
    | shared capability => rw [hreleases.get?_shared, hgone]

theorem unregister_injector (h : Heap) (capability : String) :
    (h.unregister capability).1.injector = (h.clear (.shared capability)).1.injector := by
  simp only [unregister]
  split <;> rfl

theorem unregister_found (h : Heap) (capability : String) :
    (h.unregister capability).2 = (h.clear (.shared capability)).2 := rfl

end Heap

namespace Injector

/-- Entries for one name do not reach what another name resolves.  Its last function
takes the values of its own along, and then the shared value is left. -/
theorem Releases.resolve_other {i j : Injector} {table : DependencyTable}
    (h : Releases { i with table := table } j) {other : String} (wanted : String)
    (hentry : ∀ key, key = .shared wanted ∨ key = .own other wanted →
      table.get? key = i.table.get? key) :
    j.resolve other wanted =
      if i.orphans j other then i.table.get? (.shared wanted)
      else i.resolve other wanted := by
  have hown := h.get?_own other wanted
  have hshared := h.get?_shared wanted
  rw [hentry _ (Or.inr rfl)] at hown
  rw [hentry _ (Or.inl rfl)] at hshared
  have horphans : ({ i with table := table } : Injector).orphans j other =
      i.orphans j other := rfl
  rw [horphans] at hown
  simp only [resolve, DependencyTable.resolve, hown, hshared]
  split <;> rfl

end Injector

namespace Deed

/-- What a function receives for a capability is the value of its own that the history
leaves, and else the shared value that it leaves.  To clear a key tells whether there
was a value, and takes it.  A write for the functions of one name changes what another
name resolves only where it releases the last function of that other name; then the
shared value is left. -/
theorem resolve_follows_chronicle (deeds : List Deed) (function capability : String) :
    let h := run deeds
    h.injector.resolve function capability =
        ((chronicle deeds).value? (.own function capability)).or
          ((chronicle deeds).value? (.shared capability)) ∧
      ((h.unregister capability).2 = true ↔
        (h.injector.table.get? (.shared capability)).isSome = true ∧
          (h.unregister capability).1.injector.table.get? (.shared capability) =
            none) ∧
      ((h.unregisterFor function capability).2 = true ↔
        (h.injector.table.get? (.own function capability)).isSome = true ∧
          (h.unregisterFor function capability).1.injector.table.get?
            (.own function capability) = none) ∧
      ∀ other wanted : String, other ≠ function →
        (∀ value : Value,
          let later := (h.registerFor function capability value).injector
          later.resolve other wanted =
            if h.injector.orphans later other then
              h.injector.table.get? (.shared wanted)
            else h.injector.resolve other wanted) ∧
        let later := (h.unregisterFor function capability).1.injector
        later.resolve other wanted =
          if h.injector.orphans later other then
            h.injector.table.get? (.shared wanted)
          else h.injector.resolve other wanted := by
  intro h
  have hrest : h.AtRest := run_atRest deeds
  have hshared := Heap.clear_found hrest (.shared capability)
  have hown := Heap.clear_found hrest (.own function capability)
  refine ⟨?_, ?_, ?_, ?_⟩
  · rw [Injector.resolve, DependencyTable.resolve, run_get?, run_get?]
  · rw [Heap.unregister_found, Heap.unregister_injector, hshared.1]
    exact ⟨fun hfound => ⟨hfound, hshared.2⟩, And.left⟩
  · rw [Heap.unregisterFor, hown.1]
    exact ⟨fun hfound => ⟨hfound, hown.2⟩, And.left⟩
  · intro other wanted hother
    have hkey : ∀ key : DependencyKey, key = .shared wanted ∨ key = .own other wanted →
        key ≠ .own function capability := by
      rintro key (rfl | rfl)
      · simp
      · simp [hother]
    constructor
    · intro value
      apply (Heap.put_spec hrest (.own function capability) value).2.resolve_other
      intro key hentry
      rw [DependencyTable.get?_insert, if_neg (hkey key hentry)]
    · apply (Heap.clear_spec hrest (.own function capability)).2.resolve_other
      intro key hentry
      rw [DependencyTable.get?_erase, if_neg (hkey key hentry)]

/-- An index whose code holds the last handle to a report, while nothing but the value
of an export holds the index's code. -/
def lastHandleInValue : List Deed :=
  let index := Value.inProcess ⟨"index", ⟨"index", 2⟩, .blocking⟩
  [.wrap (.named "report") .blocking .text [],
    .wrap (.named "index") .blocking .text [⟨"report", 1⟩],
    .registerFor "report" "format" (.text "short"),
    .find "index" "index",
    .registerFor "export" "index" index,
    .discard index,
    .drop ⟨"index", 2⟩,
    .drop ⟨"report", 1⟩]

/-- To store a value for exports can change what a report resolves. -/
theorem storing_for_one_name_empties_another :
    let h := run lastHandleInValue
    h.injector.resolve "report" "format" = some (.text "short") ∧
      (h.registerFor "export" "index" (.text "none")).injector.resolve "report" "format" =
        none ∧
      (h.registerFor "export" "index" (.text "none")).isStuck = false := by
  decide +kernel

end Deed

end CapabilityMesh
