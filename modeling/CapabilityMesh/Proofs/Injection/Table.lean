/-
Laws of the table of dependency values.  Storing and removing say what happens
to the key that is meant and that every other key keeps its value.  None of these
laws needs the order of the table.  As the table stays in order, what it holds is what
can be looked up in it.
-/
import Mathlib.Data.List.Basic
import CapabilityMesh.Injection.Table
import CapabilityMesh.Proofs.Registry.Slots

namespace CapabilityMesh

namespace DependencyTable

theorem get?_nil (key : DependencyKey) : get? [] key = none := rfl

theorem get?_cons (entry : DependencyKey × Value) (table : DependencyTable)
    (key : DependencyKey) :
    get? (entry :: table) key =
      if key = entry.1 then some entry.2 else get? table key :=
  lookup_cons_ite entry table key

/-- To store a value is to put it in its place, in the order of the keys. -/
theorem insert_eq_put (table : DependencyTable) (key : DependencyKey) (value : Value) :
    table.insert key value =
      Sorted.put Prod.fst (fun a b => a.precedes b = true) (fun _ _ => false) table
        (key, value) := by
  induction table with
  | nil => rfl
  | cons first rest ih =>
      rw [insert, ih]
      rfl

/-- A stored value is found under its key, and nothing else changes. -/
theorem get?_insert (table : DependencyTable) (key other : DependencyKey)
    (value : Value) :
    (table.insert key value).get? other =
      if other = key then some value else table.get? other := by
  rw [insert_eq_put]
  exact Sorted.lookup_put table (key, value) other

/-- A filter that looks at keys alone keeps the values of the keys it keeps. -/
theorem get?_filter (table : DependencyTable) (keep : DependencyKey → Bool)
    (key : DependencyKey) :
    get? (table.filter fun entry => keep entry.1) key =
      if keep key then table.get? key else none :=
  lookup_filter_key table keep key

/-- A removed key has no value, and nothing else changes. -/
theorem get?_erase (table : DependencyTable) (key other : DependencyKey) :
    (table.erase key).get? other = if other = key then none else table.get? other := by
  rw [erase, get?_filter table (fun stored => decide (stored ≠ key)) other]
  by_cases hother : other = key <;> simp [hother]

/-- What belongs to the functions of a name goes, and nothing else changes. -/
theorem get?_eraseOwn (table : DependencyTable) (function : String)
    (key : DependencyKey) :
    (table.eraseOwn function).get? key =
      if key.isOwnOf function then none else table.get? key := by
  rw [eraseOwn, get?_filter table (fun stored => !stored.isOwnOf function) key]
  by_cases hown : key.isOwnOf function = true <;> simp [hown]

theorem mem_of_get?_eq_some {table : DependencyTable} {key : DependencyKey}
    {value : Value} (hvalue : table.get? key = some value) : (key, value) ∈ table :=
  Sorted.mem_of_lookup hvalue

theorem get?_eq_none_iff {table : DependencyTable} {key : DependencyKey} :
    table.get? key = none ↔ ∀ entry ∈ table, entry.1 ≠ key := by
  induction table with
  | nil => simp [get?_nil]
  | cons first rest ih =>
      rw [get?_cons]
      by_cases hkey : key = first.1
      · simp [hkey]
      · simp [hkey, ih, Ne.symm hkey]

/-- There is nothing to remove where there is no value. -/
theorem erase_of_get?_eq_none {table : DependencyTable} {key : DependencyKey}
    (hnone : table.get? key = none) : table.erase key = table := by
  rw [erase, List.filter_eq_self]
  intro entry hentry
  simpa using get?_eq_none_iff.mp hnone entry hentry

end DependencyTable

namespace DependencyKey

/-- The keys of functions are in the order of the slots that they stand for. -/
theorem own_precedes_own (f g x y : String) :
    (own f x).precedes (own g y) = BindingSlot.precedes ⟨f, x⟩ ⟨g, y⟩ := rfl

theorem shared_precedes_shared {x y : String} :
    (shared x).precedes (shared y) = true ↔ x < y :=
  decide_eq_true_iff

instance precedes_strict :
    IsStrictTotalOrder DependencyKey (fun a b => a.precedes b = true) where
  irrefl key := by
    cases key with
    | shared x => exact fun h => String.lt_irrefl x (shared_precedes_shared.mp h)
    | own f x => exact BindingSlot.precedes_strict.irrefl ⟨f, x⟩
  trans a b c hab hbc := by
    cases a with
    | shared x =>
        cases c with
        | own _ _ => rfl
        | shared z =>
            cases b with
            | own _ _ => cases hbc
            | shared y =>
                exact shared_precedes_shared.mpr (String.lt_trans
                  (shared_precedes_shared.mp hab) (shared_precedes_shared.mp hbc))
    | own f x =>
        cases b with
        | shared _ => cases hab
        | own g y =>
            cases c with
            | shared _ => cases hbc
            | own k z =>
                rw [own_precedes_own] at hab hbc ⊢
                exact BindingSlot.precedes_trans hab hbc
  trichotomous a b hnot hother := by
    cases a with
    | shared x =>
        cases b with
        | own _ _ => exact absurd rfl hnot
        | shared y =>
            rw [shared_precedes_shared] at hnot hother
            exact congrArg shared (Std.Trichotomous.trichotomous x y hnot hother)
    | own f x =>
        cases b with
        | shared _ => exact absurd rfl hother
        | own g y =>
            have hslot : (⟨f, x⟩ : BindingSlot) = ⟨g, y⟩ :=
              BindingSlot.precedes_strict.trichotomous _ _ hnot hother
            cases hslot
            rfl

end DependencyKey

namespace DependencyTable

/-- Whether a table is in the strict order of its keys. -/
def Ordered (table : DependencyTable) : Prop :=
  table.Pairwise fun first second => first.1.precedes second.1 = true

theorem ordered_nil : Ordered [] := List.Pairwise.nil

theorem mem_insert {table : DependencyTable} {key : DependencyKey} {value : Value}
    {entry : DependencyKey × Value} (hentry : entry ∈ table.insert key value) :
    entry = (key, value) ∨ entry ∈ table := by
  rw [insert_eq_put] at hentry
  exact Sorted.eq_or_mem_of_mem_put hentry

theorem Ordered.filter {table : DependencyTable} (h : table.Ordered)
    (keep : DependencyKey × Value → Bool) : Ordered (table.filter keep) :=
  List.Pairwise.filter keep h

theorem Ordered.sorted {table : DependencyTable} (h : table.Ordered) :
    Sorted.Ordered Prod.fst (fun a b => DependencyKey.precedes a b = true) table := h

theorem Ordered.insert {table : DependencyTable} (h : table.Ordered)
    (key : DependencyKey) (value : Value) : (table.insert key value).Ordered := by
  rw [insert_eq_put]
  exact h.sorted.put (key, value)

/-- What a table in order holds is what can be looked up in it. -/
theorem Ordered.mem_iff {table : DependencyTable} (h : table.Ordered)
    (entry : DependencyKey × Value) :
    entry ∈ table ↔ table.get? entry.1 = some entry.2 :=
  h.sorted.mem_iff_lookup entry

section Values

variable {table : DependencyTable} (p : Value → Prop)

/-- The value that another one replaces is the only one that is lost. -/
theorem Ordered.exists_insert (h : table.Ordered) (key : DependencyKey) (value : Value) :
    (∃ entry ∈ table.insert key value, p entry.2) ∨
        (∃ old, table.get? key = some old ∧ p old) ↔
      p value ∨ ∃ entry ∈ table, p entry.2 := by
  have hentry : ∀ entry : DependencyKey × Value, entry ∈ table.insert key value ↔
      (if entry.1 = key then some value else table.get? entry.1) = some entry.2 := by
    intro entry
    rw [(h.insert key value).mem_iff, get?_insert]
  constructor
  · rintro (⟨entry, hmem, hp⟩ | ⟨old, hold, hp⟩)
    · rcases mem_insert hmem with rfl | hmem
      · exact Or.inl hp
      · exact Or.inr ⟨entry, hmem, hp⟩
    · exact Or.inr ⟨(key, old), mem_of_get?_eq_some hold, hp⟩
  · rintro (hp | ⟨entry, hmem, hp⟩)
    · exact Or.inl ⟨(key, value), (hentry _).mpr (by simp), hp⟩
    · have hvalue := (h.mem_iff entry).mp hmem
      by_cases hkey : entry.1 = key
      · rw [hkey] at hvalue
        exact Or.inr ⟨entry.2, hvalue, hp⟩
      · exact Or.inl ⟨entry, (hentry entry).mpr (by rw [if_neg hkey, hvalue]), hp⟩

theorem Ordered.exists_erase (h : table.Ordered) (key : DependencyKey) :
    (∃ entry ∈ table.erase key, p entry.2) ∨
        (∃ old, table.get? key = some old ∧ p old) ↔
      ∃ entry ∈ table, p entry.2 := by
  constructor
  · rintro (⟨entry, hmem, hp⟩ | ⟨old, hold, hp⟩)
    · exact ⟨entry, List.mem_of_mem_filter hmem, hp⟩
    · exact ⟨(key, old), mem_of_get?_eq_some hold, hp⟩
  · rintro ⟨entry, hmem, hp⟩
    by_cases hkey : entry.1 = key
    · have hvalue := (h.mem_iff entry).mp hmem
      rw [hkey] at hvalue
      exact Or.inr ⟨entry.2, hvalue, hp⟩
    · exact Or.inl ⟨entry, List.mem_filter.mpr ⟨hmem, by simpa using hkey⟩, hp⟩

/-- The values of a name's own are the only ones that are lost when they are erased. -/
theorem exists_eraseOwn (table : DependencyTable) (function : String) :
    (∃ entry ∈ table.eraseOwn function, p entry.2) ∨
        (∃ value ∈ table.ownOf function, p value) ↔
      ∃ entry ∈ table, p entry.2 := by
  constructor
  · rintro (⟨entry, hmem, hp⟩ | ⟨value, hmem, hp⟩)
    · exact ⟨entry, List.mem_of_mem_filter hmem, hp⟩
    · obtain ⟨entry, hentry, rfl⟩ := List.mem_map.mp hmem
      exact ⟨entry, List.mem_of_mem_filter hentry, hp⟩
  · rintro ⟨entry, hmem, hp⟩
    by_cases hown : entry.1.isOwnOf function = true
    · exact Or.inr ⟨entry.2, List.mem_map_of_mem (List.mem_filter.mpr ⟨hmem, hown⟩), hp⟩
    · exact Or.inl ⟨entry, List.mem_filter.mpr ⟨hmem, by simpa using hown⟩, hp⟩

end Values

end DependencyTable

end CapabilityMesh
