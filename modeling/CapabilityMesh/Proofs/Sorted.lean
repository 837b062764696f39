/-
Lists in the strict order of their keys, into which entries are put one after the other.
Where the key of an entry is taken, either the entry that is there stays in its place or the
new one takes it.
-/
import Mathlib.Data.List.Basic
import Mathlib.Order.Defs.Unbundled
import CapabilityMesh.Proofs.Lookup

namespace CapabilityMesh

namespace Text

theorem lt_of_not_lt_of_ne {a b : String} (hlt : ¬ a < b) (hne : a ≠ b) : b < a := by
  apply Decidable.byContradiction
  intro hnot
  exact hne (String.le_antisymm (String.not_lt.mp hnot) (String.not_lt.mp hlt))

end Text

instance Text.lt_strict : IsStrictTotalOrder String (fun a b => a < b) where
  irrefl := String.lt_irrefl
  trans _ _ _ := String.lt_trans
  trichotomous _ _ hlt hgt := Decidable.byContradiction fun hne =>
    hgt (Text.lt_of_not_lt_of_ne hlt hne)

namespace Sorted

section Order

variable {α ε : Type} {key : ε → α} {before : α → α → Prop} [IsStrictTotalOrder α before]

variable (key before) in
/-- Entries in the strict order of their keys. -/
def Ordered (entries : List ε) : Prop :=
  entries.Pairwise fun first second => before (key first) (key second)

theorem ne_of_before {a b : α} (h : before a b) : a ≠ b := by
  rintro rfl
  exact irrefl a h

/-- Of two different keys one comes first. -/
theorem before_of_not {a b : α} (hnot : ¬ before a b) (hne : a ≠ b) : before b a := by
  by_contra hother
  exact hne (Std.Trichotomous.trichotomous a b hnot hother)

/-- What comes before the first of some entries in order comes before all of them. -/
theorem Ordered.before_all {first : ε} {rest : List ε} (h : Ordered key before (first :: rest))
    {k : α} (hk : before k (key first)) : ∀ other ∈ first :: rest, before k (key other) := by
  intro other hother
  rcases List.mem_cons.mp hother with rfl | hother
  · exact hk
  · exact IsTrans.trans _ _ _ hk ((List.pairwise_cons.mp h).1 other hother)

end Order

section Put

variable {α ε : Type} [DecidableEq α] (key : ε → α) (before : α → α → Prop)
variable [DecidableRel before] (keeps : ε → ε → Bool)

/-- Put an entry in its place.  The entry that has its key, if there is one, is kept or
replaced. -/
def put : List ε → ε → List ε
  | [], entry => [entry]
  | first :: rest, entry =>
      if before (key entry) (key first) then entry :: first :: rest
      else if key entry = key first then
        (if keeps entry first then first else entry) :: rest
      else first :: put rest entry

variable {key before keeps} {entries : List ε}

theorem eq_or_mem_of_mem_put {entry e : ε} (he : e ∈ put key before keeps entries entry) :
    e = entry ∨ e ∈ entries := by
  induction entries with
  | nil => exact Or.inl (List.mem_singleton.mp he)
  | cons first rest ih =>
      rw [put] at he
      grind

variable [IsStrictTotalOrder α before]

/-- What is there after an entry was put in its place: the entry, unless the one that has
its key is kept, and everything else but an entry of its key that is not kept. -/
theorem Ordered.mem_put_iff (h : Ordered key before entries) (entry e : ε) :
    e ∈ put key before keeps entries entry ↔
      (e ∈ entries ∧ (key e = key entry → keeps entry e = true)) ∨
        (e = entry ∧ ∀ other ∈ entries, key other = key entry →
          keeps entry other = false) := by
  induction entries with
  | nil => simp [put]
  | cons first rest ih =>
      obtain ⟨hfirst, hrest⟩ := List.pairwise_cons.mp h
      rw [put]
      split
      · rename_i hbefore
        have hother : ∀ other ∈ first :: rest, key other ≠ key entry := fun other hmem =>
          (ne_of_before (h.before_all hbefore other hmem)).symm
        grind
      · split
        · rename_i hsame
          have hother : ∀ other ∈ rest, key other ≠ key entry := fun other hmem =>
            hsame ▸ (ne_of_before (hfirst other hmem)).symm
          cases hkeeps : keeps entry first <;> grind
        · rename_i hne
          rw [List.mem_cons, ih hrest]
          grind

theorem Ordered.put (h : Ordered key before entries) (entry : ε) :
    Ordered key before (put key before keeps entries entry) := by
  induction entries with
  | nil => exact List.pairwise_singleton _ entry
  | cons first rest ih =>
      obtain ⟨hfirst, hrest⟩ := List.pairwise_cons.mp h
      rw [Sorted.put]
      split
      · rename_i hbefore
        exact List.pairwise_cons.mpr ⟨h.before_all hbefore, h⟩
      · rename_i hnot
        split
        · rename_i hsame
          refine List.pairwise_cons.mpr ⟨?_, hrest⟩
          intro other hother
          split
          · exact hfirst other hother
          · rw [hsame]
            exact hfirst other hother
        · rename_i hne
          refine List.pairwise_cons.mpr ⟨?_, ih hrest⟩
          intro other hother
          rcases eq_or_mem_of_mem_put hother with rfl | hmem
          · exact before_of_not hnot hne
          · exact hfirst other hmem

end Put

section Pairs

variable {α β : Type} [DecidableEq α] {before : α → α → Prop}
variable {entries : List (α × β)} {entry : α × β}

/-- A pair that takes the place of the one with its key is found under its key, and nothing
else changes. -/
theorem lookup_put [DecidableRel before] (entries : List (α × β)) (entry : α × β) (key : α) :
    (put Prod.fst before (fun _ _ => false) entries entry).lookup key =
      if key = entry.1 then some entry.2 else entries.lookup key := by
  induction entries with
  | nil => exact lookup_cons_ite entry [] key
  | cons first rest ih =>
      rw [put]
      split
      · exact lookup_cons_ite entry _ key
      · split
        · rename_i hsame
          rw [if_neg Bool.false_ne_true, lookup_cons_ite, lookup_cons_ite, ← hsame]
          split <;> rfl
        · rename_i hne
          rw [lookup_cons_ite, lookup_cons_ite, ih]
          by_cases hfirst : key = first.1
          · rw [if_pos hfirst, if_pos hfirst, if_neg (hfirst ▸ Ne.symm hne)]
          · rw [if_neg hfirst, if_neg hfirst]

theorem mem_of_lookup (h : entries.lookup entry.1 = some entry.2) : entry ∈ entries := by
  obtain ⟨before, after, hsplit, -⟩ := List.lookup_eq_some_iff.mp h
  simp [hsplit]

/-- What a list in order holds is what can be looked up in it. -/
theorem Ordered.mem_iff_lookup [IsStrictTotalOrder α before]
    (h : Ordered Prod.fst before entries) (entry : α × β) :
    entry ∈ entries ↔ entries.lookup entry.1 = some entry.2 := by
  refine ⟨?_, mem_of_lookup⟩
  induction entries with
  | nil => simp
  | cons first rest ih =>
      obtain ⟨hfirst, hrest⟩ := List.pairwise_cons.mp h
      intro hentry
      rw [lookup_cons_ite]
      rcases List.mem_cons.mp hentry with rfl | hmem
      · rw [if_pos rfl]
      · rw [if_neg (ne_of_before (hfirst entry hmem)).symm, ih hrest hmem]

end Pairs

end Sorted

end CapabilityMesh
