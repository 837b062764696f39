/-
Lists of pairs that are read by their keys.
-/
import Mathlib.Data.List.Basic

namespace CapabilityMesh

variable {α β : Type} [DecidableEq α]

theorem lookup_cons_ite (entry : α × β) (rest : List (α × β)) (key : α) :
    (entry :: rest).lookup key = if key = entry.1 then some entry.2 else rest.lookup key := by
  obtain ⟨stored, value⟩ := entry
  by_cases hkey : key = stored
  · simp [hkey]
  · have hbeq : (key == stored) = false := beq_eq_false_iff_ne.mpr hkey
    simp [List.lookup_cons, hkey, hbeq]

/-- A filter that looks at keys alone keeps what is found under the keys it keeps. -/
theorem lookup_filter_key (entries : List (α × β)) (keep : α → Bool) (key : α) :
    (entries.filter fun entry => keep entry.1).lookup key =
      if keep key then entries.lookup key else none := by
  induction entries with
  | nil => simp
  | cons first rest ih =>
      by_cases hfirst : keep first.1 = true
      · rw [List.filter_cons_of_pos (by simpa using hfirst), lookup_cons_ite,
          lookup_cons_ite, ih]
        by_cases hkey : key = first.1
        · simp [hkey, hfirst]
        · simp [hkey]
      · rw [List.filter_cons_of_neg (by simpa using hfirst), lookup_cons_ite, ih]
        by_cases hkey : key = first.1
        · simp [hkey, hfirst]
        · simp [hkey]

end CapabilityMesh
