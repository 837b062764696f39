/-
What holds of a draft as long as a record is read.  If the fields of a record keep a
property of its drafts, the record is built from a draft that has it, whether its fields
stood in an object or in a list.
-/
import CapabilityMesh.Json.Record
import CapabilityMesh.Proofs.Step

namespace CapabilityMesh

namespace Json

variable {α σ : Type} {P : σ → Prop}

namespace Field

/-- Whether reading a field keeps a property of drafts. -/
def Keeps (P : σ → Prop) (field : Field σ) : Prop :=
  ∀ (draft later : σ) (cs rest : List Char),
    P draft → field.read draft cs = .ok (later, rest) → P later

/-- A field that is held as an optional value keeps what its values leave true. -/
theorem keeps_of {name : String} {required : Bool} {get : σ → Option α} {put : σ → α → σ}
    {read : Reader α} (hput : ∀ draft value cs rest,
      P draft → read cs = .ok (value, rest) → P (put draft value)) :
    (Field.of name required get put read).Keeps P := by
  intro draft later cs rest hdraft hread
  simp only [Field.of] at hread
  split at hread
  · rename_i value after hvalue
    obtain ⟨rfl, -⟩ := Prod.mk.inj (Except.ok.inj hread)
    exact hput _ _ _ _ hdraft hvalue
  · cases hread

end Field

namespace Record

variable {fields : List (Field σ)}

theorem readKeys_keeps (hfields : ∀ field ∈ fields, field.Keeps P) {fuel : Nat} {first : Bool}
    {draft final : σ} {cs rest : List Char} (hdraft : P draft)
    (hread : readKeys fields fuel first draft cs = .ok (final, rest)) : P final := by
  induction fuel generalizing first draft cs with
  | zero => cases hread
  | succ fuel ih =>
      rw [readKeys] at hread
      split at hread
      · cases hread
      · obtain ⟨rfl, -⟩ := Prod.mk.inj (Except.ok.inj hread)
        exact hdraft
      · split at hread
        · cases hread
        · split at hread
          · -- an unknown key is skipped with its value
            split at hread
            · cases hread
            · split at hread
              · cases hread
              · exact ih hdraft hread
          · rename_i field hfield
            split at hread
            · cases hread
            · split at hread
              · cases hread
              · split at hread
                · cases hread
                · rename_i hvalue
                  have hmem := List.mem_of_find?_eq_some hfield
                  exact ih (hfields field hmem _ _ _ _ hdraft hvalue) hread

theorem readInOrder_keeps {expected : String} (hfields : ∀ field ∈ fields, field.Keeps P)
    {index : Nat} {first : Bool} {draft final : σ} {cs rest : List Char} (hdraft : P draft)
    (hread : readInOrder expected fields index first draft cs = .ok (final, rest)) :
    P final := by
  induction fields generalizing index first draft cs with
  | nil =>
      obtain ⟨rfl, -⟩ := Prod.mk.inj (Except.ok.inj hread)
      exact hdraft
  | cons field fields ih =>
      obtain ⟨hfield, hmore⟩ := List.forall_mem_cons.mp hfields
      rw [readInOrder] at hread
      split at hread
      · cases hread
      · split at hread
        · cases hread
        · exact ih hmore hdraft hread
      · split at hread
        · cases hread
        · rename_i hvalue
          exact ih hmore (hfield _ _ _ _ hdraft hvalue) hread

theorem read_keeps {r : Record σ α} (hfields : ∀ field ∈ r.fields, field.Keeps P)
    (hblank : P r.blank) {value : α} {cs rest : List Char}
    (hread : r.read cs = .ok (value, rest)) :
    ∃ final, P final ∧ r.build final = .ok value := by
  rw [Record.read] at hread
  split at hread
  · simp only [bind_eq_ok, Prod.exists] at hread
    obtain ⟨final, after, hkeys, built, hbuild, last, -, heq⟩ := hread
    obtain ⟨rfl, -⟩ := Prod.mk.inj (Except.ok.inj heq)
    exact ⟨final, readKeys_keeps hfields hblank hkeys, hbuild⟩
  · simp only [bind_eq_ok, Prod.exists] at hread
    obtain ⟨final, after, hkeys, built, hbuild, last, -, heq⟩ := hread
    obtain ⟨rfl, -⟩ := Prod.mk.inj (Except.ok.inj heq)
    exact ⟨final, readInOrder_keeps hfields hblank hkeys, hbuild⟩
  · cases hread

end Record

theorem exists_of_readWhole? {read : Reader α} {s : String} {value : α}
    (hread : readWhole? read s = .ok value) : ∃ rest, read s.toList = .ok (value, rest) := by
  rw [readWhole?] at hread
  split at hread
  · cases hread
  · rename_i found rest heq
    split at hread
    · obtain rfl := Except.ok.inj hread
      exact ⟨rest, heq⟩
    · cases hread

end Json

end CapabilityMesh
