/-
Letters and numerals are no blanks.
-/
import CapabilityMesh.Text.Blank
import CapabilityMesh.Text.Letter

namespace CapabilityMesh

namespace Text

theorem Ranges.all_ofText {p : Nat × Nat → Bool} {cs : List Char}
    (hcs : (scan cs none none).all p = true) : (ofText (String.ofList cs)).all p = true := by
  rw [ofText, String.toList_ofList, hcs]

/-- The blanks beyond ASCII. -/
def wideBlanks : Ranges :=
  [(0x85, 0x85), (0xA0, 0xA0), (0x1680, 0x1680), (0x2000, 0x200A), (0x2028, 0x2029),
    (0x202F, 0x202F), (0x205F, 0x205F), (0x3000, 0x3000)]

set_option maxRecDepth 20000 in
theorem letterRanges_beside_wideBlanks : (letterRanges.all fun range =>
    wideBlanks.all fun blanks => blanks.2 < range.1 || range.2 < blanks.1) = true := by
  delta letterRanges
  apply Ranges.all_ofText
  decide +kernel

theorem isBlank_of_isAlphanum {c : Char} (hc : c.isAlphanum = true) : isBlank c = false := by
  change (decide ('A'.val ≤ c.val ∧ c.val ≤ 'Z'.val) ||
    (decide ('a'.val ≤ c.val) && decide (c.val ≤ 'z'.val)) ||
    (decide ('0'.val ≤ c.val) && decide (c.val ≤ '9'.val))) = true at hc
  simp only [Bool.or_eq_true, Bool.and_eq_true, decide_eq_true_eq, UInt32.le_iff_toNat_le] at hc
  change ((65 ≤ c.toNat ∧ c.toNat ≤ 90) ∨ (97 ≤ c.toNat ∧ c.toNat ≤ 122)) ∨
    (48 ≤ c.toNat ∧ c.toNat ≤ 57) at hc
  simp [isBlank]
  omega

theorem isBlank_of_isLetterOrNumeral {c : Char} (hc : isLetterOrNumeral c = true) :
    isBlank c = false := by
  rw [isLetterOrNumeral] at hc
  split at hc
  · exact isBlank_of_isAlphanum hc
  · rename_i hwide
    obtain ⟨range, hrange, hin⟩ := List.any_eq_true.mp hc
    have hbeside := List.all_eq_true.mp letterRanges_beside_wideBlanks range hrange
    simp only [wideBlanks, List.all_cons, List.all_nil, Bool.and_true, Bool.and_eq_true,
      Bool.or_eq_true, decide_eq_true_eq] at hbeside hin
    rw [Bool.eq_false_iff]
    intro hblank
    simp only [isBlank, Bool.or_eq_true, Bool.and_eq_true, decide_eq_true_eq, beq_iff_eq]
      at hblank
    omega

end Text

end CapabilityMesh
