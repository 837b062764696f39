/-
Strings come back as they were written.  Whatever character stands in a string, what
is written for it reads as that character, and the closing quote ends the string.
-/
import Mathlib.Data.List.Basic
import CapabilityMesh.Json.Text

namespace CapabilityMesh

namespace Json

theorem hexDigits_control : ∀ n < 0x20,
    Text.hexDigit? (Text.hexChar (n / 16)) = some (n / 16) ∧
      Text.hexDigit? (Text.hexChar (n % 16)) = some (n % 16) ∧
      (Text.utf8 ['0', '0', Text.hexChar (n / 16), Text.hexChar (n % 16)]).length = 4 := by
  decide

theorem readHex4_control {n : Nat} (hn : n < 0x20) (rest : List Char) :
    readHex4 ('0' :: '0' :: Text.hexChar (n / 16) :: Text.hexChar (n % 16) :: rest) =
      .ok (n, rest) := by
  obtain ⟨hhigh, hlow, hlength⟩ := hexDigits_control n hn
  have hzero : Text.hexDigit? '0' = some 0 := by decide
  have hvalue : 0 * 4096 + 0 * 256 + n / 16 * 16 + n % 16 = n := by omega
  rw [readHex4]
  simp only [List.take_succ_cons, List.take_zero, hlength, Nat.lt_irrefl, if_false, hzero,
    hhigh, hlow, hvalue]

theorem readEscape_control {c : Char} (hc : c.toNat < 0x20) (rest : List Char) :
    readEscape ('u' :: '0' :: '0' :: Text.hexChar (c.toNat / 16)
      :: Text.hexChar (c.toNat % 16) :: rest) = .ok (c, rest) := by
  rw [readEscape, readHex4_control hc]
  have hlow : ¬ (0xDC00 ≤ c.toNat ∧ c.toNat ≤ 0xDFFF) := by omega
  have hhigh : ¬ (0xD800 ≤ c.toNat ∧ c.toNat ≤ 0xDBFF) := by omega
  simp only [hlow, hhigh, if_false, Char.ofNat_toNat]

theorem readChars_writeChar (fuel : Nat) (c : Char) {rest after : List Char}
    {more : List Char} (hmore : readChars fuel rest = .ok (more, after)) :
    readChars (fuel + 1) (writeChar c ++ rest) = .ok (c :: more, after) := by
  unfold writeChar
  split
  · simp [readChars, readEscape, shortEscape?, hmore]
  · simp [readChars, readEscape, shortEscape?, hmore]
  · simp [readChars, readEscape, shortEscape?, hmore]
  · simp [readChars, readEscape, shortEscape?, hmore]
  · simp [readChars, readEscape, shortEscape?, hmore]
  · simp [readChars, readEscape, shortEscape?, hmore]
  · simp [readChars, readEscape, shortEscape?, hmore]
  · rename_i hquote hslash _ _ _ _ _
    split
    · rename_i hcontrol
      simp only [List.cons_append, List.nil_append, readChars,
        readEscape_control hcontrol, hmore]
    · rename_i hplain
      rw [List.cons_append, List.nil_append, readChars, if_neg hplain, hmore]
      · exact hquote
      · exact hslash

theorem writeChar_length_pos (c : Char) : 0 < (writeChar c).length := by
  unfold writeChar
  split
  all_goals first | decide | (split <;> simp)

theorem readChars_flatMap (cs rest : List Char) {fuel : Nat}
    (hfuel : (cs.flatMap writeChar).length < fuel) :
    readChars fuel (cs.flatMap writeChar ++ '"' :: rest) = .ok (cs, rest) := by
  induction cs generalizing fuel with
  | nil =>
      cases fuel with
      | zero => exact absurd hfuel (Nat.not_lt_zero _)
      | succ n => rfl
  | cons c cs ih =>
      rw [List.flatMap_cons, List.length_append] at hfuel
      have hpos := writeChar_length_pos c
      obtain ⟨less, rfl⟩ : ∃ less, fuel = less + 1 := ⟨fuel - 1, by omega⟩
      rw [List.flatMap_cons, List.append_assoc]
      exact readChars_writeChar less c (ih (by omega))

/-- A written string is read back, and what stands behind it is left. -/
theorem readStringTail_writeString (s : String) (rest : List Char) :
    readStringTail (s.toList.flatMap writeChar ++ '"' :: rest) = .ok (s, rest) := by
  rw [readStringTail, readChars_flatMap s.toList rest]
  · simp only [String.ofList_toList]
  · rw [List.length_append]
    omega

end Json

end CapabilityMesh
