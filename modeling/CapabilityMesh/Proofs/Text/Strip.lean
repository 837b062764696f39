/-
Text without the members of a class at its ends.  What is left begins and ends with
characters of other classes, so that nothing is left to take away.
-/
import Mathlib.Data.List.DropRight
import CapabilityMesh.Text.Blank

namespace CapabilityMesh

namespace Text

variable {p : Char → Bool}

/-- What is taken away at the end are members of the class. -/
theorem exists_eq_dropEnd_append (p : Char → Bool) (cs : List Char) :
    ∃ behind, cs = dropEnd p cs ++ behind ∧ ∀ c ∈ behind, p c = true :=
  ⟨cs.rtakeWhile p, List.rdropWhile_append_rtakeWhile.symm,
    fun _ => List.mem_rtakeWhile_imp⟩

theorem dropEnd_append (xs ys : List Char) :
    dropEnd p (xs ++ ys) = if dropEnd p ys = [] then dropEnd p xs else xs ++ dropEnd p ys := by
  simp only [dropEnd, List.reverse_append, List.dropWhile_append, List.isEmpty_iff,
    List.reverse_eq_nil_iff]
  split
  · rfl
  · rw [List.reverse_append, List.reverse_reverse]

/-- A first character that is not of the class stays. -/
theorem dropEnd_cons {c : Char} (hc : p c = false) (cs : List Char) :
    dropEnd p (c :: cs) = c :: dropEnd p cs := by
  have hfirst : dropEnd p [c] = [c] := by simp [dropEnd, hc]
  rw [← List.singleton_append, dropEnd_append, hfirst]
  split
  · rename_i hnone
    rw [hnone]
  · rfl

/-- Nothing is taken away behind a character that is not of the class. -/
theorem dropEnd_eq_self {cs : List Char} (hcs : ∀ c, cs.getLast? = some c → p c = false) :
    dropEnd p cs = cs := by
  refine List.rdropWhile_eq_self_iff.mpr fun hne => ?_
  simpa using hcs _ (List.getLast?_eq_some_getLast hne)

theorem dropEnd_dropEnd (cs : List Char) : dropEnd p (dropEnd p cs) = dropEnd p cs :=
  List.rdropWhile_idempotent p cs

theorem getLast?_dropEnd {cs : List Char} {c : Char} (hc : (dropEnd p cs).getLast? = some c) :
    p c = false := by
  obtain ⟨hne, rfl⟩ := List.mem_getLast?_eq_getLast hc
  have hlast : ¬ p ((dropEnd p cs).getLast hne) = true := List.rdropWhile_last_not p cs hne
  simpa using hlast

/-- Nothing of the class is left, or text that begins with another character. -/
theorem dropWhile_cases (p : Char → Bool) (cs : List Char) :
    cs.dropWhile p = [] ∨ ∃ c rest, cs.dropWhile p = c :: rest ∧ p c = false := by
  cases hdrop : cs.dropWhile p with
  | nil => exact Or.inl rfl
  | cons c rest =>
      have hfirst := List.head_dropWhile_not p (l := cs) (by simp [hdrop])
      exact Or.inr ⟨c, rest, rfl, by simpa [hdrop] using hfirst⟩

theorem strip_strip (p : Char → Bool) (cs : List Char) : strip p (strip p cs) = strip p cs := by
  simp only [strip]
  rcases dropWhile_cases p cs with hnone | ⟨c, rest, hrest, hc⟩
  · rw [hnone]
    rfl
  · rw [hrest, dropEnd_cons hc, List.dropWhile_cons_of_neg (by simp [hc]), dropEnd_cons hc,
      dropEnd_dropEnd]

theorem dropWhile_eq_self {cs : List Char} (hcs : ∀ c ∈ cs, p c = false) :
    cs.dropWhile p = cs := by
  rw [List.dropWhile_eq_self_iff]
  intro hlength
  simpa using hcs _ (List.getElem_mem hlength)

theorem strip_eq_self {cs : List Char} (hcs : ∀ c ∈ cs, p c = false) : strip p cs = cs := by
  rw [strip, dropWhile_eq_self hcs,
    dropEnd_eq_self fun c hc => hcs c (List.mem_of_getLast? hc)]

/-- A character that is not of the class keeps what stands before it, up to its own outer
members of the class. -/
theorem strip_append_cons {c : Char} (hc : p c = false) (front rest : List Char) :
    strip p (front ++ c :: rest) = front.dropWhile p ++ c :: dropEnd p rest := by
  have hback := dropEnd_cons hc rest
  have hstart : (c :: rest).dropWhile p = c :: rest :=
    List.dropWhile_cons_of_neg (by simp [hc])
  rw [strip, List.dropWhile_append, hstart]
  split
  · rename_i hnone
    rw [List.isEmpty_iff.mp hnone, hback]
    rfl
  · rw [dropEnd_append, hback, if_neg (by simp)]

/-- What is not of the class stays. -/
theorem mem_strip {c : Char} (hc : p c = false) {cs : List Char} (hmem : c ∈ cs) :
    c ∈ strip p cs := by
  obtain ⟨front, rest, rfl⟩ := List.append_of_mem hmem
  rw [strip_append_cons hc]
  exact List.mem_append_right _ List.mem_cons_self

/-- To take another class away at the end before takes some more, of either class. -/
theorem exists_dropEnd_eq_append (p q : Char → Bool) (cs : List Char) :
    ∃ behind, dropEnd p cs = dropEnd p (dropEnd q cs) ++ behind ∧
      (∀ c ∈ behind, p c = true ∨ q c = true) ∧
      ∀ c, behind.getLast? = some c → p c = false ∧ q c = true := by
  obtain ⟨last, hlast, hq⟩ := exists_eq_dropEnd_append q cs
  obtain ⟨before, hbefore, hp⟩ := exists_eq_dropEnd_append p (dropEnd q cs)
  have hcs : cs = dropEnd p (dropEnd q cs) ++ (before ++ last) := by
    rw [← List.append_assoc, ← hbefore]
    exact hlast
  have hmem : ∀ c ∈ dropEnd p (before ++ last), c ∈ before ++ last := fun c hc =>
    (List.rdropWhile_prefix p _).subset hc
  refine ⟨dropEnd p (before ++ last), ?_, ?_, ?_⟩
  · conv_lhs => rw [hcs, dropEnd_append]
    split
    · rename_i hnone
      rw [hnone, dropEnd_dropEnd, List.append_nil]
    · rfl
  · intro c hc
    rcases List.mem_append.mp (hmem c hc) with hc | hc
    · exact Or.inl (hp c hc)
    · exact Or.inr (hq c hc)
  · intro c hc
    have hnot := getLast?_dropEnd hc
    refine ⟨hnot, ?_⟩
    rcases List.mem_append.mp (hmem c (List.mem_of_getLast? hc)) with hc | hc
    · rw [hp c hc] at hnot
      cases hnot
    · exact hq c hc

theorem strip_eq_nil_iff {cs : List Char} : strip p cs = [] ↔ ∀ c ∈ cs, p c = true := by
  rcases dropWhile_cases p cs with hnone | ⟨c, rest, hrest, hc⟩
  · rw [strip, hnone]
    exact ⟨fun _ => List.dropWhile_eq_nil_iff.mp hnone, fun _ => rfl⟩
  · rw [strip, hrest, dropEnd_cons hc]
    refine ⟨fun h => absurd h (List.cons_ne_nil _ _), fun hall => ?_⟩
    have hmem : c ∈ cs := (List.dropWhile_suffix p).subset (by rw [hrest]; simp)
    rw [hall c hmem] at hc
    cases hc

/-- Nothing is left of blanks alone. -/
theorem isEmpty_trim (s : String) : (trim s).isEmpty = isBlankText s := by
  rw [Bool.eq_iff_iff, isBlankText, List.all_eq_true, ← strip_eq_nil_iff, trim,
    String.isEmpty_iff, String.ofList_eq_empty_iff]

/-- Text without outer blanks has none. -/
theorem trim_trim (s : String) : trim (trim s) = trim s := by
  rw [trim, trim, String.toList_ofList, strip_strip]

theorem trim_eq_self {s : String} (hs : ∀ c ∈ s.toList, isBlank c = false) : trim s = s := by
  rw [trim, strip_eq_self hs, String.ofList_toList]

end Text

end CapabilityMesh
