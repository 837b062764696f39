/-
Texts that are cut and put together again.  Where a text is made of parts with a separator
between them, the pieces of the whole are those of the parts, one after the other; and between
the bytes of two beginnings stands what the longer one has more.
-/
import Mathlib.Data.List.Basic
import CapabilityMesh.Text.Split

namespace CapabilityMesh

namespace Text

section Separator

variable (sep : Char)

theorem splitOn_ne_nil (cs : List Char) : splitOn sep cs ≠ [] := by
  induction cs with
  | nil => simp [splitOn]
  | cons c cs ih =>
      rw [splitOn]
      split
      · exact List.cons_ne_nil _ _
      · split <;> exact List.cons_ne_nil _ _

theorem splitOn_sep (cs : List Char) : splitOn sep (sep :: cs) = [] :: splitOn sep cs := by
  rw [splitOn]
  split
  · rename_i hnil
    exact absurd hnil (splitOn_ne_nil sep cs)
  · rename_i first rest hpieces
    rw [if_pos rfl, hpieces]

theorem splitOn_cons {c : Char} (hc : c ≠ sep) {cs first : List Char} {rest : List (List Char)}
    (hcs : splitOn sep cs = first :: rest) :
    splitOn sep (c :: cs) = (c :: first) :: rest := by
  rw [splitOn, hcs]
  exact if_neg hc

/-- A text without separators is one piece. -/
theorem splitOn_eq_self {cs : List Char} (hcs : sep ∉ cs) : splitOn sep cs = [cs] := by
  induction cs with
  | nil => rfl
  | cons c cs ih =>
      rw [List.mem_cons, not_or] at hcs
      obtain ⟨hc, hcs⟩ := hcs
      exact splitOn_cons sep (Ne.symm hc) (ih hcs)

/-- The pieces on both sides of a separator. -/
theorem splitOn_append_sep (front behind : List Char) :
    splitOn sep (front ++ sep :: behind) = splitOn sep front ++ splitOn sep behind := by
  induction front with
  | nil => exact splitOn_sep sep behind
  | cons c front ih =>
      by_cases hc : c = sep
      · subst hc
        rw [List.cons_append, splitOn_sep, splitOn_sep, ih, List.cons_append]
      · obtain ⟨first, rest, hpieces⟩ := List.exists_cons_of_ne_nil (splitOn_ne_nil sep front)
        rw [hpieces, List.cons_append] at ih
        rw [List.cons_append, splitOn_cons sep hc ih, splitOn_cons sep hc hpieces,
          List.cons_append]

/-- What is written behind a text without separators of its own belongs to the last piece. -/
theorem exists_splitOn_append (front : List Char) :
    ∃ before last, splitOn sep front = before ++ [last] ∧
      ∀ behind, sep ∉ behind → splitOn sep (front ++ behind) = before ++ [last ++ behind] := by
  induction front with
  | nil => exact ⟨[], [], rfl, fun behind hbehind => splitOn_eq_self sep hbehind⟩
  | cons c front ih =>
      obtain ⟨before, last, hfront, happend⟩ := ih
      by_cases hc : c = sep
      · subst hc
        refine ⟨[] :: before, last, by rw [splitOn_sep, hfront]; rfl, ?_⟩
        intro behind hbehind
        rw [List.cons_append, splitOn_sep, happend behind hbehind]
        rfl
      · cases before with
        | nil =>
            refine ⟨[], c :: last, splitOn_cons sep hc hfront, ?_⟩
            intro behind hbehind
            exact splitOn_cons sep hc (happend behind hbehind)
        | cons first before =>
            refine ⟨(c :: first) :: before, last, splitOn_cons sep hc hfront, ?_⟩
            intro behind hbehind
            exact splitOn_cons sep hc (happend behind hbehind)

/-- The pieces of parts with a separator between them. -/
theorem splitOn_intercalate (last : List Char) (parts : List (List Char)) :
    splitOn sep ([sep].intercalate (parts ++ [last])) =
      parts.flatMap (splitOn sep) ++ splitOn sep last := by
  induction parts with
  | nil => simp
  | cons part parts ih =>
      have hmore : [sep].intercalate (part :: (parts ++ [last])) =
          part ++ sep :: [sep].intercalate (parts ++ [last]) := by
        cases parts <;> simp [List.intercalate]
      rw [List.cons_append, hmore, splitOn_append_sep, ih, List.flatMap_cons, List.append_assoc]

end Separator

theorem behind?_eq_some {front cs behind : List Char} :
    behind? front cs = some behind ↔ cs = front ++ behind := by
  rw [behind?, Option.ite_none_right_eq_some, List.isPrefixOf_iff_prefix]
  constructor
  · rintro ⟨⟨rest, rfl⟩, hrest⟩
    rw [List.drop_left, Option.some.injEq] at hrest
    rw [hrest]
  · rintro rfl
    exact ⟨List.prefix_append front behind, by rw [List.drop_left]⟩

@[simp] theorem byteSize_nil : byteSize [] = 0 := rfl

@[simp] theorem byteSize_cons (c : Char) (cs : List Char) :
    byteSize (c :: cs) = c.utf8Size + byteSize cs :=
  rfl

@[simp] theorem byteSize_append (front behind : List Char) :
    byteSize (front ++ behind) = byteSize front + byteSize behind := by
  induction front with
  | nil => rw [List.nil_append, byteSize_nil, Nat.zero_add]
  | cons c front ih =>
      rw [List.cons_append, byteSize_cons, byteSize_cons, ih, Nat.add_assoc]

theorem eq_nil_of_byteSize_eq_zero {cs : List Char} (h : byteSize cs = 0) : cs = [] := by
  cases cs with
  | nil => rfl
  | cons c cs =>
      have hc := Char.utf8Size_pos c
      rw [byteSize_cons] at h
      omega

theorem dropBytes?_append (front behind : List Char) :
    dropBytes? (byteSize front) (front ++ behind) = some behind := by
  induction front with
  | nil => cases behind <;> rfl
  | cons c front ih =>
      obtain ⟨n, hn⟩ := Nat.exists_eq_add_of_le' (Nat.add_le_add (Char.utf8Size_pos c)
        (Nat.zero_le (byteSize front)))
      have hrest : n + 1 - c.utf8Size = byteSize front := by omega
      rw [byteSize_cons, hn, List.cons_append, dropBytes?, if_pos (by omega), hrest, ih]

theorem takeBytes?_append (front behind : List Char) :
    takeBytes? (byteSize front) (front ++ behind) = some front := by
  induction front with
  | nil => cases behind <;> rfl
  | cons c front ih =>
      obtain ⟨n, hn⟩ := Nat.exists_eq_add_of_le' (Nat.add_le_add (Char.utf8Size_pos c)
        (Nat.zero_le (byteSize front)))
      have hrest : n + 1 - c.utf8Size = byteSize front := by omega
      rw [byteSize_cons, hn, List.cons_append, takeBytes?, if_pos (by omega), hrest, ih,
        Option.map_some]

theorem eq_append_of_dropBytes? {n : Nat} {cs behind : List Char}
    (h : dropBytes? n cs = some behind) : ∃ front, cs = front ++ behind ∧ byteSize front = n := by
  induction cs generalizing n with
  | nil =>
      cases n with
      | zero => exact ⟨[], Option.some.inj h, rfl⟩
      | succ n => cases h
  | cons c cs ih =>
      cases n with
      | zero => exact ⟨[], Option.some.inj h, rfl⟩
      | succ n =>
          rw [dropBytes?] at h
          split at h
          · rename_i hc
            obtain ⟨front, rfl, hfront⟩ := ih h
            refine ⟨c :: front, rfl, ?_⟩
            rw [byteSize_cons, hfront]
            omega
          · cases h

/-- Between the bytes of two beginnings stands what the longer one has more. -/
theorem slice?_append (front middle behind : List Char) :
    slice? (byteSize front) (byteSize (front ++ middle)) (front ++ middle ++ behind) =
      some middle := by
  rw [slice?, List.append_assoc, dropBytes?_append, byteSize_append, Nat.add_sub_cancel_left]
  exact takeBytes?_append middle behind

/-- What is cut up to the end is all that stands behind the place of the cut. -/
theorem eq_append_of_slice?_byteSize {first : Nat} {cs behind : List Char}
    (h : slice? first (byteSize cs) cs = some behind) :
    ∃ front, cs = front ++ behind ∧ byteSize front = first := by
  obtain ⟨rest, hrest, hbehind⟩ := Option.bind_eq_some_iff.mp h
  obtain ⟨front, rfl, rfl⟩ := eq_append_of_dropBytes? hrest
  have hall := takeBytes?_append rest []
  rw [List.append_nil] at hall
  rw [byteSize_append, Nat.add_sub_cancel_left, hall] at hbehind
  obtain rfl := Option.some.inj hbehind
  exact ⟨front, rfl, rfl⟩

end Text

end CapabilityMesh
