/-
The bytes that a text with escapes stands for.  An escape is one byte; every other character
stands for its own bytes.  So a text stands for its own bytes if it has no escape, and to
encode it changes nothing of what it stands for.
-/
import CapabilityMesh.Proofs.Text.Utf8
import CapabilityMesh.Url.Percent

namespace CapabilityMesh

namespace Url

def isEscape : List Char → Bool
  | '%' :: a :: b :: _ => (Text.hexDigit? a).isSome && (Text.hexDigit? b).isSome
  | _ => false

theorem isEscape_iff {cs : List Char} :
    isEscape cs = true ↔ ∃ a b rest, cs = '%' :: a :: b :: rest ∧
      (Text.hexDigit? a).isSome = true ∧ (Text.hexDigit? b).isSome = true := by
  constructor
  · intro h
    unfold isEscape at h
    split at h
    · rename_i a b rest
      obtain ⟨ha, hb⟩ := Bool.and_eq_true_iff.mp h
      exact ⟨a, b, rest, rfl, ha, hb⟩
    · cases h
  · rintro ⟨a, b, rest, rfl, ha, hb⟩
    rw [isEscape, ha, hb]
    rfl

theorem decodeBytes_escape {a b : Char} (ha : (Text.hexDigit? a).isSome = true)
    (hb : (Text.hexDigit? b).isSome = true) :
    ∃ byte, ∀ rest, decodeBytes ('%' :: a :: b :: rest) = byte :: decodeBytes rest := by
  obtain ⟨x, hx⟩ := Option.isSome_iff_exists.mp ha
  obtain ⟨y, hy⟩ := Option.isSome_iff_exists.mp hb
  refine ⟨(x * 16 + y).toUInt8, fun rest => ?_⟩
  rw [decodeBytes, hx, hy]

theorem decodeBytes_cons {c : Char} {cs : List Char} (h : isEscape (c :: cs) = false) :
    decodeBytes (c :: cs) = Text.utf8OfChar c ++ decodeBytes cs := by
  by_cases hlong : ∃ a b rest, c = '%' ∧ cs = a :: b :: rest
  · obtain ⟨a, b, rest, rfl, rfl⟩ := hlong
    rw [isEscape, Bool.and_eq_false_iff] at h
    rw [decodeBytes]
    split
    · rename_i hx hy
      simp [hx, hy] at h
    · rfl
  · rw [decodeBytes]
    rintro a b rest rfl rfl
    exact hlong ⟨a, b, rest, rfl, rfl⟩

@[elab_as_elim]
theorem escape_induction {P : List Char → Prop} (nil : P [])
    (escape : ∀ a b rest, (Text.hexDigit? a).isSome = true → (Text.hexDigit? b).isSome = true →
      P rest → P ('%' :: a :: b :: rest))
    (cons : ∀ c cs, isEscape (c :: cs) = false → P cs → P (c :: cs)) (cs : List Char) :
    P cs := by
  induction hlength : cs.length using Nat.strongRecOn generalizing cs with
  | ind length ih =>
      subst hlength
      cases cs with
      | nil => exact nil
      | cons c cs =>
          cases hescape : isEscape (c :: cs) with
          | false => exact cons c cs hescape (ih _ (Nat.lt_succ_self _) cs rfl)
          | true =>
              obtain ⟨a, b, rest, hcs, ha, hb⟩ := isEscape_iff.mp hescape
              obtain ⟨rfl, rfl⟩ := List.cons.inj hcs
              exact escape a b rest ha hb
                (ih _ (by simp only [List.length_cons]; omega) rest rfl)

theorem digit?_wide {c : Char} (hc : 0x80 ≤ c.toNat) : Text.digit? c = none := by
  rw [Text.digit?, if_neg]
  rintro ⟨-, hle⟩
  have : c.toNat ≤ '9'.toNat := hle
  have h9 : '9'.toNat = 57 := rfl
  omega

theorem hexDigit?_wide {c : Char} (hc : 0x80 ≤ c.toNat) : Text.hexDigit? c = none := by
  have hle : ∀ {d : Char}, d.toNat < 0x80 → ¬ c ≤ d := by
    intro d hd hcd
    have : c.toNat ≤ d.toNat := hcd
    omega
  rw [Text.hexDigit?, if_neg, if_neg, if_neg]
  · exact fun h => hle (by decide) h.2
  · exact fun h => hle (by decide) h.2
  · exact fun h => hle (by decide) h.2

/-- A character outside ASCII at the end completes no escape. -/
theorem isEscape_concat {w : Char} (hw : 0x80 ≤ w.toNat) (cs : List Char) :
    isEscape (cs ++ [w]) = isEscape cs := by
  rw [Bool.eq_iff_iff, isEscape_iff, isEscape_iff]
  constructor
  · rintro ⟨a, b, rest, hcs, ha, hb⟩
    rcases List.eq_nil_or_concat rest with rfl | ⟨front, last, rfl⟩
    · have hlast : cs ++ [w] = ['%', a] ++ [b] := hcs
      obtain ⟨-, hlast⟩ := List.append_inj' hlast rfl
      rw [← (List.cons.inj hlast).1, hexDigit?_wide hw] at hb
      cases hb
    · have hfront : cs ++ [w] = ('%' :: a :: b :: front) ++ [last] := by simpa using hcs
      obtain ⟨hfront, -⟩ := List.append_inj' hfront rfl
      exact ⟨a, b, front, hfront, ha, hb⟩
  · rintro ⟨a, b, rest, rfl, ha, hb⟩
    exact ⟨a, b, rest ++ [w], rfl, ha, hb⟩

theorem decodeBytes_concat {w : Char} (hw : 0x80 ≤ w.toNat) (cs : List Char) :
    decodeBytes (cs ++ [w]) = decodeBytes cs ++ Text.utf8OfChar w := by
  induction cs using escape_induction with
  | nil =>
      rw [List.nil_append, decodeBytes_cons (isEscape_concat hw [])]
      simp [decodeBytes]
  | escape a b rest ha hb ih =>
      obtain ⟨byte, hbyte⟩ := decodeBytes_escape ha hb
      simp only [List.cons_append, hbyte, ih]
  | cons c cs hplain ih =>
      have hlonger : isEscape (c :: (cs ++ [w])) = false :=
        (isEscape_concat hw (c :: cs)).trans hplain
      rw [List.cons_append, decodeBytes_cons hlonger, decodeBytes_cons hplain, ih,
        List.append_assoc]

/-- Whether an escape stands anywhere in a text. -/
def hasEscape : List Char → Bool
  | [] => false
  | c :: cs => isEscape (c :: cs) || hasEscape cs

theorem decodeBytes_eq_utf8 {cs : List Char} (hcs : hasEscape cs = false) :
    decodeBytes cs = Text.utf8 cs := by
  induction cs with
  | nil => rfl
  | cons c cs ih =>
      obtain ⟨hc, hcs⟩ := Bool.or_eq_false_iff.mp hcs
      rw [decodeBytes_cons hc, ih hcs]
      rfl

theorem length_utf8OfChar (c : Char) : 0 < (Text.utf8OfChar c).length := by
  obtain ⟨b, more, hbytes, -, -⟩ := Text.headUtf8_utf8OfChar c []
  rw [hbytes]
  exact Nat.succ_pos _

theorem length_utf8 (cs : List Char) : cs.length ≤ (Text.utf8 cs).length := by
  induction cs with
  | nil => exact Nat.le_refl _
  | cons c cs ih =>
      have hc := length_utf8OfChar c
      rw [Text.utf8, List.flatMap_cons, List.length_append, ← Text.utf8, List.length_cons]
      omega

theorem length_decodeBytes_le (cs : List Char) :
    (decodeBytes cs).length ≤ (Text.utf8 cs).length := by
  induction cs using escape_induction with
  | nil => exact Nat.le_refl _
  | escape a b rest ha hb ih =>
      obtain ⟨byte, hbyte⟩ := decodeBytes_escape ha hb
      have hmore := length_utf8OfChar '%'
      rw [hbyte, List.length_cons]
      simp only [Text.utf8, List.flatMap_cons, List.length_append] at ih ⊢
      omega
  | cons c cs hplain ih =>
      rw [decodeBytes_cons hplain]
      simp only [Text.utf8, List.flatMap_cons, List.length_append] at ih ⊢
      omega

theorem length_decodeBytes_lt {cs : List Char} (hcs : hasEscape cs = true) :
    (decodeBytes cs).length < (Text.utf8 cs).length := by
  induction cs using escape_induction with
  | nil => cases hcs
  | escape a b rest ha hb ih =>
      obtain ⟨byte, hbyte⟩ := decodeBytes_escape ha hb
      have hle := length_decodeBytes_le rest
      have hmore := length_utf8OfChar '%'
      have hdigit := length_utf8OfChar a
      rw [hbyte, List.length_cons]
      simp only [Text.utf8, List.flatMap_cons, List.length_append] at hle ⊢
      omega
  | cons c cs hplain ih =>
      rw [hasEscape, hplain, Bool.false_or] at hcs
      have hlt := ih hcs
      rw [decodeBytes_cons hplain]
      simp only [Text.utf8, List.flatMap_cons, List.length_append] at hlt ⊢
      omega

theorem hexDigit?_hexChar : ∀ n < 16, Text.hexDigit? (Text.hexChar n).toUpper = some n := by
  decide

theorem decodeBytes_escapes (bytes : List UInt8) (rest : List Char) :
    decodeBytes (bytes.flatMap escapeByte ++ rest) = bytes ++ decodeBytes rest := by
  induction bytes with
  | nil => rfl
  | cons b bytes ih =>
      have hlt := b.toNat_lt
      have hhigh := hexDigit?_hexChar (b.toNat / 16) (by omega)
      have hlow := hexDigit?_hexChar (b.toNat % 16) (by omega)
      rw [List.flatMap_cons, List.append_assoc, List.cons_append, ← ih, escapeByte,
        Text.hexByte, List.cons_append, List.cons_append, List.cons_append, List.nil_append,
        decodeBytes, hhigh, hlow]
      simp only [List.cons.injEq, and_true]
      rw [Nat.div_add_mod' b.toNat 16]
      exact UInt8.ofNat_toNat

theorem encode_cons (set : Char → Bool) (c : Char) (cs : List Char) :
    encode set (c :: cs) = encodeChar set c ++ encode set cs :=
  List.flatMap_cons

theorem not_inPathSet_hexDigit {c : Char} (hc : (Text.hexDigit? c).isSome = true) :
    inPathSet c = false := by
  have hall : ∀ n < 0x80, (Text.hexDigit? (Char.ofNat n)).isSome = true →
      inPathSet (Char.ofNat n) = false := by decide
  have hlt : c.toNat < 0x80 := by
    refine Nat.lt_of_not_le fun hwide => ?_
    rw [hexDigit?_wide hwide] at hc
    cases hc
  have hpath := hall c.toNat hlt
  rw [Char.ofNat_toNat] at hpath
  exact hpath hc

theorem encodeChar_of_not {set : Char → Bool} {c : Char} (hc : set c = false) :
    encodeChar set c = [c] := by
  rw [encodeChar, hc]
  rfl

/-- A character that is encoded begins with a percent sign. -/
theorem encodeChar_of_mem {set : Char → Bool} {c : Char} (hc : set c = true) :
    ∃ rest, encodeChar set c = '%' :: rest := by
  obtain ⟨b, more, hbytes, -, -⟩ := Text.headUtf8_utf8OfChar c []
  rw [encodeChar, if_pos hc, hbytes, List.flatMap_cons]
  exact ⟨_, rfl⟩

/-- Digits stay as they are, and nothing else becomes a digit. -/
theorem encode_cons_cases (c : Char) (cs : List Char) :
    ((Text.hexDigit? c).isSome = true ∧ encode inPathSet (c :: cs) = c :: encode inPathSet cs) ∨
      ((Text.hexDigit? c).isSome = false ∧ ∃ d rest, encode inPathSet (c :: cs) = d :: rest ∧
        (Text.hexDigit? d).isSome = false) := by
  rw [encode_cons]
  cases hdigit : (Text.hexDigit? c).isSome with
  | true =>
      rw [encodeChar_of_not (not_inPathSet_hexDigit hdigit)]
      exact Or.inl ⟨rfl, rfl⟩
  | false =>
      refine Or.inr ⟨rfl, ?_⟩
      cases hpath : inPathSet c with
      | false =>
          rw [encodeChar_of_not hpath]
          exact ⟨c, _, rfl, hdigit⟩
      | true =>
          obtain ⟨rest, hrest⟩ := encodeChar_of_mem hpath
          rw [hrest]
          exact ⟨'%', _, rfl, by decide⟩

/-- To encode what stands behind a character neither completes nor breaks an escape. -/
theorem isEscape_encode (c : Char) (cs : List Char) :
    isEscape (c :: encode inPathSet cs) = isEscape (c :: cs) := by
  by_cases hpercent : c = '%'
  · subst hpercent
    cases cs with
    | nil => rfl
    | cons a cs =>
        rcases encode_cons_cases a cs with ⟨ha, hcs⟩ | ⟨ha, d, rest, hcs, hd⟩
        · rw [hcs]
          cases cs with
          | nil => rfl
          | cons b cs =>
              rcases encode_cons_cases b cs with ⟨hb, hcs⟩ | ⟨hb, d, rest, hcs, hd⟩
              · rw [hcs]
                rfl
              · rw [hcs, isEscape, isEscape, hb, hd]
        · rw [hcs]
          cases rest <;> cases cs <;> simp [isEscape, ha, hd]
  · have hnone : ∀ rest, isEscape (c :: rest) = false := by
      intro rest
      rw [Bool.eq_false_iff, ne_eq, isEscape_iff]
      rintro ⟨a, b, more, hcons, -⟩
      exact hpercent (List.cons.inj hcons).1
    rw [hnone, hnone]

/-- An encoded text stands for what it stood for before. -/
theorem decodeBytes_encode (cs : List Char) :
    decodeBytes (encode inPathSet cs) = decodeBytes cs := by
  induction cs using escape_induction with
  | nil => rfl
  | escape a b rest ha hb ih =>
      obtain ⟨byte, hbyte⟩ := decodeBytes_escape ha hb
      have hpercent : inPathSet '%' = false := by decide
      rw [encode_cons, encode_cons, encode_cons, encodeChar_of_not hpercent,
        encodeChar_of_not (not_inPathSet_hexDigit ha),
        encodeChar_of_not (not_inPathSet_hexDigit hb)]
      simp only [List.cons_append, List.nil_append, hbyte, ih]
  | cons c cs hplain ih =>
      rw [encode_cons, decodeBytes_cons hplain, ← ih]
      cases hpath : inPathSet c with
      | true => rw [encodeChar, if_pos hpath, decodeBytes_escapes]
      | false =>
          rw [encodeChar_of_not hpath, List.singleton_append, decodeBytes_cons]
          rw [isEscape_encode]
          exact hplain

end Url

end CapabilityMesh
