/-
Characters can be found in the bytes of a text wherever they stand.  The first byte of a
character continues no other, so that whatever stands before it ends there.
-/
import CapabilityMesh.Text.Utf8

namespace CapabilityMesh

namespace Text

theorem toNat_toUInt8 {n : Nat} (hn : n < 256) : n.toUInt8.toNat = n :=
  UInt8.toNat_ofNat_of_lt' hn

theorem isContinuation_iff {b : UInt8} :
    isContinuation b = true ↔ 0x80 ≤ b.toNat ∧ b.toNat ≤ 0xBF := by
  simp [isContinuation, UInt8.le_iff_toNat_le]

theorem toNat_ranges (c : Char) : c.toNat < 0xD800 ∨ (0xDFFF < c.toNat ∧ c.toNat < 0x110000) :=
  c.valid

theorem secondByteOk_iff {lead second : UInt8} :
    secondByteOk lead second = true ↔ isContinuation second = true ∧
      (lead.toNat = 0xE0 → 0xA0 ≤ second.toNat) ∧ (lead.toNat = 0xED → second.toNat ≤ 0x9F) ∧
      (lead.toNat = 0xF0 → 0x90 ≤ second.toNat) ∧ (lead.toNat = 0xF4 → second.toNat ≤ 0x8F) := by
  rw [isContinuation_iff]
  simp only [secondByteOk, ← UInt8.toNat_inj, UInt8.reduceToNat]
  split
  · simp [UInt8.le_iff_toNat_le]
    omega
  · split
    · simp [UInt8.le_iff_toNat_le]
      omega
    · split
      · simp [UInt8.le_iff_toNat_le]
        omega
      · split
        · simp [UInt8.le_iff_toNat_le]
          omega
        · rw [isContinuation_iff]
          omega

section Heads

variable {b b1 b2 b3 : UInt8} (rest : List UInt8)

theorem headUtf8_one (hb : b.toNat < 0x80) :
    headUtf8 b rest = (some (Char.ofNat b.toNat), 0) := by
  rw [headUtf8.eq_def]
  exact if_pos hb

theorem headUtf8_two (hlow : 0xC2 ≤ b.toNat) (hhigh : b.toNat < 0xE0)
    (h1 : isContinuation b1 = true) :
    headUtf8 b (b1 :: rest) =
      (some (Char.ofNat ((b.toNat - 0xC0) * 64 + payload b1)), 1) := by
  rw [headUtf8.eq_def]
  simp only [h1, if_true]
  rw [if_neg (by omega), if_neg (by omega), if_pos hhigh]

theorem headUtf8_three (hlow : 0xE0 ≤ b.toNat) (hhigh : b.toNat < 0xF0)
    (h1 : secondByteOk b b1 = true) (h2 : isContinuation b2 = true) :
    headUtf8 b (b1 :: b2 :: rest) =
      (some (Char.ofNat ((b.toNat - 0xE0) * 4096 + payload b1 * 64 + payload b2)), 2) := by
  rw [headUtf8.eq_def]
  simp only [h1, h2, if_true]
  rw [if_neg (by omega), if_neg (by omega), if_neg (by omega), if_pos hhigh]

theorem headUtf8_four (hlow : 0xF0 ≤ b.toNat) (hhigh : b.toNat < 0xF5)
    (h1 : secondByteOk b b1 = true) (h2 : isContinuation b2 = true)
    (h3 : isContinuation b3 = true) :
    headUtf8 b (b1 :: b2 :: b3 :: rest) =
      (some (Char.ofNat ((b.toNat - 0xF0) * 262144 + payload b1 * 4096 + payload b2 * 64
        + payload b3)), 3) := by
  rw [headUtf8.eq_def]
  simp only [h1, h2, h3, if_true]
  rw [if_neg (by omega), if_neg (by omega), if_neg (by omega), if_neg (by omega),
    if_pos hhigh]

end Heads

theorem isContinuation_tail (n : Nat) :
    isContinuation (0x80 + n % 64).toUInt8 = true ∧ payload (0x80 + n % 64).toUInt8 = n % 64 := by
  have hb := toNat_toUInt8 (n := 0x80 + n % 64) (by omega)
  rw [isContinuation_iff, payload]
  omega

/-- A character is read back from its bytes, and its first byte continues no other. -/
theorem headUtf8_utf8OfChar (c : Char) (rest : List UInt8) :
    ∃ b more, utf8OfChar c = b :: more ∧ isContinuation b = false ∧
      headUtf8 b (more ++ rest) = (some c, more.length) := by
  have hranges := toNat_ranges c
  have hback := Char.ofNat_toNat c
  rw [utf8OfChar]
  generalize c.toNat = n at hranges hback
  have hstarts : ∀ {b : UInt8}, b.toNat < 0x80 ∨ 0xBF < b.toNat →
      isContinuation b = false := by
    intro b hb
    rw [Bool.eq_false_iff, ne_eq, isContinuation_iff]
    omega
  obtain ⟨htail, hlow⟩ := isContinuation_tail n
  obtain ⟨htail1, hmiddle⟩ := isContinuation_tail (n / 64)
  obtain ⟨htail2, hhigh⟩ := isContinuation_tail (n / 4096)
  by_cases h1 : n < 0x80
  · have hb := toNat_toUInt8 (n := n) (by omega)
    refine ⟨_, [], if_pos h1, hstarts (by omega), ?_⟩
    rw [List.nil_append, headUtf8_one _ (by omega), hb, hback]
    rfl
  · by_cases h2 : n < 0x800
    · have hb := toNat_toUInt8 (n := 0xC0 + n / 64) (by omega)
      refine ⟨_, [_], by rw [if_neg h1, if_pos h2], hstarts (by omega), ?_⟩
      rw [List.singleton_append, headUtf8_two _ (by omega) (by omega) htail, hb, hlow,
        show (0xC0 + n / 64 - 0xC0) * 64 + n % 64 = n by omega, hback]
      rfl
    · by_cases h3 : n < 0x10000
      · have hb := toNat_toUInt8 (n := 0xE0 + n / 4096) (by omega)
        have hb1 := toNat_toUInt8 (n := 0x80 + n / 64 % 64) (by omega)
        refine ⟨_, [_, _], by rw [if_neg h1, if_neg h2, if_pos h3], hstarts (by omega), ?_⟩
        have hsecond : secondByteOk (0xE0 + n / 4096).toUInt8 (0x80 + n / 64 % 64).toUInt8 =
            true := secondByteOk_iff.mpr ⟨htail1, by omega, by omega, by omega, by omega⟩
        rw [List.cons_append, List.singleton_append,
          headUtf8_three _ (by omega) (by omega) hsecond htail, hb, hlow, hmiddle,
          show (0xE0 + n / 4096 - 0xE0) * 4096 + n / 64 % 64 * 64 + n % 64 = n by omega,
          hback]
        rfl
      · have hb := toNat_toUInt8 (n := 0xF0 + n / 262144) (by omega)
        have hb1 := toNat_toUInt8 (n := 0x80 + n / 4096 % 64) (by omega)
        refine ⟨_, [_, _, _], by rw [if_neg h1, if_neg h2, if_neg h3], hstarts (by omega), ?_⟩
        have hsecond : secondByteOk (0xF0 + n / 262144).toUInt8
            (0x80 + n / 4096 % 64).toUInt8 = true :=
          secondByteOk_iff.mpr ⟨htail2, by omega, by omega, by omega, by omega⟩
        rw [List.cons_append, List.cons_append, List.singleton_append,
          headUtf8_four _ (by omega) (by omega) hsecond htail1 htail, hb, hlow, hmiddle,
          hhigh, show (0xF0 + n / 262144 - 0xF0) * 262144 + n / 4096 % 64 * 4096
            + n / 64 % 64 * 64 + n % 64 = n by omega, hback]
        rfl

/-- The further bytes that belong to the head of a byte sequence continue characters. -/
theorem headUtf8_more (b : UInt8) (rest : List UInt8) :
    (headUtf8 b rest).2 ≤ rest.length ∧
      ∀ x ∈ rest.take (headUtf8 b rest).2, isContinuation x = true := by
  have hsecond : ∀ {x : UInt8}, secondByteOk b x = true → isContinuation x = true :=
    fun h => (secondByteOk_iff.mp h).1
  rw [headUtf8.eq_def]
  simp only
  -- Where a byte is counted as a further one, it was tested before.
  repeat' split
  all_goals simp_all

theorem scanUtf8_cons (b : UInt8) (rest : List UInt8) :
    scanUtf8 (b :: rest) = (headUtf8 b rest).1 :: scanUtf8 (rest.drop (headUtf8 b rest).2) := by
  rw [scanUtf8]

theorem scanUtf8_utf8OfChar (c : Char) (rest : List UInt8) :
    scanUtf8 (utf8OfChar c ++ rest) = some c :: scanUtf8 rest := by
  obtain ⟨b, more, hbytes, -, hhead⟩ := headUtf8_utf8OfChar c rest
  rw [hbytes, List.cons_append, scanUtf8_cons, hhead, List.drop_left]

/-- A character is found wherever its bytes stand. -/
theorem mem_scanUtf8 (before : List UInt8) (c : Char) (rest : List UInt8) :
    some c ∈ scanUtf8 (before ++ (utf8OfChar c ++ rest)) := by
  induction hlength : before.length using Nat.strongRecOn generalizing before with
  | ind length ih =>
      subst hlength
      cases before with
      | nil =>
          rw [List.nil_append, scanUtf8_utf8OfChar]
          exact List.mem_cons_self
      | cons b before =>
          obtain ⟨hle, hcontinue⟩ := headUtf8_more b (before ++ (utf8OfChar c ++ rest))
          rw [List.cons_append, scanUtf8_cons]
          generalize (headUtf8 b (before ++ (utf8OfChar c ++ rest))).2 = more at hle hcontinue
          -- What stands before the character cannot take its first byte.
          have hends : more ≤ before.length := by
            obtain ⟨first, others, hbytes, hstarts, -⟩ := headUtf8_utf8OfChar c rest
            refine Nat.le_of_not_lt fun hlonger => ?_
            rw [hbytes] at hcontinue
            have hfirst := hcontinue first (by
              rw [List.take_append, List.mem_append]
              obtain ⟨extra, hextra⟩ : ∃ extra, more - before.length = extra + 1 :=
                ⟨more - before.length - 1, by omega⟩
              rw [hextra]
              exact Or.inr List.mem_cons_self)
            rw [hstarts] at hfirst
            cases hfirst
          rw [List.drop_append_of_le_length hends]
          exact List.mem_cons_of_mem _
            (ih _ (by simp only [List.length_drop, List.length_cons]; omega) _ rfl)

/-- The characters of a text are read back from its bytes. -/
theorem scanUtf8_utf8 (cs : List Char) : scanUtf8 (utf8 cs) = cs.map some := by
  induction cs with
  | nil => simp [utf8, scanUtf8]
  | cons c cs ih =>
      rw [utf8, List.flatMap_cons, scanUtf8_utf8OfChar, List.map_cons, ← ih, utf8]

/-- A text is read back from its bytes. -/
theorem ofUtf8?_utf8 (cs : List Char) : ofUtf8? (utf8 cs) = some (String.ofList cs) := by
  have hall : (cs.map some).mapM id = some cs := by
    induction cs with
    | nil => rfl
    | cons c cs ih =>
        rw [List.map_cons, List.mapM_cons, ih]
        rfl
  rw [ofUtf8?, scanUtf8_utf8, hall]
  rfl

theorem ofUtf8Lossy_utf8 (cs : List Char) : ofUtf8Lossy (utf8 cs) = String.ofList cs := by
  rw [ofUtf8Lossy, scanUtf8_utf8, List.map_map]
  exact congrArg String.ofList (List.map_id cs)

theorem utf8_injective {cs ds : List Char} (h : utf8 cs = utf8 ds) : cs = ds := by
  have hscan := congrArg scanUtf8 h
  rw [scanUtf8_utf8, scanUtf8_utf8] at hscan
  exact (List.map_inj_right fun _ _ => Option.some.inj).mp hscan

theorem scanUtf8_of_ofUtf8? {bytes : List UInt8} {s : String} (h : ofUtf8? bytes = some s) :
    scanUtf8 bytes = s.toList.map some := by
  have hall : ∀ (found : List (Option Char)) (cs : List Char),
      found.mapM id = some cs → found = cs.map some := by
    intro found
    induction found with
    | nil =>
        intro cs h
        obtain rfl := Option.some.inj h
        rfl
    | cons first found ih =>
        intro cs h
        simp only [List.mapM_cons, Option.bind_eq_bind, Option.bind_eq_some_iff, id] at h
        obtain ⟨c, rfl, rest, hrest, hcs⟩ := h
        rw [← Option.some.inj hcs, ih rest hrest]
        rfl
  obtain ⟨cs, hcs, rfl⟩ := Option.map_eq_some_iff.mp h
  rw [String.toList_ofList]
  exact hall _ _ hcs

end Text

end CapabilityMesh
