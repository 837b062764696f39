/-
What may stand in front of a level.  A text with an equals sign and a level behind it is a
directive exactly if it is a target: the name of one, a span in brackets, or a name with a
span behind it.  The reading is followed character by character; where no blank stands in
front, every part is cut from the text just where it was read.
-/
import CapabilityMesh.Log.Directive
import CapabilityMesh.Proofs.Step
import CapabilityMesh.Proofs.Text.Letter
import CapabilityMesh.Proofs.Text.Number
import CapabilityMesh.Proofs.Text.Split

namespace CapabilityMesh

namespace LogDirective

open Text (byteSize)

/-- Characters that levels are made of. -/
def InLevel (c : Char) : Prop :=
  48 ≤ c.toNat ∧ c.toNat ≤ 57 ∨ 65 ≤ c.toNat ∧ c.toNat ≤ 90 ∨ 97 ≤ c.toNat ∧ c.toNat ≤ 122 ∨
    c.toNat = 43

theorem inLevel_of_lowerAscii {c : Char}
    (hc : 97 ≤ (Text.lowerAscii c).toNat ∧ (Text.lowerAscii c).toNat ≤ 122) : InLevel c := by
  rw [Text.lowerAscii] at hc
  by_cases hcapital : 'A' ≤ c ∧ c ≤ 'Z'
  · have hrange : 65 ≤ c.toNat ∧ c.toNat ≤ 90 := by
      simpa [Char.le_def, UInt32.le_iff_toNat_le] using hcapital
    exact Or.inr (Or.inl hrange)
  · rw [if_neg hcapital] at hc
    exact Or.inr (Or.inr (Or.inl hc))

theorem inLevel_of_readDigits {limit value n : Nat} {cs : List Char}
    (hread : Text.readDigits limit value cs = .ok n) : ∀ c ∈ cs, InLevel c := by
  induction cs generalizing value with
  | nil => exact List.forall_mem_nil _
  | cons c cs ih =>
      obtain ⟨d, hdigit, -, hrest⟩ := (Text.readDigits_cons ..).mp hread
      refine List.forall_mem_cons.mpr ⟨Or.inl ?_, ih hrest⟩
      rw [Text.digit?] at hdigit
      split at hdigit
      · rename_i hrange
        simpa [Char.le_def, UInt32.le_iff_toNat_le] using hrange
      · cases hdigit

/-- A level is a word or a number. -/
theorem inLevel_of_isLevel {cs : List Char} (h : isLevel cs = true) : ∀ c ∈ cs, InLevel c := by
  rcases Bool.or_eq_true_iff.mp h with hword | hnumber
  · have hsmall : (["", "error", "warn", "info", "debug", "trace", "off"].all fun word =>
        word.toList.all fun c => 97 ≤ c.toNat && c.toNat ≤ 122) = true := by decide
    intro c hc
    have hlower := List.all_eq_true.mp hsmall _ (List.contains_iff_mem.mp hword)
    rw [String.toList_ofList, List.all_map] at hlower
    have hletter := List.all_eq_true.mp hlower c hc
    exact inLevel_of_lowerAscii (by simpa using hletter)
  · cases hread : Text.readNumber UInt64.size (String.ofList cs) with
    | error fault => simp [hread] at hnumber
    | ok n =>
        rw [Text.readNumber, String.toList_ofList] at hread
        split at hread
        · cases hread
        · cases hread
        · exact List.forall_mem_cons.mpr
            ⟨Or.inr (Or.inr (Or.inr rfl)), inLevel_of_readDigits hread⟩
        · exact inLevel_of_readDigits hread

theorem InLevel.not_isBlank {c : Char} (h : InLevel c) : Text.isBlank c = false := by
  simp only [InLevel] at h
  simp [Text.isBlank]
  omega

theorem InLevel.ne_equals {c : Char} (h : InLevel c) : c ≠ '=' := by
  rintro rfl
  simp [InLevel] at h

theorem InLevel.ne_bracket {c : Char} (h : InLevel c) : c ≠ ']' := by
  rintro rfl
  simp [InLevel] at h

/-- The name of a target: the first character may begin one, and no other is an equals sign or
a bracket that opens. -/
def IsName (cs : List Char) : Prop :=
  ∃ c rest, cs = c :: rest ∧ opensTarget c = true ∧ ∀ d ∈ rest, d ≠ '=' ∧ d ≠ '['

/-- What may stand in front of a bracket that opens. -/
def IsFront (cs : List Char) : Prop :=
  cs = [] ∨ IsName cs

theorem byteSize_concat {c : Char} (hc : c.utf8Size = 1) (cs : List Char) :
    byteSize (cs ++ [c]) = byteSize cs + 1 := by
  rw [Text.byteSize_append, Text.byteSize_cons, hc]
  rfl

theorem part_append (front middle behind : List Char) :
    part (front ++ middle ++ behind) (byteSize front) (byteSize (front ++ middle)) =
      .ok middle := by
  rw [part, Text.slice?_append]

/-- What stands behind a bracket that opens: the name of a span, perhaps a field in braces,
and the bracket that closes. -/
inductive IsSpan (accepts : List Char → Bool) : List Char → Prop where
  | named {name : List Char} (hname : ∀ c ∈ name, c ≠ ']' ∧ c ≠ '\x7b') :
      IsSpan accepts (name ++ [']'])
  | withField {name field : List Char} (hname : ∀ c ∈ name, c ≠ ']' ∧ c ≠ '\x7b')
      (hfield : ∀ c ∈ field, c ≠ '\x7d') (haccepts : accepts field = true) :
      IsSpan accepts (name ++ ['\x7b'] ++ field ++ ['\x7d'] ++ [']'])

/-- What may stand in front of a level. -/
inductive IsTarget (accepts : List Char → Bool) : List Char → Prop where
  | named {cs : List Char} (h : IsName cs) : IsTarget accepts cs
  | span {front cs : List Char} (hfront : IsFront front) (hspan : IsSpan accepts cs) :
      IsTarget accepts (front ++ ['['] ++ cs)

/-- What has been read of a directive, by where the reading stands. -/
inductive Reads (accepts : List Char → Bool) : State → List Char → Prop where
  | start : Reads accepts .start []
  | name {cs : List Char} (h : IsName cs) : Reads accepts .name cs
  | span (front name : List Char) (hfront : IsFront front)
      (hname : ∀ c ∈ name, c ≠ ']' ∧ c ≠ '\x7b') :
      Reads accepts (.span (byteSize front + 1)) (front ++ ['['] ++ name)
  | field (front name field : List Char) (hfront : IsFront front)
      (hname : ∀ c ∈ name, c ≠ ']' ∧ c ≠ '\x7b') (hfield : ∀ c ∈ field, c ≠ '\x7d') :
      Reads accepts (.field (byteSize (front ++ ['['] ++ name) + 1))
        (front ++ ['['] ++ name ++ ['\x7b'] ++ field)
  | afterFields {front name field : List Char} (hfront : IsFront front)
      (hname : ∀ c ∈ name, c ≠ ']' ∧ c ≠ '\x7b') (hfield : ∀ c ∈ field, c ≠ '\x7d')
      (haccepts : accepts field = true) :
      Reads accepts .afterFields (front ++ ['['] ++ name ++ ['\x7b'] ++ field ++ ['\x7d'])
  | afterSpan {front cs : List Char} (hfront : IsFront front) (hspan : IsSpan accepts cs) :
      Reads accepts .afterSpan (front ++ ['['] ++ cs)
  | level (target level : List Char) (h : IsTarget accepts target) :
      Reads accepts (.level (byteSize target + 1)) (target ++ ['='] ++ level)

theorem forall_mem_concat {p : Char → Prop} {cs : List Char} {c : Char}
    (hcs : ∀ d ∈ cs, p d) (hc : p c) : ∀ d ∈ cs ++ [c], p d := by
  rw [List.forall_mem_append, List.forall_mem_singleton]
  exact ⟨hcs, hc⟩

/-- Whether the reading of a text may end. -/
def Closes (cs : List Char) : State → Prop
  | .name | .afterSpan => True
  | .level first => ∃ level, part cs first (byteSize cs) = .ok level ∧ isLevel level = true
  | _ => False

/-- What stands in front of the last of the characters that are cut at is found again. -/
theorem append_cons_inj {c : Char} {front front' behind behind' : List Char}
    (hbehind : c ∉ behind) (hbehind' : c ∉ behind')
    (h : front ++ c :: behind = front' ++ c :: behind') : front = front' ∧ behind = behind' := by
  rcases List.append_eq_append_iff.mp h with ⟨more, rfl, hmore⟩ | ⟨more, rfl, hmore⟩
  · cases more with
    | nil => simpa using hmore
    | cons d more =>
        obtain ⟨-, rfl⟩ := List.cons.inj hmore
        exact absurd (by simp) hbehind
  · cases more with
    | nil => simpa [eq_comm] using hmore
    | cons d more =>
        obtain ⟨-, rfl⟩ := List.cons.inj hmore
        exact absurd (by simp) hbehind'

section Reading

variable {isValue accepts : List Char → Bool} {whole : List Char}

/-- Reading one more character.  What the field was compared with need not be what was read
of it, since it is cut from the whole text. -/
theorem Reads.step {state next : State} {read : List Char} {c : Char}
    (h : Reads accepts state read)
    (haccepts : ∀ front field value, read = front ++ field →
      part whole (byteSize front) (byteSize read) = .ok value → isField isValue value = true →
      accepts field = true)
    (hstep : step isValue whole (byteSize read) state c = .ok next) :
    Reads accepts next (read ++ [c]) := by
  induction h with
  | start =>
      by_cases hc : c = '['
      · subst hc
        obtain rfl := Except.ok.inj hstep
        exact Reads.span [] [] (Or.inl rfl) (List.forall_mem_nil _)
      · rw [LogDirective.step, if_neg hc] at hstep
        split at hstep
        · rename_i hopens
          obtain rfl := Except.ok.inj hstep
          exact Reads.name ⟨c, [], rfl, hopens, List.forall_mem_nil _⟩
        · cases hstep
  | @name cs hname =>
      rw [LogDirective.step] at hstep
      split at hstep
      · rename_i hc
        subst hc
        obtain ⟨_, -, rfl⟩ := map_eq_ok hstep
        simpa using Reads.level _ [] (IsTarget.named hname)
      · rename_i hequals
        split at hstep
        · rename_i hc
          subst hc
          obtain ⟨_, -, rfl⟩ := map_eq_ok hstep
          simpa using Reads.span _ [] (Or.inr hname) (List.forall_mem_nil _)
        · rename_i hopens
          obtain rfl := Except.ok.inj hstep
          obtain ⟨first, more, rfl, hfirst, hmore⟩ := hname
          exact Reads.name ⟨first, more ++ [c], rfl, hfirst,
            forall_mem_concat hmore ⟨hequals, hopens⟩⟩
  | span front name hfront hname =>
      rw [LogDirective.step] at hstep
      split at hstep
      · rename_i hc
        subst hc
        obtain ⟨_, -, rfl⟩ := map_eq_ok hstep
        rw [List.append_assoc]
        exact Reads.afterSpan hfront (IsSpan.named hname)
      · rename_i hcloses
        split at hstep
        · rename_i hc
          subst hc
          obtain ⟨_, -, rfl⟩ := map_eq_ok hstep
          simpa using Reads.field _ _ [] hfront hname (List.forall_mem_nil _)
        · rename_i hopens
          obtain rfl := Except.ok.inj hstep
          rw [List.append_assoc]
          exact Reads.span _ _ hfront (forall_mem_concat hname ⟨hcloses, hopens⟩)
  | field front name field hfront hname hfield =>
      rw [LogDirective.step] at hstep
      split at hstep
      · rename_i hc
        subst hc
        obtain ⟨value, hpart, hvalue⟩ := bind_eq_ok.mp hstep
        split at hvalue
        · rename_i hisField
          obtain rfl := Except.ok.inj hvalue
          rw [← byteSize_concat (c := '\x7b') rfl] at hpart
          exact Reads.afterFields hfront hname hfield (haccepts _ _ _ rfl hpart hisField)
        · cases hvalue
      · rename_i hcloses
        obtain rfl := Except.ok.inj hstep
        rw [List.append_assoc _ field [c]]
        exact Reads.field _ _ _ hfront hname (forall_mem_concat hfield hcloses)
  | @afterFields front name field hfront hname hfield hvalue =>
      rw [LogDirective.step] at hstep
      split at hstep
      · rename_i hc
        subst hc
        obtain rfl := Except.ok.inj hstep
        simpa using Reads.afterSpan hfront (IsSpan.withField hname hfield hvalue)
      · cases hstep
  | afterSpan hfront hspan =>
      rw [LogDirective.step] at hstep
      split at hstep
      · rename_i hc
        subst hc
        obtain rfl := Except.ok.inj hstep
        simpa using Reads.level _ [] (IsTarget.span hfront hspan)
      · cases hstep
  | level target level htarget =>
      obtain rfl := Except.ok.inj hstep
      rw [List.append_assoc]
      exact Reads.level _ _ htarget

theorem Reads.run {state next : State} {read cs : List Char}
    (h : Reads accepts state read)
    (haccepts : ∀ front field value behind, read ++ cs = front ++ field ++ behind →
      part whole (byteSize front) (byteSize (front ++ field)) = .ok value →
      isField isValue value = true → accepts field = true)
    (hrun : run isValue whole (byteSize read) state cs = .ok next) :
    Reads accepts next (read ++ cs) := by
  induction cs generalizing state read with
  | nil =>
      obtain rfl := Except.ok.inj hrun
      rw [List.append_nil]
      exact h
  | cons c cs ih =>
      obtain ⟨middle, hstep, hrest⟩ := bind_eq_ok.mp hrun
      have hmiddle : Reads accepts middle (read ++ [c]) := by
        refine h.step (fun front field value hread hpart hvalue => ?_) hstep
        subst hread
        exact haccepts front field value (c :: cs) rfl hpart hvalue
      have hplace : byteSize read + c.utf8Size = byteSize (read ++ [c]) := by simp
      rw [hplace] at hrest
      rw [List.append_cons] at haccepts ⊢
      exact ih hmiddle haccepts hrest

/-- A text that ends with an equals sign and a level is read as a target and what it asks
for. -/
theorem Reads.exists_target {state : State} {front' level : List Char}
    (h : Reads accepts state (front' ++ '=' :: level)) (hcloses : Closes whole state)
    (hlevel : ∀ c ∈ level, InLevel c) (hne : level ≠ []) :
    ∃ target asked, state = .level (byteSize target + 1) ∧ IsTarget accepts target ∧
      front' ++ '=' :: level = target ++ '=' :: asked := by
  generalize hcs : front' ++ '=' :: level = cs at h
  induction h with
  | name hname =>
      obtain ⟨c, rest, rfl, hopens, hrest⟩ := hname
      have hmem : '=' ∈ c :: rest := by simp [← hcs]
      rcases List.mem_cons.mp hmem with rfl | hmem
      · exact absurd hopens (by decide)
      · exact absurd rfl (hrest _ hmem).1
  | @afterSpan front cs hfront hspan =>
      obtain ⟨inner, rfl⟩ : ∃ inner, cs = inner ++ [']'] := by
        cases hspan with
        | named hname => exact ⟨_, rfl⟩
        | withField hname hfield hvalue => exact ⟨_, rfl⟩
      obtain ⟨level, c, rfl⟩ := (List.eq_nil_or_concat' level).resolve_left hne
      have hends : (front' ++ '=' :: level) ++ [c] = (front ++ ['['] ++ inner) ++ [']'] := by
        simpa using hcs
      obtain ⟨-, hc⟩ := List.append_inj' hends rfl
      exact absurd (List.head_eq_of_cons_eq hc) (hlevel c (by simp)).ne_bracket
  | level target asked htarget =>
      exact ⟨_, _, rfl, htarget, (List.append_cons ..).symm⟩
  | start => exact hcloses.elim
  | span front name hfront hname => exact hcloses.elim
  | field front name field hfront hname hfield => exact hcloses.elim
  | afterFields hfront hname hfield hvalue => exact hcloses.elim

/-- Where the level that is cut from a text has no equals sign, nothing stood before the place
that the reading started at. -/
theorem eq_nil_of_part {blanks target asked level : List Char}
    (hpart : part (blanks ++ target ++ '=' :: asked) (byteSize target + 1)
      (byteSize (blanks ++ target ++ '=' :: asked)) = .ok level)
    (hlevel : '=' ∉ level) : blanks = [] ∧ level = asked := by
  obtain ⟨front, hcut, hfront⟩ : ∃ front, blanks ++ target ++ '=' :: asked = front ++ level ∧
      byteSize front = byteSize target + 1 := by
    rw [part] at hpart
    split at hpart
    · rename_i hslice
      obtain rfl := Except.ok.inj hpart
      exact Text.eq_append_of_slice?_byteSize hslice
    · cases hpart
  have hequals : byteSize (blanks ++ target ++ ['=']) = byteSize blanks + byteSize front := by
    rw [byteSize_concat rfl, Text.byteSize_append, hfront, Nat.add_assoc]
  rw [List.append_cons] at hcut
  rcases List.append_eq_append_iff.mp hcut with ⟨more, rfl, rfl⟩ | ⟨more, hmore, rfl⟩
  · have hsize := Text.byteSize_append (blanks ++ target ++ ['=']) more
    have hblanks : blanks = [] := Text.eq_nil_of_byteSize_eq_zero (by omega)
    have hmore : more = [] := Text.eq_nil_of_byteSize_eq_zero (by omega)
    exact ⟨hblanks, by rw [hmore, List.nil_append]⟩
  · rcases List.eq_nil_or_concat' more with rfl | ⟨before, c, rfl⟩
    · rw [List.append_nil] at hmore
      rw [hmore] at hequals
      exact ⟨Text.eq_nil_of_byteSize_eq_zero (by omega), rfl⟩
    · rw [← List.append_assoc] at hmore
      obtain ⟨-, hc⟩ := List.append_inj' hmore rfl
      obtain rfl := List.head_eq_of_cons_eq hc
      exact absurd (by simp) hlevel

theorem read_eq_ok {cs : List Char} :
    read isValue cs = .ok () ↔
      ∃ state, run isValue cs 0 .start (Text.strip Text.isBlank cs) = .ok state ∧
        Closes cs state := by
  rw [read, bind_eq_ok]
  refine exists_congr fun state => and_congr_right fun _ => ?_
  cases state with
  | name | afterSpan => exact iff_of_true rfl trivial
  | level first =>
      refine bind_eq_ok.trans (exists_congr fun level => and_congr_right fun _ => ?_)
      split
      · rename_i hlevel
        exact iff_of_true rfl hlevel
      · rename_i hlevel
        exact iff_of_false (fun h => nomatch h) hlevel
  | start | span | field | afterFields => exact iff_of_false (fun h => nomatch h) id

theorem strip_level {level : List Char} (hlevel : isLevel level = true) (target : List Char) :
    Text.strip Text.isBlank (target ++ '=' :: level) =
      target.dropWhile Text.isBlank ++ '=' :: level := by
  rw [Text.strip_append_cons (by decide), Text.dropEnd_eq_self]
  exact fun c hc => (inLevel_of_isLevel hlevel c (List.mem_of_getLast? hc)).not_isBlank

/-- What a directive has in front of its level is a target.  A blank in front of it would show
in the level that is cut from the text. -/
theorem isTarget_of_read {target level : List Char} (hlevel : isLevel level = true)
    (hne : level ≠ []) (hread : read isValue (target ++ '=' :: level) = .ok ()) :
    IsTarget (isField isValue) target := by
  have hin := inLevel_of_isLevel hlevel
  obtain ⟨state, hrun, hcloses⟩ := read_eq_ok.mp hread
  obtain ⟨blanks, front, rfl, hstrip⟩ : ∃ blanks front, target = blanks ++ front ∧
      Text.strip Text.isBlank (target ++ '=' :: level) = front ++ '=' :: level :=
    ⟨_, _, List.takeWhile_append_dropWhile.symm, strip_level hlevel target⟩
  rw [hstrip] at hrun
  -- Behind blanks nothing is known of the fields, since they are cut from another place.
  have hreads : Reads (fun field => !blanks.isEmpty || isField isValue field) state
      (front ++ '=' :: level) := by
    refine Reads.start.run ?_ hrun
    intro before field value behind hcs hpart hvalue
    by_cases hblanks : blanks = []
    · subst hblanks
      have hwhole : front ++ '=' :: level = before ++ field ++ behind := hcs
      rw [List.nil_append, hwhole, part_append] at hpart
      obtain rfl := Except.ok.inj hpart
      exact hvalue
    · simp [hblanks]
  obtain ⟨found, asked, rfl, hfound, hcs⟩ := hreads.exists_target hcloses hin hne
  obtain ⟨cut, hpart, hcut⟩ := hcloses
  have hcut_equals : '=' ∉ cut := fun hmem => (inLevel_of_isLevel hcut _ hmem).ne_equals rfl
  have hequals : '=' ∉ level := fun hmem => (hin _ hmem).ne_equals rfl
  have hwhole : blanks ++ front ++ '=' :: level = blanks ++ found ++ '=' :: asked := by
    rw [List.append_assoc, hcs, List.append_assoc]
  rw [hwhole] at hpart
  obtain ⟨rfl, rfl⟩ := eq_nil_of_part hpart hcut_equals
  obtain ⟨rfl, -⟩ := append_cons_inj hequals hcut_equals hcs
  exact hfound

theorem run_append {place : Nat} {state middle : State} {xs : List Char} (ys : List Char)
    (h : run isValue whole place state xs = .ok middle) :
    run isValue whole place state (xs ++ ys) =
      run isValue whole (place + byteSize xs) middle ys := by
  induction xs generalizing place state with
  | nil =>
      obtain rfl := Except.ok.inj h
      rfl
  | cons c xs ih =>
      obtain ⟨next, hstep, hrest⟩ := bind_eq_ok.mp h
      rw [List.cons_append, run, hstep, ok_bind, ih hrest, Text.byteSize_cons, Nat.add_assoc]

theorem run_concat {state next : State} {read : List Char} {c : Char}
    (h : run isValue whole 0 .start read = .ok state)
    (hstep : step isValue whole (byteSize read) state c = .ok next) :
    run isValue whole 0 .start (read ++ [c]) = .ok next := by
  rw [run_append [c] h, Nat.zero_add, run, hstep]
  rfl

theorem run_stays {state : State} {read cs : List Char}
    (h : run isValue whole 0 .start read = .ok state)
    (hstays : ∀ c ∈ cs, ∀ place, step isValue whole place state c = .ok state) :
    run isValue whole 0 .start (read ++ cs) = .ok state := by
  induction cs generalizing read with
  | nil => rwa [List.append_nil]
  | cons c cs ih =>
      rw [List.forall_mem_cons] at hstays
      rw [List.append_cons]
      exact ih (run_concat h (hstays.1 _)) hstays.2

theorem run_name {cs : List Char} (h : IsName cs) :
    run isValue whole 0 .start cs = .ok .name := by
  obtain ⟨c, rest, rfl, hopens, hrest⟩ := h
  have hfirst : run isValue whole 0 .start [c] = .ok .name := by
    change run isValue whole 0 .start ([] ++ [c]) = .ok .name
    refine run_concat rfl ?_
    have hc : c ≠ '[' := by
      rintro rfl
      exact absurd hopens (by decide)
    rw [LogDirective.step, if_neg hc, if_pos hopens]
  refine run_stays hfirst fun d hd place => ?_
  obtain ⟨hequals, hbracket⟩ := hrest d hd
  rw [LogDirective.step, if_neg hequals, if_neg hbracket]

variable (isValue) in
theorem run_front {front : List Char} (hfront : IsFront front) (behind : List Char) :
    run isValue (front ++ ['['] ++ behind) 0 .start (front ++ ['[']) =
      .ok (.span (byteSize front + 1)) := by
  rcases hfront with rfl | hname
  · rfl
  · refine run_concat (run_name hname) ?_
    have hpart := part_append [] front (['['] ++ behind)
    rw [List.nil_append, ← List.append_assoc] at hpart
    rw [LogDirective.step, if_neg (by decide), if_pos rfl]
    exact congrArg (Except.map _) hpart

variable (isValue) in
theorem run_spanName {front name : List Char} (hfront : IsFront front)
    (hname : ∀ c ∈ name, c ≠ ']' ∧ c ≠ '\x7b') (behind : List Char) :
    run isValue (front ++ ['['] ++ name ++ behind) 0 .start (front ++ ['['] ++ name) =
      .ok (.span (byteSize front + 1)) := by
  have hopening := run_front isValue hfront (name ++ behind)
  rw [← List.append_assoc] at hopening
  refine run_stays hopening fun c hc place => ?_
  obtain ⟨hcloses, hopens⟩ := hname c hc
  rw [LogDirective.step, if_neg hcloses, if_neg hopens]

variable (isValue) in
theorem run_field {front name field : List Char} (hfront : IsFront front)
    (hname : ∀ c ∈ name, c ≠ ']' ∧ c ≠ '\x7b') (hfield : ∀ c ∈ field, c ≠ '\x7d')
    (behind : List Char) :
    run isValue (front ++ ['['] ++ name ++ ['\x7b'] ++ field ++ behind) 0 .start
      (front ++ ['['] ++ name ++ ['\x7b'] ++ field) =
      .ok (.field (byteSize (front ++ ['['] ++ name) + 1)) := by
  have hread := run_spanName isValue hfront hname (['\x7b'] ++ field ++ behind)
  have hpart := part_append (front ++ ['[']) name (['\x7b'] ++ field ++ behind)
  simp only [← List.append_assoc] at hread hpart
  rw [byteSize_concat rfl] at hpart
  have hopening := run_concat (c := '\x7b') hread
    (by rw [LogDirective.step, if_neg (by decide), if_pos rfl, hpart]; rfl)
  refine run_stays hopening fun c hc place => ?_
  rw [LogDirective.step, if_neg (hfield c hc)]

/-- A span behind a name, or at the very front, is read through. -/
theorem run_span {front cs : List Char} (hfront : IsFront front)
    (hspan : IsSpan (isField isValue) cs) (behind : List Char) :
    run isValue (front ++ ['['] ++ cs ++ behind) 0 .start (front ++ ['['] ++ cs) =
      .ok .afterSpan := by
  induction hspan with
  | @named name hname =>
      have hread := run_spanName isValue hfront hname ([']'] ++ behind)
      have hpart := part_append (front ++ ['[']) name ([']'] ++ behind)
      simp only [← List.append_assoc] at hread hpart ⊢
      rw [byteSize_concat rfl] at hpart
      refine run_concat hread ?_
      rw [LogDirective.step, if_pos rfl, hpart]
      rfl
  | @withField name field hname hfield haccepts =>
      have hread := run_field isValue hfront hname hfield
        (['\x7d'] ++ [']'] ++ behind)
      have hpart := part_append (front ++ ['['] ++ name ++ ['\x7b']) field
        (['\x7d'] ++ [']'] ++ behind)
      simp only [← List.append_assoc] at hread hpart ⊢
      rw [byteSize_concat rfl] at hpart
      have hafter := run_concat hread
        (by rw [LogDirective.step, if_pos rfl, hpart, ok_bind, if_pos haccepts])
      refine run_concat hafter ?_
      rw [LogDirective.step, if_pos rfl]

theorem run_target {target : List Char} (htarget : IsTarget (isField isValue) target)
    (level : List Char) :
    run isValue (target ++ '=' :: level) 0 .start (target ++ '=' :: level) =
      .ok (.level (byteSize target + 1)) := by
  have hequals : run isValue (target ++ '=' :: level) 0 .start (target ++ ['=']) =
      .ok (.level (byteSize target + 1)) := by
    induction htarget with
    | @named cs hname =>
        have hpart := part_append [] cs ('=' :: level)
        refine run_concat (run_name hname) ?_
        rw [LogDirective.step, if_pos rfl]
        exact congrArg (Except.map _) hpart
    | span hfront hspan =>
        refine run_concat (run_span hfront hspan _) ?_
        rw [LogDirective.step, if_pos rfl]
  rw [List.append_cons target '=' level] at hequals ⊢
  exact run_stays hequals fun _ _ _ => rfl

theorem isBlank_of_opensTarget {c : Char} (hc : opensTarget c = true) :
    Text.isBlank c = false := by
  simp only [opensTarget, Bool.or_eq_true, decide_eq_true_eq] at hc
  rcases hc with ((rfl | rfl) | rfl) | hc
  · rfl
  · rfl
  · rfl
  · exact Text.isBlank_of_isLetterOrNumeral hc

theorem IsTarget.dropWhile_isBlank {target : List Char} (h : IsTarget accepts target) :
    target.dropWhile Text.isBlank = target := by
  have hname : ∀ {cs : List Char}, IsName cs → ∀ behind,
      (cs ++ behind).dropWhile Text.isBlank = cs ++ behind := by
    rintro _ ⟨c, rest, rfl, hopens, -⟩ behind
    exact List.dropWhile_cons_of_neg (by simp [isBlank_of_opensTarget hopens])
  induction h with
  | named h => simpa using hname h []
  | span hfront hspan =>
      rw [List.append_assoc]
      rcases hfront with rfl | hfront
      · exact List.dropWhile_cons_of_neg (by decide)
      · exact hname hfront _

theorem read_of_isTarget {target level : List Char} (hlevel : isLevel level = true)
    (htarget : IsTarget (isField isValue) target) :
    read isValue (target ++ '=' :: level) = .ok () := by
  have hpart := part_append (target ++ ['=']) level []
  rw [List.append_nil, byteSize_concat rfl, ← List.append_cons] at hpart
  refine read_eq_ok.mpr ⟨.level (byteSize target + 1), ?_, level, hpart, hlevel⟩
  rw [strip_level hlevel, htarget.dropWhile_isBlank]
  exact run_target htarget level

variable (isValue) in
/-- A text with an equals sign and a level behind it is a directive exactly if it is a
target. -/
theorem read_level_iff (target : List Char) {level : List Char}
    (hlevel : isLevel level = true) (hne : level ≠ []) :
    read isValue (target ++ '=' :: level) = .ok () ↔ IsTarget (isField isValue) target :=
  ⟨isTarget_of_read hlevel hne, read_of_isTarget hlevel⟩

end Reading

end LogDirective

end CapabilityMesh
