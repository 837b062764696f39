/-
Values that come back as they were written.  A value is legible if what is written for it
is read as that value, whatever stands behind it.  Strings are, and lists and records are
if their parts are.
-/
import CapabilityMesh.Proofs.Json.Delimited
import CapabilityMesh.Proofs.Step

namespace CapabilityMesh

namespace Json

variable {α β σ : Type}

/-- Whether a text is read as a value, whatever stands behind it. -/
def Reads (read : Reader α) (text : List Char) (value : α) : Prop :=
  ∀ rest, read (text ++ rest) = .ok (value, rest)

/-- Whether a text begins like a value: not with a blank, not with the end of a list, and
not like null. -/
def Opens (text : List Char) : Prop :=
  ∃ c cs, text = c :: cs ∧ isSpace c = false ∧ c ≠ ']' ∧ c ≠ 'n'

/-- What is written for a value is read as that value. -/
structure Legible (read : Reader α) (write : α → List Char) (value : α) : Prop where
  reads : Reads read (write value) value
  opens : Opens (write value)

theorem skipSpace_cons {c : Char} (hc : isSpace c = false) (cs : List Char) :
    skipSpace (c :: cs) = c :: cs := by
  rw [skipSpace, List.dropWhile_cons_of_neg]
  simp [hc]

/-- Strings come back. -/
theorem legible_text (s : String) : Legible readText writeString s := by
  constructor
  · intro rest
    rw [writeString_append, readText, readTextAs, skipSpace_cons (by decide)]
    exact readStringTail_writeString s rest
  · exact ⟨'"', _, rfl, by decide, by decide, by decide⟩

/-- A value that may be null comes back where it is not. -/
theorem Legible.optional {read : Reader α} {write : α → List Char} {value : α}
    (h : Legible read write value) : Reads (readOptional read) (write value) (some value) := by
  intro rest
  have hread := h.reads rest
  obtain ⟨c, cs, htext, hspace, -, hnull⟩ := h.opens
  rw [htext, List.cons_append] at hread ⊢
  rw [readOptional, skipSpace_cons hspace]
  split
  · rename_i hc
    exact absurd (List.cons.inj hc).1 hnull
  · rw [hread]

section Lists

variable {read : Reader α} {write : α → List Char}

/-- Another element follows where something is written that begins like a value. -/
theorem nextElement_opens {text : List Char} (htext : Opens text) (rest : List Char) :
    nextElement true (text ++ rest) = .ok (true, text ++ rest) ∧
      nextElement false (',' :: (text ++ rest)) = .ok (true, text ++ rest) := by
  obtain ⟨c, cs, rfl, hspace, hend, -⟩ := htext
  rw [List.cons_append]
  constructor
  · rw [nextElement, skipSpace_cons hspace]
    split
    · rename_i heq
      cases heq
    · rename_i heq
      exact absurd (List.cons.inj heq).1 hend
    · rename_i heq
      obtain ⟨rfl, rfl⟩ := List.cons.inj heq
      rfl
  · rw [nextElement, skipSpace_cons (by decide)]
    split
    · rename_i heq
      cases heq
    · rename_i heq
      exact absurd (List.cons.inj heq).1 (by decide)
    · rename_i heq
      obtain ⟨rfl, rfl⟩ := List.cons.inj heq
      rw [if_neg (by decide), if_pos rfl, skipSpace_cons hspace]
      split
      · rename_i heq
        cases heq
      · rename_i heq
        exact absurd (List.cons.inj heq).1 hend
      · rfl

/-- The elements of a list behind the first come back, with as much fuel as there is text. -/
theorem readElements_writeMore {values : List α}
    (hvalues : ∀ value ∈ values, Legible read write value) (rest : List Char) {fuel : Nat}
    (hfuel : (writeMore write values).length < fuel) :
    readElements read fuel false (writeMore write values ++ ']' :: rest) =
      .ok (values, rest) := by
  induction values generalizing fuel with
  | nil =>
      obtain ⟨less, rfl⟩ : ∃ less, fuel = less + 1 := ⟨fuel - 1, by omega⟩
      rfl
  | cons value values ih =>
      obtain ⟨less, rfl⟩ : ∃ less, fuel = less + 1 := ⟨fuel - 1, by omega⟩
      obtain ⟨hvalue, hmore⟩ := List.forall_mem_cons.mp hvalues
      have hwritten : writeMore write (value :: values) =
          ',' :: (write value ++ writeMore write values) := by
        rw [writeMore, writeElements_cons]
        exact List.cons_ne_nil value values
      rw [hwritten] at hfuel ⊢
      rw [List.length_cons, List.length_append] at hfuel
      have hless : (writeMore write values).length < less := by omega
      rw [List.cons_append, List.append_assoc, readElements,
        (nextElement_opens hvalue.opens _).2]
      simp only [hvalue.reads _, ih hmore hless]

/-- Lists come back. -/
theorem Legible.list {values : List α} (hvalues : ∀ value ∈ values, Legible read write value) :
    Legible (readList read) (writeList write) values := by
  constructor
  · intro rest
    rw [writeList, List.cons_append, List.cons_append, List.append_assoc, readList,
      skipSpace_cons (by decide), List.singleton_append]
    cases values with
    | nil => rfl
    | cons value values =>
        obtain ⟨hvalue, hmore⟩ := List.forall_mem_cons.mp hvalues
        simp only [writeElements_cons, List.append_assoc]
        rw [readElements, (nextElement_opens hvalue.opens _).1]
        have hlength : (writeMore write values).length <
            (write value ++ (writeMore write values ++ ']' :: rest)).length := by
          simp only [List.length_append, List.length_cons]
          omega
        simp only [hvalue.reads _, readElements_writeMore hmore rest hlength]
  · exact ⟨'[', _, rfl, by decide, by decide, by decide⟩

end Lists

section Records

variable {fields : List (Field σ)}

/-- The fields of an object that were written fill a draft, one after the other. -/
inductive Fills (fields : List (Field σ)) : σ → List (String × List Char) → σ → Prop
  | done (draft : σ) : Fills fields draft [] draft
  | next (index : Nat) {field : Field σ} {name : String} {text : List Char}
      {more : List (String × List Char)} {draft later final : σ}
      (hfield : fields[index]? = some field) (hname : field.name = name)
      (hset : field.isSet draft = false) (hread : Reads (field.read draft) text later)
      (hmore : Fills fields later more final) : Fills fields draft ((name, text) :: more) final

theorem Reads.put {read : Reader α} {text : List Char} {value : α}
    (h : Reads read text value) {name : String} {required : Bool} {get : σ → Option α}
    {put : σ → α → σ} {draft : σ} :
    Reads ((Field.of name required get put read).read draft) text (put draft value) := by
  intro rest
  simp only [Field.of, h rest]

/-- A key follows where one is written. -/
theorem nextKey_quote (rest : List Char) :
    nextKey true ('"' :: rest) = .ok (true, rest) ∧
      nextKey false (',' :: '"' :: rest) = .ok (true, rest) := by
  have hquote := skipSpace_cons (c := '"') (by decide) rest
  have hcomma := skipSpace_cons (c := ',') (by decide) ('"' :: rest)
  constructor
  · simp [nextKey, hquote]
  · simp [nextKey, hquote, hcomma]

theorem readColon_colon (rest : List Char) : readColon (':' :: rest) = .ok rest := by
  simp [readColon, skipSpace_cons (c := ':') (by decide) rest]

theorem find?_of_getElem? (hnames : (fields.map Field.name).Nodup) {index : Nat}
    {field : Field σ} (hfield : fields[index]? = some field) :
    fields.find? (fun other => other.name == field.name) = some field := by
  induction fields generalizing index with
  | nil => cases hfield
  | cons first fields ih =>
      obtain ⟨hfresh, hrest⟩ := List.nodup_cons.mp hnames
      cases index with
      | zero =>
          obtain rfl := Option.some.inj hfield
          exact List.find?_cons_of_pos (beq_self_eq_true _)
      | succ index =>
          rw [List.find?_cons_of_neg, ih hrest hfield]
          intro hsame
          apply hfresh
          rw [beq_iff_eq.mp hsame]
          exact List.mem_map_of_mem (List.mem_of_getElem? hfield)

theorem readKeys_key {fuel : Nat} {first : Bool} {draft later : σ} {cs text after : List Char}
    {field : Field σ}
    (hkey : nextKey first cs =
      .ok (true, field.name.toList.flatMap writeChar ++ '"' :: ':' :: (text ++ after)))
    (hfind : fields.find? (fun other => other.name == field.name) = some field)
    (hset : field.isSet draft = false) (hread : Reads (field.read draft) text later) :
    Record.readKeys fields (fuel + 1) first draft cs =
      Record.readKeys fields fuel false later after := by
  rw [Record.readKeys, hkey]
  simp only [readStringTail_writeString, hfind, hset, Bool.false_eq_true, if_false,
    readColon_colon, hread after]

/-- What stands behind the opening quote of a key that is written. -/
theorem writeFields_key (name : String) (text : List Char) (more : List (String × List Char))
    (rest : List Char) :
    writeFields ((name, text) :: more) ++ rest =
      '"' :: (name.toList.flatMap writeChar ++ '"' :: ':' ::
        (text ++ (moreFields more ++ rest))) := by
  rw [writeFields_cons, List.append_assoc, List.cons_append, List.append_assoc]
  exact writeString_append name _

/-- The keys behind the first of an object fill a draft as they were written, with as much
fuel as there is text. -/
theorem Fills.readMoreKeys (hnames : (fields.map Field.name).Nodup)
    {written : List (String × List Char)} {draft final : σ}
    (hfills : Fills fields draft written final) (rest : List Char) {fuel : Nat}
    (hfuel : (moreFields written).length < fuel) :
    Record.readKeys fields fuel false draft (moreFields written ++ '\x7d' :: rest) =
      .ok (final, '\x7d' :: rest) := by
  induction hfills generalizing fuel with
  | done draft =>
      obtain ⟨less, rfl⟩ : ∃ less, fuel = less + 1 := ⟨fuel - 1, by omega⟩
      rfl
  | @next index field name text more draft later final hfield hname hset hread hmore ih =>
      obtain ⟨less, rfl⟩ : ∃ less, fuel = less + 1 := ⟨fuel - 1, by omega⟩
      obtain rfl := hname
      have hunfold : moreFields ((field.name, text) :: more) =
          ',' :: writeFields ((field.name, text) :: more) := rfl
      have hless : (moreFields more).length < less := by
        rw [hunfold, writeFields_cons] at hfuel
        simp only [List.length_cons, List.length_append] at hfuel
        omega
      rw [hunfold, List.cons_append, writeFields_key,
        readKeys_key (nextKey_quote _).2 (find?_of_getElem? hnames hfield) hset hread, ih hless]

theorem Fills.readKeys (hnames : (fields.map Field.name).Nodup)
    {written : List (String × List Char)} {draft final : σ}
    (hfills : Fills fields draft written final) (rest : List Char) :
    Record.readKeys fields ((writeFields written ++ '\x7d' :: rest).length + 1) true draft
      (writeFields written ++ '\x7d' :: rest) = .ok (final, '\x7d' :: rest) := by
  cases hfills with
  | done => rfl
  | @next index field name text more _ later _ hfield hname hset hread hmore =>
      obtain rfl := hname
      have hless : (moreFields more).length <
          (writeFields ((field.name, text) :: more) ++ '\x7d' :: rest).length := by
        rw [writeFields_cons]
        simp only [List.length_cons, List.length_append]
        omega
      generalize (writeFields ((field.name, text) :: more) ++ '\x7d' :: rest).length = fuel
        at hless ⊢
      rw [writeFields_key, readKeys_key (nextKey_quote _).1 (find?_of_getElem? hnames hfield)
        hset hread, hmore.readMoreKeys hnames rest hless]

/-- Records come back whose fields are told apart by their names. -/
theorem Legible.record {r : Record σ α} {write : α → List Char} {value : α}
    {written : List (String × List Char)} {final : σ}
    (hnames : (r.fields.map Field.name).Nodup) (hwrite : write value = writeObject written)
    (hfills : Fills r.fields r.blank written final) (hbuild : r.build final = .ok value) :
    Legible r.read write value := by
  constructor
  · intro rest
    have hkeys := hfills.readKeys hnames rest
    rw [hwrite, writeObject, List.cons_append, List.cons_append, List.append_assoc,
      List.singleton_append, Record.read, skipSpace_cons (by decide)]
    simp only [hkeys, hbuild, ok_bind]
    rfl
  · exact ⟨'\x7b', _, hwrite, by decide, by decide, by decide⟩

end Records

theorem Legible.readWhole? {read : Reader α} {write : α → List Char} {value : α}
    (h : Legible read write value) : readWhole? read (String.ofList (write value)) = .ok value := by
  have hread := h.reads []
  rw [List.append_nil] at hread
  rw [Json.readWhole?, String.toList_ofList, hread]
  rfl

end Json

end CapabilityMesh
