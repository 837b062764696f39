/-
Texts that end by themselves.  A writer is delimited if the text it writes says where
it ends, so that it can be told what was written whatever follows.  Strings are, and
lists and the fields of objects are if their parts are.
-/
import CapabilityMesh.Json.Record
import CapabilityMesh.Proofs.Json.Text

namespace CapabilityMesh

namespace Json

variable {α : Type}

/-- What is written can be told from the front of a text, and is not mistaken for the
end of a list. -/
structure Delimited (write : α → List Char) : Prop where
  unique : ∀ (a b : α) (rest rest' : List Char),
    write a ++ rest = write b ++ rest' → a = b ∧ rest = rest'
  opens : ∀ (a : α) (rest rest' : List Char), write a ++ rest ≠ ']' :: rest'

theorem writeString_append (s : String) (rest : List Char) :
    writeString s ++ rest = '"' :: (s.toList.flatMap writeChar ++ '"' :: rest) := by
  simp [writeString]

theorem delimited_writeString : Delimited writeString := by
  constructor
  · intro a b rest rest' heq
    rw [writeString_append, writeString_append, List.cons.injEq] at heq
    have hread := readStringTail_writeString a rest
    rw [heq.2, readStringTail_writeString b rest'] at hread
    simp only [Except.ok.injEq, Prod.mk.injEq] at hread
    exact ⟨hread.1.symm, hread.2.symm⟩
  · intro a rest rest' heq
    rw [writeString_append, List.cons.injEq] at heq
    exact absurd heq.1 (by decide)

/-- What stands behind the first element of a list. -/
def writeMore (write : α → List Char) : List α → List Char
  | [] => []
  | more => ',' :: writeElements write more

theorem writeElements_cons (write : α → List Char) (a : α) (as : List α) :
    writeElements write (a :: as) = write a ++ writeMore write as := by
  cases as with
  | nil => simp [writeElements, writeMore]
  | cons b bs => rfl

theorem Delimited.elements {write : α → List Char} (hwrite : Delimited write)
    (as bs : List α) {rest rest' : List Char}
    (heq : writeElements write as ++ ']' :: rest =
      writeElements write bs ++ ']' :: rest') : as = bs ∧ rest = rest' := by
  induction as generalizing bs with
  | nil =>
      cases bs with
      | nil =>
          simp only [writeElements, List.nil_append, List.cons.injEq, true_and] at heq
          exact ⟨rfl, heq⟩
      | cons b bs =>
          rw [writeElements_cons, List.append_assoc] at heq
          exact absurd heq.symm (hwrite.opens b _ _)
  | cons a as ih =>
      rw [writeElements_cons, List.append_assoc] at heq
      cases bs with
      | nil => exact absurd heq (hwrite.opens a _ _)
      | cons b bs =>
          rw [writeElements_cons, List.append_assoc] at heq
          obtain ⟨rfl, hmore⟩ := hwrite.unique a b _ _ heq
          cases as with
          | nil =>
              cases bs with
              | nil =>
                  rw [writeMore, List.nil_append, List.nil_append, List.cons.injEq]
                    at hmore
                  exact ⟨rfl, hmore.2⟩
              | cons b' bs => simp [writeMore] at hmore
          | cons a' as =>
              cases bs with
              | nil => simp [writeMore] at hmore
              | cons b' bs =>
                  rw [writeMore, writeMore, List.cons_append, List.cons_append,
                    List.cons.injEq] at hmore
                  · obtain ⟨hsame, hrest⟩ := ih (b' :: bs) hmore.2
                    exact ⟨by rw [hsame], hrest⟩
                  · simp
                  · simp

theorem Delimited.list {write : α → List Char} (hwrite : Delimited write) :
    Delimited (writeList write) := by
  constructor
  · intro as bs rest rest' heq
    simp only [writeList, List.cons_append, List.append_assoc, List.nil_append,
      List.cons.injEq, true_and] at heq
    exact hwrite.elements as bs heq
  · intro as rest rest' heq
    rw [writeList, List.cons_append, List.cons_append, List.cons.injEq] at heq
    exact absurd heq.1 (by decide)

theorem writeObject_opens (fields : List (String × List Char)) (rest rest' : List Char) :
    writeObject fields ++ rest ≠ ']' :: rest' := by
  intro heq
  rw [writeObject, List.cons_append, List.cons_append, List.cons.injEq] at heq
  exact absurd heq.1 (by decide)

/-- What stands behind the first field of an object, up to its end. -/
def moreFields : List (String × List Char) → List Char
  | [] => []
  | more => ',' :: writeFields more

theorem writeFields_cons (name : String) (value : List Char)
    (more : List (String × List Char)) :
    writeFields ((name, value) :: more) =
      writeString name ++ ':' :: (value ++ moreFields more) := by
  cases more with
  | nil => simp [writeFields, moreFields]
  | cons first rest => simp [writeFields, moreFields]

/-- A field of two objects can be told, and what stands behind it. -/
theorem Delimited.field {write : α → List Char} (hwrite : Delimited write) {name : String}
    {a b : α} {more more' : List (String × List Char)} {rest rest' : List Char}
    (heq : writeFields ((name, write a) :: more) ++ rest =
      writeFields ((name, write b) :: more') ++ rest') :
    a = b ∧ moreFields more ++ rest = moreFields more' ++ rest' := by
  rw [writeFields_cons, writeFields_cons, List.append_assoc, List.append_assoc] at heq
  have htail := List.append_cancel_left heq
  rw [List.cons_append, List.cons_append, List.cons.injEq, List.append_assoc,
    List.append_assoc] at htail
  exact hwrite.unique a b _ _ htail.2

theorem Delimited.first {write : α → List Char} (hwrite : Delimited write) {name : String}
    {a b : α} {more more' : List (String × List Char)} {rest rest' : List Char}
    (heq : writeObject ((name, write a) :: more) ++ rest =
      writeObject ((name, write b) :: more') ++ rest') :
    a = b ∧ moreFields more ++ '\x7d' :: rest = moreFields more' ++ '\x7d' :: rest' := by
  rw [writeObject, writeObject, List.cons_append, List.cons_append, List.cons_append,
    List.cons_append, List.cons.injEq, List.append_assoc, List.append_assoc] at heq
  exact hwrite.field heq.2

/-- A later field of two objects can be told. -/
theorem Delimited.next {write : α → List Char} (hwrite : Delimited write) {name : String}
    {a b : α} {more more' : List (String × List Char)} {rest rest' : List Char}
    (heq : moreFields ((name, write a) :: more) ++ rest =
      moreFields ((name, write b) :: more') ++ rest') :
    a = b ∧ moreFields more ++ rest = moreFields more' ++ rest' := by
  have hfields : ∀ (value : List Char) (fields : List (String × List Char)),
      moreFields ((name, value) :: fields) = ',' :: writeFields ((name, value) :: fields) :=
    fun _ _ => rfl
  rw [hfields, hfields, List.cons_append, List.cons_append, List.cons.injEq] at heq
  exact hwrite.field heq.2

/-- A field that may be left out at the end of two objects can be told. -/
theorem Delimited.lastOptional {write : α → List Char} (hwrite : Delimited write)
    {name : String} {a b : Option α} {rest rest' : List Char}
    (heq : moreFields (optionalField name write a) ++ '\x7d' :: rest =
      moreFields (optionalField name write b) ++ '\x7d' :: rest') :
    a = b ∧ rest = rest' := by
  cases a with
  | none =>
      cases b with
      | none =>
          simp only [optionalField, moreFields, List.nil_append, List.cons.injEq, true_and]
            at heq
          exact ⟨rfl, heq⟩
      | some b => simp [optionalField, moreFields] at heq
  | some a =>
      cases b with
      | none => simp [optionalField, moreFields] at heq
      | some b =>
          obtain ⟨rfl, hrest⟩ := hwrite.next heq
          simp only [moreFields, List.nil_append, List.cons.injEq, true_and] at hrest
          exact ⟨rfl, hrest⟩

/-- Nothing is left to tell behind the last field. -/
theorem rest_of_noFields {rest rest' : List Char}
    (heq : moreFields [] ++ '\x7d' :: rest = moreFields [] ++ '\x7d' :: rest') :
    rest = rest' := by
  simpa [moreFields] using heq

end Json

end CapabilityMesh
