/-
Reading values of a known shape.  A record is an object whose keys may come in
any order and beside unknown ones, or a list of its fields in order.  Reading
is from left to right: the first thing that does not fit is reported, even if
a later part of the text is no JSON at all.
-/
import CapabilityMesh.Json.Container

namespace CapabilityMesh

namespace Json

/-- Read a string; `expected` names what a message asks for. -/
def readTextAs (expected : String) : Reader String
  | cs =>
      match skipSpace cs with
      | '"' :: rest => readStringTail rest
      | rest => .error (wrongTypeAt expected rest)

def readText : Reader String := readTextAs "a string"

/-- Read a value that may be null. -/
def readOptional (read : Reader α) : Reader (Option α)
  | cs =>
      match skipSpace cs with
      | 'n' :: rest =>
          match readIdent ['u', 'l', 'l'] rest with
          | .ok rest => .ok (none, rest)
          | .error fault => .error fault
      | rest =>
          match read rest with
          | .ok (value, rest) => .ok (some value, rest)
          | .error fault => .error fault

/-- Read the elements of a list behind its bracket.  Each reads at least one
character, so the length of the text is enough fuel. -/
def readElements (read : Reader α) : Nat → Bool → Reader (List α)
  | 0, _, _ => .error .endInList
  | fuel + 1, first, cs =>
      match nextElement first cs with
      | .error fault => .error fault
      | .ok (false, rest) =>
          match closeList rest with
          | .ok rest => .ok ([], rest)
          | .error fault => .error fault
      | .ok (true, rest) =>
          match read rest with
          | .error fault => .error fault
          | .ok (value, rest) =>
              match readElements read fuel false rest with
              | .error fault => .error fault
              | .ok (values, rest) => .ok (value :: values, rest)

def readList (read : Reader α) : Reader (List α)
  | cs =>
      match skipSpace cs with
      | '[' :: rest => readElements read (rest.length + 1) true rest
      | rest => .error (wrongTypeAt "a sequence" rest)

/-- One field of a record whose fields are collected in a draft. -/
structure Field (σ : Type) where
  name : String
  required : Bool
  isSet : σ → Bool
  read : σ → Reader σ

namespace Field

def of (name : String) (required : Bool) (get : σ → Option α) (put : σ → α → σ)
    (read : Reader α) : Field σ where
  name := name
  required := required
  isSet draft := (get draft).isSome
  read draft cs :=
    match read cs with
    | .ok (value, rest) => .ok (put draft value, rest)
    | .error fault => .error fault

end Field

/-- A value that a record cannot do without. -/
def need (name : String) (value : Option α) : Except Fault α :=
  match value with
  | some value => .ok value
  | none => .error (.missingField name)

/-- The shape of a record: its fields, the draft that nothing has been read
into, and how a draft becomes a record. -/
structure Record (σ α : Type) where
  typeName : String
  fields : List (Field σ)
  blank : σ
  build : σ → Except Fault α

namespace Record

def expected (r : Record σ α) : String :=
  "struct " ++ r.typeName

def readKeys (fields : List (Field σ)) : Nat → Bool → σ → Reader σ
  | 0, _, _, _ => .error .endInObject
  | fuel + 1, first, draft, cs =>
      match nextKey first cs with
      | .error fault => .error fault
      | .ok (false, rest) => .ok (draft, rest)
      | .ok (true, rest) =>
          match readStringTail rest with
          | .error fault => .error fault
          | .ok (key, rest) =>
              match fields.find? fun field => field.name == key with
              | none =>
                  match readColon rest with
                  | .error fault => .error fault
                  | .ok rest =>
                      match skipValue rest with
                      | .error fault => .error fault
                      | .ok rest => readKeys fields fuel false draft rest
              | some field =>
                  if field.isSet draft then .error (.duplicateField field.name)
                  else
                    match readColon rest with
                    | .error fault => .error fault
                    | .ok rest =>
                        match field.read draft rest with
                        | .error fault => .error fault
                        | .ok (draft, rest) => readKeys fields fuel false draft rest

/-- Read the fields from a list, in order.  Fields that are not required may be
missing at its end. -/
def readInOrder (expected : String) : List (Field σ) → Nat → Bool → σ → Reader σ
  | [], _, _, draft, cs => .ok (draft, cs)
  | field :: fields, index, first, draft, cs =>
      match nextElement first cs with
      | .error fault => .error fault
      | .ok (false, rest) =>
          if field.required then .error (.wrongLength index expected)
          else readInOrder expected fields (index + 1) first draft rest
      | .ok (true, rest) =>
          match field.read draft rest with
          | .error fault => .error fault
          | .ok (draft, rest) => readInOrder expected fields (index + 1) false draft rest

def read (r : Record σ α) : Reader α
  | cs =>
      match skipSpace cs with
      | '\x7b' :: rest => do
          let (draft, rest) ← readKeys r.fields (rest.length + 1) true r.blank rest
          let value ← r.build draft
          let rest ← closeObject rest
          return (value, rest)
      | '[' :: rest => do
          let expected :=
            r.expected ++ " with " ++ toString r.fields.length ++ " elements"
          let (draft, rest) ← readInOrder expected r.fields 0 true r.blank rest
          let value ← r.build draft
          let rest ← closeList rest
          return (value, rest)
      | rest => .error (wrongTypeAt r.expected rest)

end Record

def writeFields : List (String × List Char) → List Char
  | [] => []
  | [(name, value)] => writeString name ++ ':' :: value
  | (name, value) :: more => writeString name ++ ':' :: value ++ ',' :: writeFields more

def writeObject (fields : List (String × List Char)) : List Char :=
  '\x7b' :: writeFields fields ++ ['\x7d']

def writeElements (write : α → List Char) : List α → List Char
  | [] => []
  | [value] => write value
  | value :: more => write value ++ ',' :: writeElements write more

def writeList (write : α → List Char) (values : List α) : List Char :=
  '[' :: writeElements write values ++ [']']

/-- A field that is written only if it has a value. -/
def optionalField (name : String) (write : α → List Char) (value : Option α) :
    List (String × List Char) :=
  match value with
  | some value => [(name, write value)]
  | none => []

end Json

end CapabilityMesh
