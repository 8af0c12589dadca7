import TagFix.Json.Reader
import TagFix.Json.Skip

/-!
Reading JSON text straight into a record with known fields. A record is written as an object with
its fields in any order, of which unknown ones are passed over, or as an array with its fields in
their declared order. Fields that are left out keep the value they had. The first fault in the order
of the text is reported, be it one of the text or one of a value's type.
-/

namespace TagFix.Json

/-! ## Values of a wanted type -/

/-- The fault of a value that is not of the wanted type. A scalar is read first and may be faulty
itself; of an array or object only the place before its bracket is told. -/
def mismatch {α : Type} (wanted : String) (c : Cursor) : Except Fault α :=
  let wrong := fun (found : Found) (after : Cursor) =>
    Except.error (after.behind (.wrongType found wanted))
  match c.rest with
  | 'n' :: _ => (Cursor.word "null".toList c).bind (wrong .null)
  | 't' :: _ => (Cursor.word "true".toList c).bind (wrong (.boolean true))
  | 'f' :: _ => (Cursor.word "false".toList c).bind (wrong (.boolean false))
  | '"' :: rest => (c.past 1 rest).text.bind fun (text, after) => wrong (.text text) after
  | '[' :: _ => wrong .sequence c
  | '{' :: _ => wrong .map c
  | next :: _ =>
      if next = '-' ∨ isDigit next then
        c.number.bind fun (number, after) =>
          match number with
          | .whole n => wrong (.whole n) after
          | .decimal x => wrong (.decimal x) after
      else .error (c.ahead .expectedValue)
  | [] => .error (c.ahead .expectedValue)

/-- Reads a number that `accept` takes; what it does not take is told by its fault. -/
def readNumber {α : Type} (wanted : String) (accept : Number → Except Cause α) (c : Cursor) :
    Except Fault (α × Cursor) :=
  let c := c.skipBlank
  match c.rest with
  | [] => .error (c.ahead .endInValue)
  | next :: _ =>
      if next = '-' ∨ isDigit next then
        c.number.bind fun (number, after) =>
          match accept number with
          | .ok value => .ok (value, after)
          | .error cause => .error (after.behind cause)
      else mismatch wanted c

def readNatural (wanted : String) (bound : Nat) (c : Cursor) : Except Fault (Nat × Cursor) :=
  readNumber wanted (fun
    | .whole n =>
        if 0 ≤ n ∧ n < bound then .ok n.toNat else .error (.wrongValue (.whole n) wanted)
    | .decimal x => .error (.wrongType (.decimal x) wanted)) c

/-- Reads a double; an integer is taken as one. -/
def readFloat (wanted : String) (c : Cursor) : Except Fault (Float × Cursor) :=
  readNumber wanted (fun number => .ok number.toFloat) c

def readBoolean (wanted : String) (c : Cursor) : Except Fault (Bool × Cursor) :=
  let c := c.skipBlank
  match c.rest with
  | [] => .error (c.ahead .endInValue)
  | 't' :: _ => (Cursor.word "true".toList c).map fun after => (true, after)
  | 'f' :: _ => (Cursor.word "false".toList c).map fun after => (false, after)
  | _ => mismatch wanted c

/-! ## Records -/

/-- A field of a record of type `σ`: its name, and how its value is read into the record. -/
structure Field (σ : Type) where
  name : String
  read : σ → Cursor → Except Fault (σ × Cursor)

def Field.of {σ α : Type} (name : String) (read : Cursor → Except Fault (α × Cursor))
    (keep : σ → α → σ) : Field σ :=
  ⟨name, fun record c => (read c).map fun (value, after) => (keep record value, after)⟩

/-- A record type: what it is called in a message, and its fields in their declared order. -/
structure Shape (σ : Type) where
  title : String
  fields : List (Field σ)

def Cursor.closeArray (c : Cursor) : Except Fault Cursor :=
  let c := c.skipBlank
  match c.rest with
  | [] => .error (c.ahead .endInList)
  | ']' :: rest => .ok (c.past 1 rest)
  | ',' :: rest =>
      let c := (c.past 1 rest).skipBlank
      if c.rest.head? = some ']' then .error (c.ahead .trailingComma)
      else .error (c.ahead .trailingCharacters)
  | _ => .error (c.ahead .trailingCharacters)

def readInOrder {σ : Type} : List (Field σ) → Bool → σ → Cursor → Except Fault (σ × Cursor)
  | [], _, record, c => c.closeArray.map fun after => (record, after)
  | field :: fields, first, record, c =>
      match c.nextItem first with
      | .error fault => .error fault
      | .ok (none, after) => .ok (record, after)
      | .ok (some c, _) =>
          match field.read record c with
          | .error fault => .error fault
          | .ok (record, c) => readInOrder fields false record c

/-- The fault of a field that came twice. It is found at the end of the key, but told only after
the blanks and a closing brace behind it. -/
def repeatedField (name : String) (c : Cursor) : Fault :=
  let c := c.skipBlank
  (if c.rest.head? = some '}' then c.step else c).behind (.repeatedField name)

/-- Reads members in any order up to the closing brace; `seen` are the known fields read so far.
The fuel bounds the number of members. -/
def readByName {σ : Type} (fields : List (Field σ)) :
    Nat → List String → Bool → σ → Cursor → Except Fault (σ × Cursor)
  | 0, _, _, _, c => .error (c.behind .endInObject)
  | fuel + 1, seen, first, record, c =>
      match c.nextKey first with
      | .error fault => .error fault
      | .ok (none, after) => .ok (record, after)
      | .ok (some key, c) =>
          match fields.find? fun field => field.name == key with
          | none =>
              match c.colon.bind Cursor.skip with
              | .error fault => .error fault
              | .ok c => readByName fields fuel seen false record c
          | some field =>
              if seen.contains key then .error (repeatedField key c)
              else
                match c.colon.bind (field.read record) with
                | .error fault => .error fault
                | .ok (record, c) => readByName fields fuel (key :: seen) false record c

/-- Reads a record over one that holds the values of the fields left out. -/
def Shape.read {σ : Type} (shape : Shape σ) (record : σ) (c : Cursor) :
    Except Fault (σ × Cursor) :=
  let c := c.skipBlank
  match c.rest with
  | [] => .error (c.ahead .endInValue)
  | '[' :: rest => readInOrder shape.fields true record (c.past 1 rest)
  | '{' :: rest => readByName shape.fields (rest.length + 1) [] true record (c.past 1 rest)
  | _ => mismatch shape.title c

def Shape.readText {σ : Type} (shape : Shape σ) (record : σ) (text : List Char) :
    Except Fault σ := do
  let (record, c) ← shape.read record (Cursor.start text)
  c.finish
  .ok record

end TagFix.Json
