import TagFix.Json.Numeral
import TagFix.Json.Text

/-!
Reading JSON text into a value. The first fault in the order of the text is reported, and at most
127 brackets may be open at one time.
-/

namespace TagFix.Json

/-- How many arrays and objects may be open inside one another. -/
def depthLimit : Nat := 127

namespace Cursor

/-- Goes to the next item of an array, past the comma in front of it; `none` stands for the closing
bracket, which is passed too. -/
def nextItem (first : Bool) (c : Cursor) : Except Fault (Option Cursor × Cursor) :=
  let c := c.skipBlank
  match c.rest with
  | [] => .error (c.ahead .endInList)
  | ']' :: rest => .ok (none, c.past 1 rest)
  | next :: rest =>
      if first then .ok (some c, c)
      else if next = ',' then
        let c := (c.past 1 rest).skipBlank
        match c.rest with
        | [] => .error (c.ahead .endInValue)
        | ']' :: _ => .error (c.ahead .trailingComma)
        | _ => .ok (some c, c)
      else .error (c.ahead .expectedCommaOrBracket)

/-- Reads the next key of an object, past the comma in front of it; `none` stands for the closing
brace, which is passed too. -/
def nextKey (first : Bool) (c : Cursor) : Except Fault (Option String × Cursor) :=
  let c := c.skipBlank
  let key := fun c : Cursor => c.text.map fun (key, after) => (some key, after)
  match c.rest with
  | [] => .error (c.ahead .endInObject)
  | '}' :: rest => .ok (none, c.past 1 rest)
  | next :: rest =>
      if first then
        if next = '"' then key (c.past 1 rest) else .error (c.ahead .keyNotText)
      else if next = ',' then
        let c := (c.past 1 rest).skipBlank
        match c.rest with
        | [] => .error (c.ahead .endInValue)
        | '"' :: rest => key (c.past 1 rest)
        | '}' :: _ => .error (c.ahead .trailingComma)
        | _ => .error (c.ahead .keyNotText)
      else .error (c.ahead .expectedCommaOrBrace)

end Cursor

mutual

/-- Reads a value inside of which `depth` more brackets may open. The fuel bounds the number of
values, items and members. -/
def readValue : Nat → Nat → Cursor → Except Fault (Value × Cursor)
  | 0, _, c => .error (c.behind .endInValue)
  | fuel + 1, depth, c =>
      let c := c.skipBlank
      match c.rest with
      | [] => .error (c.ahead .endInValue)
      | 'n' :: _ => (Cursor.word "null".toList c).map fun after => (.null, after)
      | 't' :: _ => (Cursor.word "true".toList c).map fun after => (.boolean true, after)
      | 'f' :: _ => (Cursor.word "false".toList c).map fun after => (.boolean false, after)
      | '"' :: rest => (c.past 1 rest).text.map fun (text, after) => (.text text, after)
      | '[' :: rest =>
          match depth with
          | 0 => .error (c.ahead .tooDeep)
          | depth + 1 =>
              (readItems fuel depth true (c.past 1 rest)).map fun (items, after) =>
                (.array items, after)
      | '{' :: rest =>
          match depth with
          | 0 => .error (c.ahead .tooDeep)
          | depth + 1 =>
              (readMembers fuel depth true (c.past 1 rest)).map fun (members, after) =>
                (.object members, after)
      | next :: _ =>
          if next = '-' ∨ isDigit next then
            c.number.map fun (number, after) => (.number number, after)
          else .error (c.ahead .expectedValue)

def readItems : Nat → Nat → Bool → Cursor → Except Fault (List Value × Cursor)
  | 0, _, _, c => .error (c.behind .endInList)
  | fuel + 1, depth, first, c =>
      match c.nextItem first with
      | .error fault => .error fault
      | .ok (none, after) => .ok ([], after)
      | .ok (some c, _) =>
          match readValue fuel depth c with
          | .error fault => .error fault
          | .ok (item, c) =>
              (readItems fuel depth false c).map fun (items, after) => (item :: items, after)

def readMembers : Nat → Nat → Bool → Cursor → Except Fault (List (String × Value) × Cursor)
  | 0, _, _, c => .error (c.behind .endInObject)
  | fuel + 1, depth, first, c =>
      match c.nextKey first with
      | .error fault => .error fault
      | .ok (none, after) => .ok ([], after)
      | .ok (some key, c) =>
          match c.colon with
          | .error fault => .error fault
          | .ok c =>
              match readValue fuel depth c with
              | .error fault => .error fault
              | .ok (value, c) =>
                  (readMembers fuel depth false c).map fun (members, after) =>
                    ((key, value) :: members, after)

end

/-- The end of a document: nothing but blanks is left. -/
def Cursor.finish (c : Cursor) : Except Fault Unit :=
  let c := c.skipBlank
  if c.rest.isEmpty then .ok () else .error (c.ahead .trailingCharacters)

/-- Reads a whole text. Each value, item or member takes up a character, and before each of them
stands at most one other step. -/
def Value.read (text : List Char) : Except Fault Value := do
  let (value, c) ← readValue (2 * text.length + 2) depthLimit (Cursor.start text)
  c.finish
  .ok value

def parse (document : String) : Except String Value :=
  (Value.read document.toList).mapError (Fault.message document.toList)

end TagFix.Json
