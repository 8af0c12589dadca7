import TagFix.Json.Numeral
import TagFix.Json.Text

/-!
Passing over a value whose contents do not matter. The brackets, commas and colons must be in
order, but numbers may be out of range, escapes unpaired and brackets open to any depth.
-/

namespace TagFix.Json

mutual

/-- Passes over a value. The fuel bounds the number of values, items and members. -/
def skipValue : Nat → Cursor → Except Fault Cursor
  | 0, c => .error (c.behind .endInValue)
  | fuel + 1, c =>
      let c := c.skipBlank
      match c.rest with
      | [] => .error (c.ahead .endInValue)
      | 'n' :: _ => Cursor.word "null".toList c
      | 't' :: _ => Cursor.word "true".toList c
      | 'f' :: _ => Cursor.word "false".toList c
      | '"' :: rest => (c.past 1 rest).passText
      | '[' :: rest => skipItems fuel true (c.past 1 rest)
      | '{' :: rest => skipMembers fuel true (c.past 1 rest)
      | next :: _ =>
          if next = '-' ∨ isDigit next then c.passNumber
          else .error (c.ahead .expectedValue)

/-- Passes over the items of an array up to its closing bracket. A comma asks for another item. -/
def skipItems : Nat → Bool → Cursor → Except Fault Cursor
  | 0, _, c => .error (c.behind .endInList)
  | fuel + 1, first, c =>
      let c := c.skipBlank
      match c.rest with
      | [] => .error (c.ahead .endInList)
      | ']' :: rest => .ok (c.past 1 rest)
      | next :: rest =>
          let item := fun c => (skipValue fuel c).bind (skipItems fuel false)
          if first then item c
          else if next = ',' then item (c.past 1 rest)
          else .error (c.ahead .expectedCommaOrBracket)

def skipMembers : Nat → Bool → Cursor → Except Fault Cursor
  | 0, _, c => .error (c.behind .endInObject)
  | fuel + 1, first, c =>
      let c := c.skipBlank
      match c.rest with
      | [] => .error (c.ahead .endInObject)
      | '}' :: rest => .ok (c.past 1 rest)
      | next :: rest =>
          let member := fun c : Cursor =>
            let c := c.skipBlank
            match c.rest with
            | [] => .error (c.ahead .endInObject)
            | '"' :: rest =>
                ((c.past 1 rest).passText.bind Cursor.colon).bind fun c =>
                  (skipValue fuel c).bind (skipMembers fuel false)
            | _ => .error (c.ahead .keyNotText)
          if first then member c
          else if next = ',' then member (c.past 1 rest)
          else .error (c.ahead .expectedCommaOrBrace)

end

def Cursor.skip (c : Cursor) : Except Fault Cursor :=
  skipValue (2 * c.rest.length + 2) c

end TagFix.Json
