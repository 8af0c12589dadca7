import TagFix.Json.Fault

/-!
A place in a text that is being read: what is left of it, and how many bytes lie behind.
-/

namespace TagFix.Json

/-- What is left of a text, and the number of bytes before it. -/
structure Cursor where
  rest : List Char
  offset : Nat
deriving Repr

namespace Cursor

def start (text : List Char) : Cursor :=
  ⟨text, 0⟩

/-- A fault at the bytes read so far. -/
def behind (c : Cursor) (cause : Cause) : Fault :=
  ⟨cause, c.offset⟩

/-- A fault at the next byte, or at the end of the text. -/
def ahead (c : Cursor) (cause : Cause) : Fault :=
  ⟨cause, if c.rest.isEmpty then c.offset else c.offset + 1⟩

/-- Whether JSON has the character as a blank. -/
def isBlank (c : Char) : Bool :=
  c = ' ' || c = '\n' || c = '\t' || c = '\r'

/-- The cursor past a number of bytes, behind which `rest` is left. -/
def past (c : Cursor) (bytes : Nat) (rest : List Char) : Cursor :=
  ⟨rest, c.offset + bytes⟩

def skipBlank (c : Cursor) : Cursor :=
  c.past (c.rest.takeWhile isBlank).length (c.rest.dropWhile isBlank)

/-- The cursor behind the next character, which has one byte. -/
def step (c : Cursor) : Cursor :=
  c.past 1 c.rest.tail

def word : List Char → Cursor → Except Fault Cursor
  | [], c => .ok c
  | letter :: letters, c =>
      match c.rest with
      | [] => .error (c.behind .endInValue)
      | next :: rest =>
          if next = letter then word letters (c.past 1 rest)
          else .error ((c.past 1 rest).behind .expectedWord)

def colon (c : Cursor) : Except Fault Cursor :=
  let c := c.skipBlank
  match c.rest with
  | ':' :: rest => .ok (c.past 1 rest)
  | [] => .error (c.ahead .endInObject)
  | _ => .error (c.ahead .expectedColon)

end Cursor

end TagFix.Json
