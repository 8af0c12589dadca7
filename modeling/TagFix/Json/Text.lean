import TagFix.Bytes.Hex
import TagFix.Json.Cursor

/-!
Strings in JSON text. A string is either read for its characters, and then escapes for halves of a
surrogate pair must come in pairs, or passed over, and then any four digits will do.
-/

namespace TagFix.Json

namespace Cursor

/-- Reads the four hexadecimal digits of an escape. Four bytes are taken whatever they are, and a
text that ends before them is read to its end. -/
def hexEscape (c : Cursor) : Except Fault (Nat × Cursor) :=
  let size := fun cs : List Char => (String.ofList cs).utf8ByteSize
  match c.rest with
  | a :: b :: d :: e :: rest =>
      match Hex.value? a, Hex.value? b, Hex.value? d, Hex.value? e with
      | some a, some b, some d, some e =>
          .ok (4096 * a + 256 * b + 16 * d + e, c.past 4 rest)
      | _, _, _, _ => .error ⟨.invalidEscape, c.offset + 4⟩
  | short =>
      if 4 ≤ size short then .error ⟨.invalidEscape, c.offset + 4⟩
      else .error ⟨.endInText, c.offset + size short⟩

def letterEscape? : Char → Option Char
  | '"' => some '"'
  | '\\' => some '\\'
  | '/' => some '/'
  | 'b' => some (Char.ofNat 8)
  | 'f' => some (Char.ofNat 12)
  | 'n' => some '\n'
  | 'r' => some '\r'
  | 't' => some '\t'
  | _ => none

def pairMark (mark : Char) (c : Cursor) : Except Fault Cursor :=
  match c.rest with
  | [] => .error (c.behind .endInText)
  | next :: rest =>
      if next = mark then .ok (c.past 1 rest)
      else .error ((c.past 1 rest).behind .unpairedEscape)

/-- Reads the digits of a `u` escape: those of one character, or of the upper half of a surrogate
pair with the escape of its lower half behind them. -/
def unicodeEscape (c : Cursor) : Except Fault (Char × Cursor) := do
  let (high, c) ← c.hexEscape
  if 0xdc00 ≤ high ∧ high ≤ 0xdfff then .error (c.behind .loneSurrogate)
  else if high < 0xd800 ∨ 0xdbff < high then .ok (Char.ofNat high, c)
  else
    let c ← c.pairMark '\\'
    let c ← c.pairMark 'u'
    let (low, c) ← c.hexEscape
    if low < 0xdc00 ∨ 0xdfff < low then .error (c.behind .loneSurrogate)
    else .ok (Char.ofNat (0x10000 + 1024 * (high - 0xd800) + (low - 0xdc00)), c)

def escape (c : Cursor) : Except Fault (Char × Cursor) :=
  match c.rest with
  | [] => .error (c.behind .endInText)
  | letter :: rest =>
      if letter = 'u' then (c.past 1 rest).unicodeEscape
      else
        match letterEscape? letter with
        | some meant => .ok (meant, c.past 1 rest)
        | none => .error ((c.past 1 rest).behind .invalidEscape)

def passEscape (c : Cursor) : Except Fault Cursor :=
  match c.rest with
  | [] => .error (c.behind .endInText)
  | letter :: rest =>
      if letter = 'u' then (c.past 1 rest).hexEscape.map Prod.snd
      else if (letterEscape? letter).isSome then .ok (c.past 1 rest)
      else .error ((c.past 1 rest).behind .invalidEscape)

/-- Reads the characters up to the closing quote, in front of which `read` stands in reverse.
The fuel bounds the number of characters. -/
def textLoop : Nat → List Char → Cursor → Except Fault (String × Cursor)
  | 0, _, c => .error (c.behind .endInText)
  | fuel + 1, read, c =>
      match c.rest with
      | [] => .error (c.behind .endInText)
      | next :: rest =>
          if next = '"' then .ok (String.ofList read.reverse, c.past 1 rest)
          else if next = '\\' then
            match (c.past 1 rest).escape with
            | .ok (meant, after) => textLoop fuel (meant :: read) after
            | .error fault => .error fault
          else if next.toNat < 32 then .error ((c.past 1 rest).behind .controlCharacter)
          else textLoop fuel (next :: read) (c.past next.utf8Size rest)

def text (c : Cursor) : Except Fault (String × Cursor) :=
  textLoop (c.rest.length + 1) [] c

def passTextLoop : Nat → Cursor → Except Fault Cursor
  | 0, c => .error (c.behind .endInText)
  | fuel + 1, c =>
      match c.rest with
      | [] => .error (c.behind .endInText)
      | next :: rest =>
          if next = '"' then .ok (c.past 1 rest)
          else if next = '\\' then
            match (c.past 1 rest).passEscape with
            | .ok after => passTextLoop fuel after
            | .error fault => .error fault
          else if next.toNat < 32 then .error (c.behind .controlCharacter)
          else passTextLoop fuel (c.past next.utf8Size rest)

def passText (c : Cursor) : Except Fault Cursor :=
  passTextLoop (c.rest.length + 1) c

end Cursor

end TagFix.Json
