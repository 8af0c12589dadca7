import TagFix.Decimal.Layout
import TagFix.Text.Quoted

/-!
What can be wrong with JSON text, and where. A place is a count of bytes from the start of the
text, from which the line and the column in a message are worked out.
-/

namespace TagFix.Json

/-- A value that stands where another type is wanted. -/
inductive Found
  | null
  | boolean (value : Bool)
  | whole (value : Int)
  | decimal (value : Float)
  | text (value : String)
  | sequence
  | map
deriving Repr

inductive Cause
  | endInValue
  | endInList
  | endInObject
  | endInText
  | expectedValue
  | expectedWord
  | expectedColon
  | expectedCommaOrBracket
  | expectedCommaOrBrace
  | invalidNumber
  | numberOutOfRange
  | trailingComma
  | trailingCharacters
  | keyNotText
  | invalidEscape
  | unpairedEscape
  | loneSurrogate
  | controlCharacter
  | tooDeep
  | wrongType (found : Found) (wanted : String)
  | wrongValue (found : Found) (wanted : String)
  | repeatedField (name : String)
deriving Repr

/-- A cause, and the number of bytes up to and with the offending one. -/
structure Fault where
  cause : Cause
  offset : Nat
deriving Repr

def Found.message : Found → String
  | .null => "null"
  | .boolean b => "boolean \x60" ++ (if b then "true" else "false") ++ "\x60"
  | .whole n => "integer \x60" ++ toString n ++ "\x60"
  | .decimal x => "floating point \x60" ++ Decimal.Layout.document.render x ++ "\x60"
  | .text s => "string " ++ Text.quoted s
  | .sequence => "sequence"
  | .map => "map"

def Cause.message : Cause → String
  | .endInValue => "EOF while parsing a value"
  | .endInList => "EOF while parsing a list"
  | .endInObject => "EOF while parsing an object"
  | .endInText => "EOF while parsing a string"
  | .expectedValue => "expected value"
  | .expectedWord => "expected ident"
  | .expectedColon => "expected \x60:\x60"
  | .expectedCommaOrBracket => "expected \x60,\x60 or \x60]\x60"
  | .expectedCommaOrBrace => "expected \x60,\x60 or \x60\x7d\x60"
  | .invalidNumber => "invalid number"
  | .numberOutOfRange => "number out of range"
  | .trailingComma => "trailing comma"
  | .trailingCharacters => "trailing characters"
  | .keyNotText => "key must be a string"
  | .invalidEscape => "invalid escape"
  | .unpairedEscape => "unexpected end of hex escape"
  | .loneSurrogate => "lone leading surrogate in hex escape"
  | .controlCharacter => "control character (\\u0000-\\u001F) found while parsing a string"
  | .tooDeep => "recursion limit exceeded"
  | .wrongType found wanted => "invalid type: " ++ found.message ++ ", expected " ++ wanted
  | .wrongValue found wanted => "invalid value: " ++ found.message ++ ", expected " ++ wanted
  | .repeatedField name => "duplicate field \x60" ++ name ++ "\x60"

/-- A place in a text: lines count from one, columns are bytes since the last line break. -/
structure Place where
  line : Nat
  column : Nat
deriving DecidableEq, Repr

def Place.after : List Char → Nat → Place → Place
  | _, 0, place => place
  | [], _, place => place
  | c :: rest, bytes + 1, place =>
      let next := if c = '\n' then ⟨place.line + 1, 0⟩
        else ⟨place.line, place.column + min c.utf8Size (bytes + 1)⟩
      Place.after rest (bytes + 1 - c.utf8Size) next

def Fault.message (text : List Char) (fault : Fault) : String :=
  let place := Place.after text fault.offset ⟨1, 0⟩
  fault.cause.message ++ " at line " ++ toString place.line ++ " column " ++
    toString place.column

end TagFix.Json
