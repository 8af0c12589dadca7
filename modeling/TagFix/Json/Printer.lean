import TagFix.Bytes.Hex
import TagFix.Decimal.Layout
import TagFix.Json.Value

/-!
JSON text of a value, on one line or indented. Members are written in the order in which the value
holds them; `Value.canonical` puts them in order of their keys first.
-/

namespace TagFix.Json

/-! ## Scalars -/

def escapedChar (c : Char) : String :=
  if c = '"' then "\\\""
  else if c = '\\' then "\\\\"
  else if c = '\n' then "\\n"
  else if c = '\r' then "\\r"
  else if c = '\t' then "\\t"
  else if c.toNat = 8 then "\\b"
  else if c.toNat = 12 then "\\f"
  else if c.toNat < 32 then "\\u00" ++ String.ofList (Hex.byte (UInt8.ofNat c.toNat))
  else c.toString

def printText (text : String) : String :=
  "\"" ++ String.join (text.toList.map escapedChar) ++ "\""

/-- A double; one that is no finite number has no JSON text and becomes `null`. -/
def printFloat (x : Float) : String :=
  (Decimal.Layout.document.finite? x).getD "null"

def Number.print : Number → String
  | .whole n => toString n
  | .decimal x => printFloat x

def printBoolean (b : Bool) : String :=
  if b then "true" else "false"

/-! ## Values -/

mutual

/-- The value with the members of its objects in ascending order of their keys, each key once. -/
def Value.canonical : Value → Value
  | .array items => .array (canonicalItems items)
  | .object members => .object (sortedEntries (canonicalMembers members))
  | scalar => scalar

def canonicalItems : List Value → List Value
  | [] => []
  | item :: rest => item.canonical :: canonicalItems rest

def canonicalMembers : List (String × Value) → List (String × Value)
  | [] => []
  | (key, value) :: rest => (key, value.canonical) :: canonicalMembers rest

end

mutual

/-- The value on one line, without blanks. -/
def Value.compact : Value → String
  | .null => "null"
  | .boolean b => printBoolean b
  | .number n => n.print
  | .text s => printText s
  | .array items => "[" ++ String.intercalate "," (compactItems items) ++ "]"
  | .object members => "\x7b" ++ String.intercalate "," (compactMembers members) ++ "\x7d"

def compactItems : List Value → List String
  | [] => []
  | item :: rest => item.compact :: compactItems rest

def compactMembers : List (String × Value) → List String
  | [] => []
  | (key, value) :: rest => (printText key ++ ":" ++ value.compact) :: compactMembers rest

end

/-- The beginning of a line at a depth: two blanks for each level. -/
def newLine (depth : Nat) : String :=
  "\n" ++ String.ofList (List.replicate (2 * depth) ' ')

mutual

/-- The value with each item and member on a line of its own. -/
def Value.indented (depth : Nat) : Value → String
  | .array [] => "[]"
  | .object [] => "\x7b\x7d"
  | .array items =>
      "[" ++ String.intercalate "," (indentedItems (depth + 1) items) ++ newLine depth ++ "]"
  | .object members =>
      "\x7b" ++ String.intercalate "," (indentedMembers (depth + 1) members) ++
        newLine depth ++ "\x7d"
  | .null => "null"
  | .boolean b => printBoolean b
  | .number n => n.print
  | .text s => printText s

def indentedItems (depth : Nat) : List Value → List String
  | [] => []
  | item :: rest => (newLine depth ++ item.indented depth) :: indentedItems depth rest

def indentedMembers (depth : Nat) : List (String × Value) → List String
  | [] => []
  | (key, value) :: rest =>
      (newLine depth ++ printText key ++ ": " ++ value.indented depth) ::
        indentedMembers depth rest

end

end TagFix.Json
