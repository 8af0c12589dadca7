/-!
JSON documents as values. An object keeps its members as they were written; what a key stands for
is decided by `entries`, in which the last of several members with one key counts and the keys
ascend.
-/

namespace TagFix.Json

/-- A number of a document: an integer of at most 64 bits keeps its exact value, any other number
is a double. -/
inductive Number
  | whole (value : Int)
  | decimal (value : Float)
deriving Repr

inductive Value
  | null
  | boolean (value : Bool)
  | number (value : Number)
  | text (value : String)
  | array (items : List Value)
  | object (members : List (String × Value))
deriving Repr, Inhabited

def Number.toFloat : Number → Float
  | .whole n => Float.ofInt n
  | .decimal x => x

/-- Puts a pair into a list with ascending keys, over an old pair of its key. Strings are ordered
by their code points, which is also the order of their UTF-8 bytes. -/
def insertSorted {α : Type} (key : String) (value : α) :
    List (String × α) → List (String × α)
  | [] => [(key, value)]
  | entry :: rest =>
      if key < entry.1 then (key, value) :: entry :: rest
      else if key = entry.1 then (key, value) :: rest
      else entry :: insertSorted key value rest

/-- The pairs in ascending order of their keys, the last one of each key. -/
def sortedEntries {α : Type} (pairs : List (String × α)) : List (String × α) :=
  pairs.foldl (fun entries pair => insertSorted pair.1 pair.2 entries) []

/-- The members of an object that count, in ascending order of their keys. -/
def entries (members : List (String × Value)) : List (String × Value) :=
  sortedEntries members

def Value.member? (key : String) : Value → Option Value
  | .object members => (members.reverse.find? fun member => member.1 == key).map Prod.snd
  | _ => none

def Value.kind : Value → String
  | .null => "null"
  | .boolean _ => "boolean"
  | .number _ => "number"
  | .text _ => "string"
  | .array _ => "array"
  | .object _ => "object"

end TagFix.Json
