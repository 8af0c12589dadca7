import TagFix.Anchor.Directory
import TagFix.Json.Printer
import TagFix.Json.Reader

/-!
Directories as JSON documents: an object whose keys are the addresses of anchors and whose values
are their three coordinates. Members that are of no use are left out and reported; the others make
up the directory.
-/

namespace TagFix.Anchor

open TagFix.Json (Value)
open TagFix.Position (Point)

/-- Why a whole document is of no use. -/
inductive DocumentFault
  | notAnObject (found : String)
  | malformed (message : String)
deriving DecidableEq, Repr

def DocumentFault.message : DocumentFault → String
  | .notAnObject found => "anchor directory must be a JSON object, got " ++ found
  | .malformed message => "anchor directory is not valid JSON: " ++ message

/-- Why a member of a document is of no use. -/
inductive Rejection
  | badKey (fault : AnchorId.Fault)
  | notAnArray (found : String)
  | wrongCount (found : Nat)
  | notFinite (coordinate : Value)
deriving Repr

def Rejection.message : Rejection → String
  | .badKey fault => fault.message
  | .notAnArray found => "expected [x, y, z], got " ++ found
  | .wrongCount found => "expected 3 coordinates, got " ++ toString found
  | .notFinite coordinate =>
      "coordinate " ++ coordinate.canonical.compact ++ " is not a finite number"

def coordinate (value : Value) : Except Rejection Float :=
  match value with
  | .number n => if n.toFloat.isFinite then .ok n.toFloat else .error (.notFinite value)
  | _ => .error (.notFinite value)

def point : Value → Except Rejection (Point Float)
  | .array [x, y, z] => do
      let x ← coordinate x
      let y ← coordinate y
      let z ← coordinate z
      .ok ⟨x, y, z⟩
  | .array items => .error (.wrongCount items.length)
  | other => .error (.notAnArray other.kind)

/-- A member of a document as an entry of the directory. -/
def entry (key : String) (value : Value) : Except Rejection (AnchorId × Point Float) :=
  match AnchorId.parse key with
  | .error fault => .error (.badKey fault)
  | .ok id => (point value).map fun place => (id, place)

/-- What a document gives: a directory, and the members left out with the reasons. -/
structure Ingested where
  directory : Directory
  rejected : List (String × Rejection)

def Ingested.empty : Ingested :=
  ⟨Table.empty, []⟩

/-- Takes one more member in. A later spelling of an address replaces an earlier one. -/
def Ingested.take (ingested : Ingested) (member : String × Value) : Ingested :=
  match entry member.1 member.2 with
  | .ok (id, place) => { ingested with directory := ingested.directory.insert id place }
  | .error reason => { ingested with rejected := ingested.rejected ++ [(member.1, reason)] }

/-- Takes in a document, member by member in ascending order of the keys. A `null` stands for no
news. -/
def ingest : Value → Except DocumentFault (Option Ingested)
  | .null => .ok none
  | .object members => .ok (some ((Json.entries members).foldl Ingested.take Ingested.empty))
  | other => .error (.notAnObject other.kind)

def ingestText (text : String) : Except DocumentFault (Option Ingested) :=
  match Json.parse text with
  | .error message => .error (.malformed message)
  | .ok value => ingest value

end TagFix.Anchor
