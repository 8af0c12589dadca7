import TagFix.Bytes.Hex
import TagFix.Text.Blank
import TagFix.Text.Quoted

/-!
Hardware addresses of anchors: eight bytes, rendered most significant first and sent over the air
least significant first.
-/

namespace TagFix

/-- An anchor's address, most significant byte first. -/
structure AnchorId where
  bytes : Vector UInt8 8
deriving DecidableEq

namespace AnchorId

/-! ## On the air -/

/-- The address whose bytes came in the order of the air. -/
def ofWire (wire : Vector UInt8 8) : AnchorId :=
  ⟨wire.reverse⟩

def toWire (id : AnchorId) : Vector UInt8 8 :=
  id.bytes.reverse

@[simp] theorem toWire_ofWire (wire : Vector UInt8 8) : (ofWire wire).toWire = wire := by
  simp [ofWire, toWire]

@[simp] theorem ofWire_toWire (id : AnchorId) : ofWire id.toWire = id := by
  cases id
  simp [ofWire, toWire]

/-! ## As text -/

/-- The address as eight octets of two lower-case digits, with colons between them. -/
def render (id : AnchorId) : String :=
  String.intercalate ":" (id.bytes.toList.map fun b => String.ofList (Hex.byte b))

/-- What is wrong with the text of an address. -/
inductive Fault
  | wrongLength (found : Nat)
  | invalidOctet (octet : String)
deriving DecidableEq, Repr

def Fault.message : Fault → String
  | .wrongLength found => "anchor id must have 8 octets, got " ++ toString found
  | .invalidOctet octet => "invalid octet " ++ Text.quoted octet ++ " in anchor id"

/-- The value of an octet: two hexadecimal digits of either case, or a plus sign and one digit. -/
def octet? : List Char → Option UInt8
  | [high, low] =>
      if high = '+' then (Hex.value? low).map UInt8.ofNat
      else do
        let h ← Hex.value? high
        let l ← Hex.value? low
        pure (UInt8.ofNat (16 * h + l))
  | _ => none

def octets : List (List Char) → Except Fault (List UInt8)
  | [] => .ok []
  | octet :: rest =>
      match octet? octet with
      | none => .error (.invalidOctet (String.ofList octet))
      | some b => (octets rest).map (b :: ·)

/-- Reads an address. Blanks around it do not count; the number of octets is looked at first. -/
def parse (text : String) : Except Fault AnchorId := do
  let parts := Text.splitAtChar ':' (Text.trimmed text.toList)
  if parts.length ≠ 8 then .error (.wrongLength parts.length)
  else
    let bytes ← octets parts
    if size : bytes.toArray.size = 8 then .ok ⟨⟨bytes.toArray, size⟩⟩
    else .error (.wrongLength bytes.length)

/-! ## Order -/

/-- Whether one address comes before or with another, by their bytes from the most significant. -/
def atMost (left right : AnchorId) : Bool :=
  decide (left.bytes.toList ≤ right.bytes.toList)

end AnchorId

end TagFix
