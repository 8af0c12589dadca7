import TagFix.Link.Operation

/-!
Commands to the tag: short texts of the form "key: value", written to one of its characteristics.
-/

namespace TagFix

/-- The part that a tag plays in ranging. -/
inductive Role
  | mobile
  | anchor
deriving DecidableEq, Repr

def Role.code : Role → Nat
  | .mobile => 1
  | .anchor => 2

inductive Command
  /-- Gives the tag a role, and the time in milliseconds to set its clock by. -/
  | assignRole (role : Role) (time : Int)
  | ranging (enabled : Bool)
deriving DecidableEq, Repr

namespace Command

def text : Command → String
  | .assignRole role time => "Role: " ++ toString role.code ++ "; Time: " ++ toString time
  | .ranging true => "Ranging: On"
  | .ranging false => "Ranging: Off"

def encode (command : Command) : List UInt8 :=
  command.text.toUTF8.toList

def characteristic : Command → Link.Characteristic
  | .assignRole .. => .status
  | .ranging _ => .ranging

end Command

end TagFix
