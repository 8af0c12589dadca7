/-!
The paired tag.
-/

namespace TagFix

/-- A tag: the identifier that the radio knows it by, and the name that people know it by. -/
structure Device where
  id : String
  name : String
deriving DecidableEq, Repr

end TagFix
