/-!
Looking for a text inside another one.
-/

namespace TagFix.Text

def occurs (pattern : List Char) : List Char → Bool
  | [] => pattern.isEmpty
  | c :: rest => pattern.isPrefixOf (c :: rest) || occurs pattern rest

end TagFix.Text
