import TagFix.Bytes.Hex
import TagFix.Text.Combining

/-!
Text between double quotes, as it stands in a diagnostic: every character that a reader could not
tell from its surroundings is written as an escape.
-/

namespace TagFix.Text

def quotedChar (c : Char) : String :=
  if c = '"' then "\\\""
  else if c = '\\' then "\\\\"
  else if c = '\n' then "\\n"
  else if c = '\r' then "\\r"
  else if c = '\t' then "\\t"
  else if c.toNat = 0 then "\\0"
  else if isCombining c || !isPrintable c then
    "\\u\x7b" ++ Hex.ofNat c.toNat ++ "\x7d"
  else c.toString

def quoted (text : String) : String :=
  "\"" ++ String.join (text.toList.map quotedChar) ++ "\""

end TagFix.Text
