/-!
Files as they come from the system: bytes that may be missing or may not be text.
-/

namespace TagFix.File

/-- Why a file cannot be read or written. -/
inductive Fault
  | missing
  /-- A name on the way is that of a file and of no folder. -/
  | notFolder
  | isFolder
  | nameTooLong
  /-- The path has a null character, which no name has. -/
  | nullInName
  | notText
  | other (description : String)
deriving DecidableEq, Repr

def Fault.message : Fault → String
  | .missing => "No such file or directory (os error 2)"
  | .notFolder => "Not a directory (os error 20)"
  | .isFolder => "Is a directory (os error 21)"
  | .nameTooLong => "File name too long (os error 36)"
  | .nullInName => "file name contained an unexpected NUL byte"
  | .notText => "stream did not contain valid UTF-8"
  | .other description => description

/-- The text of a file, which is `none` where there is no file. -/
def text : Option ByteArray → Except Fault String
  | none => .error .missing
  | some bytes =>
      match String.fromUTF8? bytes with
      | some text => .ok text
      | none => .error .notText

end TagFix.File
