import Std.Time.DateTime.Timestamp
import TagFix.CommandLine.Run
import TagFix.Timestamp

/-!
The session simulator as a program.
-/

namespace TagFix.CommandLine

/-- The fault with a number of the system, which may come negated. -/
def numberedFault? (number : UInt32) : Option File.Fault :=
  match (if number < 4096 then number else -number).toNat with
  | 2 => some .missing
  | 20 => some .notFolder
  | 21 => some .isFolder
  | 36 => some .nameTooLong
  | _ => none

def systemFault (failure : IO.Error) : File.Fault :=
  let known := match failure with
    | .noFileOrDirectory _ number _ => numberedFault? number
    | .inappropriateType _ number _ => numberedFault? number
    | .invalidArgument _ number _ => numberedFault? number
    | _ => none
  known.getD (.other (toString failure))

def systemFile (path : String) : IO (Except File.Fault String) := do
  try
    return File.text (some (← IO.FS.readBinFile path))
  catch failure => return .error (systemFault failure)

def namedFiles (arguments : List String) : IO (String → Except File.Fault String) := do
  match Arguments.read arguments with
  | .error _ => return fun _ => .error .missing
  | .ok named =>
      let anchors ← systemFile named.anchors
      let config ← systemFile (named.config.getD named.anchors)
      return fun path => if path = named.anchors then anchors else config

/-- Milliseconds since the start of 1970. -/
def currentTime : IO Int := do
  return (← Std.Time.Timestamp.now).toMillisecondsSinceUnixEpoch.val

def perform : Action → IO Unit
  | .print line => IO.println line
  | .report report => do
      let now ← currentTime
      IO.println (reportLine report (Timestamp.render ⟨now / 1000, (now % 1000 * 1000000).toNat⟩))
  | .pause milliseconds => IO.sleep milliseconds.toUInt32

end TagFix.CommandLine

open TagFix.CommandLine in
def main (arguments : List String) : IO UInt32 := do
  let files ← namedFiles arguments
  let outcome := outcome arguments files (← currentTime)
  outcome.actions.forM perform
  if let some text := outcome.failure then IO.eprint text
  return outcome.exitCode.toUInt32
