import TagFix.Text.Search

/-!
Failures of the link, and what they call for.
-/

namespace TagFix.Link

inductive Activity
  | adapterCheck
  | scan
  | connect
  | subscribe
  | read
  | write
  | disconnect
deriving DecidableEq, Repr

def Activity.text : Activity → String
  | .adapterCheck => "adapter check"
  | .scan => "scan"
  | .connect => "connect"
  | .subscribe => "subscribe"
  | .read => "read"
  | .write => "write"
  | .disconnect => "disconnect"

/-- Whether the tag can still be reached. -/
inductive FailureKind
  /-- The radio no longer knows the tag, which has to be discovered again. -/
  | targetUnreachable
  /-- The same activity may be tried again. -/
  | transient
deriving DecidableEq, Repr

def FailureKind.name : FailureKind → String
  | .targetUnreachable => "TargetUnreachable"
  | .transient => "Transient"

structure Failure where
  activity : Activity
  kind : FailureKind
  reason : String
deriving DecidableEq, Repr

def Failure.message (failure : Failure) : String :=
  failure.activity.text ++ " failed (" ++ failure.kind.name ++ "): " ++ failure.reason

/-- What a reason says when the radio no longer knows the tag. -/
def unreachableSign : String := "not found"

/-- The failure of an activity for a reason. The sign of a lost tag is looked for without regard to
case; no character beyond ASCII has one of its letters for lower case, so folding the capitals of
ASCII is enough. -/
def Failure.classify (activity : Activity) (reason : String) : Failure :=
  let folded := reason.toList.map Char.toLower
  ⟨activity, if Text.occurs unreachableSign.toList folded then .targetUnreachable else .transient,
    reason⟩

/-- How a session goes on after a failure. -/
inductive Recovery
  | rescan
  | retryWithBackoff
deriving DecidableEq, Repr

/-- The recovery from a failure: only where the tag is needed can its loss be cured by a scan. -/
def Failure.recovery (failure : Failure) : Recovery :=
  match failure.activity, failure.kind with
  | .connect, .targetUnreachable | .subscribe, .targetUnreachable => .rescan
  | _, _ => .retryWithBackoff

end TagFix.Link
