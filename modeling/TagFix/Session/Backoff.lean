/-!
The pause before a retry. It doubles with every failure in a row up to a cap, and after a number of
failures in a row there are no more retries.
-/

namespace TagFix.Session

/-- The bounds of the retries, and the failures in a row so far. Times are in milliseconds. -/
structure Backoff where
  maxFailures : Nat
  base : Nat
  cap : Nat
  failures : Nat
deriving DecidableEq, Repr

namespace Backoff

/-- The greatest number of failures that is counted. -/
def mostCounted : Nat := 4294967295

/-- The doublings after which the pause grows no more. -/
def mostDoublings : Nat := 31

/-- A backoff without failures; at least one is allowed, and the cap is not below the base. -/
def start (maxFailures base cap : Nat) : Backoff :=
  ⟨max maxFailures 1, base, max cap base, 0⟩

def recordFailure (backoff : Backoff) : Backoff :=
  { backoff with failures := min (backoff.failures + 1) mostCounted }

def recordSuccess (backoff : Backoff) : Backoff :=
  { backoff with failures := 0 }

def isExhausted (backoff : Backoff) : Bool :=
  backoff.maxFailures ≤ backoff.failures

def delay (backoff : Backoff) : Nat :=
  min (backoff.base * Nat.pow 2 (min (backoff.failures - 1) mostDoublings)) backoff.cap

theorem delay_le_cap (backoff : Backoff) : backoff.delay ≤ backoff.cap :=
  Nat.min_le_right _ _

end Backoff

end TagFix.Session
