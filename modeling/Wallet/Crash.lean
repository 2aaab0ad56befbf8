/-!
# Crashes

The few conditions under which the program stops at once instead of answering. They are values, so
that whoever calls an operation that can crash sees it in the operation's type.
-/

namespace Wallet

/-- A condition the program does not go on under. -/
inductive Crash where
  /-- A sum does not fit. -/
  | addOverflow
  /-- A difference does not fit. -/
  | subOverflow
  /-- A pool has more slots than can be counted. -/
  | poolTooLarge
  /-- A timeout ends after the last instant the monotonic clock can show. -/
  | deadlineTooFar
deriving DecidableEq, Repr

/-- The most slots a pool can have. -/
def maxPermits : Nat := 2305843009213693951

def Crash.message : Crash → String
  | .addOverflow => "attempt to add with overflow"
  | .subOverflow => "attempt to subtract with overflow"
  | .poolTooLarge =>
      s!"a semaphore may not have more than MAX_PERMITS permits ({maxPermits})"
  | .deadlineTooFar => "overflow when adding duration to instant"

end Wallet
