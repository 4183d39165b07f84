import ShellSuite.Duration

set_option autoImplicit false
set_option relaxedAutoImplicit false

/-!
Cancellation and deadlines. Cancelling stops new tests at once; what is running may go on for a
grace period, unless that is dropped by force.
-/

namespace ShellSuite

/-- The state of a cancellation: whether it was asked for, whether the grace period is dropped, and
the time of the first request. -/
structure CancelToken where
  cancelled : Bool
  forced : Bool
  requestedAt : Option Duration
  grace : Duration
  deriving DecidableEq, Repr

namespace CancelToken

def defaultGrace : Duration := Duration.ofSeconds 2

def fresh (grace : Duration) : CancelToken :=
  ⟨false, false, none, grace⟩

def noteRequest (t : CancelToken) (now : Duration) : CancelToken :=
  { t with requestedAt := some (t.requestedAt.getD now) }

def markCancelled (t : CancelToken) : CancelToken :=
  { t with cancelled := true }

def markForced (t : CancelToken) : CancelToken :=
  { t with forced := true }

def cancel (t : CancelToken) (now : Duration) : CancelToken :=
  (t.noteRequest now).markCancelled

def force (t : CancelToken) (now : Duration) : CancelToken :=
  (t.cancel now).markForced

/-- Whether running processes are killed: the grace period is over or was dropped. -/
def shouldKill (t : CancelToken) (now : Duration) : Bool :=
  t.forced || (t.cancelled && t.requestedAt.any fun first => t.grace ≤ now - first)

end CancelToken

structure Watchdog where
  deadline : Option Duration
  timeout : Option Duration
  deriving DecidableEq, Repr

namespace Watchdog

/-- The first time that a clock of signed 64-bit seconds cannot show. -/
def clockLimit : Duration := Duration.ofSeconds (Nat.pow 2 63)

/-- The watchdog of a test that starts now, if the clock can show its deadline. -/
def start? (now : Duration) : Option Duration → Option Watchdog
  | none => some ⟨none, none⟩
  | some timeout =>
    if now + timeout < clockLimit then some ⟨some (now + timeout), some timeout⟩ else none

def expired (w : Watchdog) (now : Duration) : Bool :=
  w.deadline.any (· ≤ now)

end Watchdog

end ShellSuite
