import ShellSuite.Duration
import ShellSuite.Text.Utf8

set_option autoImplicit false
set_option relaxedAutoImplicit false

/-!
Streams: bytes that arrive over time.
-/

namespace ShellSuite

/-- What a reader gets: chunks at their times, what is repeated behind them if it never ends, and
the time of its end if it has one. -/
structure Stream where
  chunks : List (Duration × Bytes)
  endless : Option Bytes
  close : Option Duration

namespace Stream

def ofBytes (time : Duration) (bytes : Bytes) : Stream :=
  ⟨if bytes.isEmpty then [] else [(time, bytes)], none, some time⟩

def bytes (s : Stream) : Bytes :=
  s.chunks.flatMap (·.2)

/-- Whether more bytes flow than `room` holds. -/
def exceeds (s : Stream) (room : Nat) : Bool :=
  s.endless.isSome || room < s.bytes.length

end Stream

end ShellSuite
