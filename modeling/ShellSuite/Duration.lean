import ShellSuite.Decimal.Rounding

set_option autoImplicit false
set_option relaxedAutoImplicit false

/-!
Spans of time in nanoseconds and their text.
-/

namespace ShellSuite

abbrev Duration := Nat

namespace Duration

def ofMillis (n : Nat) : Duration := n * 1000000

def ofSeconds (n : Nat) : Duration := n * 1000000000

def unit (d : Duration) : Nat × String :=
  if 1000000000 ≤ d then (1000000000, "s")
  else if 1000000 ≤ d then (1000000, "ms")
  else if 1000 ≤ d then (1000, "µs")
  else (1, "ns")

/-- The text of a span in its largest unit, to some decimal places. -/
def render (d : Duration) (places : Nat) : String :=
  Decimal.fixed places (Decimal.roundDiv (d * Nat.pow 10 places) d.unit.1) ++ d.unit.2

end Duration

end ShellSuite
