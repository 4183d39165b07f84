set_option autoImplicit false
set_option relaxedAutoImplicit false

/-!
Quotients to the nearest integer, and decimals with a fixed number of places.
-/

namespace ShellSuite.Decimal

/-- The integer nearest to a quotient; a half goes to the even neighbour. -/
def roundDiv (n d : Nat) : Nat :=
  let q := n / d
  let r := n % d
  if d < 2 * r || (2 * r = d && q % 2 = 1) then q + 1 else q

/-- The decimal digits of a number, filled up with zeros in front. -/
def padded (width n : Nat) : String :=
  let digits := toString n
  String.ofList (List.replicate (width - digits.length) '0') ++ digits

/-- The text of `n` units of the last of some decimal places. -/
def fixed (places n : Nat) : String :=
  if places = 0 then toString n
  else toString (n / Nat.pow 10 places) ++ "." ++ padded places (n % Nat.pow 10 places)

end ShellSuite.Decimal
