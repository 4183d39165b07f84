import ShellSuite.Decimal.Rounding

set_option autoImplicit false
set_option relaxedAutoImplicit false

/-!
Non-negative numbers with 53 binary digits, each operation rounded to the nearest one. Spans of
time are far from the ends of the range, so exponents have no bound here.
-/

namespace ShellSuite.Decimal

/-- The number `mantissa * 2 ^ exponent`. -/
structure Binary where
  mantissa : Nat
  exponent : Int
  deriving DecidableEq, Repr

namespace Binary

def precision : Nat := 53

def round (b : Binary) : Binary :=
  let excess := (b.mantissa.log2 + 1) - precision
  ⟨roundDiv b.mantissa (Nat.pow 2 excess), b.exponent + excess⟩

def ofNat (n : Nat) : Binary :=
  round ⟨n, 0⟩

/-- The number nearest to a quotient: enough binary digits of it, and one more that tells whether
anything is left. -/
def ofQuotient (n d : Nat) : Binary :=
  let shift := precision + 2 + d.log2
  let q := n * Nat.pow 2 shift / d
  let rest := if n * Nat.pow 2 shift % d = 0 then 0 else 1
  round ⟨2 * q + rest, -(shift + 1)⟩

def add (a b : Binary) : Binary :=
  let e := min a.exponent b.exponent
  let scaled (x : Binary) : Nat := x.mantissa * Nat.pow 2 (x.exponent - e).toNat
  round ⟨scaled a + scaled b, e⟩

/-- The same number with exactly 53 binary digits, if it is not zero. -/
def normalise (b : Binary) : Binary :=
  let missing := precision - (b.mantissa.log2 + 1)
  ⟨b.mantissa * Nat.pow 2 missing, b.exponent - missing⟩

def toQuotient (b : Binary) : Nat × Nat :=
  if 0 ≤ b.exponent then (b.mantissa * Nat.pow 2 b.exponent.toNat, 1)
  else (b.mantissa, Nat.pow 2 (-b.exponent).toNat)

def fixedText (b : Binary) (places : Nat) : String :=
  let (n, d) := b.toQuotient
  fixed places (roundDiv (n * Nat.pow 10 places) d)

end Binary

end ShellSuite.Decimal
