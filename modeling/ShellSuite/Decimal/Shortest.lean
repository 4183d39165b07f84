import ShellSuite.Decimal.Binary

set_option autoImplicit false
set_option relaxedAutoImplicit false

/-!
The fewest decimal digits that read back as a given binary number.
-/

namespace ShellSuite.Decimal

/-- A decimal number `digits * 10 ^ exponent`. -/
structure Scientific where
  digits : Nat
  exponent : Int
  deriving DecidableEq, Repr

/-- The numbers that are rounded to one binary number: `low / den` to `high / den`, with or without
the ends; the number itself is `value / den`. -/
structure Range where
  low : Nat
  value : Nat
  high : Nat
  den : Nat
  closed : Bool

/-- The range around a number other than zero. Below a power of two the neighbour is nearer. -/
def Range.of (b : Binary) : Range :=
  let b := b.normalise
  let (unit, den) := Binary.toQuotient ⟨1, b.exponent - 2⟩
  let below := if b.mantissa = Nat.pow 2 (Binary.precision - 1) then 1 else 2
  ⟨(4 * b.mantissa - below) * unit, 4 * b.mantissa * unit, (4 * b.mantissa + 2) * unit, den,
    b.mantissa % 2 = 0⟩

def Range.contains (r : Range) (n d : Nat) : Bool :=
  if r.closed then r.low * d ≤ n * r.den && n * r.den ≤ r.high * d
  else r.low * d < n * r.den && n * r.den < r.high * d

/-- The multiple of `10 ^ k` in the range that is nearest to its number, if there is one. -/
def Range.onGrid? (r : Range) (k : Int) : Option Scientific :=
  let up := Nat.pow 10 k.toNat
  let down := Nat.pow 10 (-k).toNat
  let scaled := r.value * down
  let unit := r.den * up
  let below := scaled / unit
  let nearest := roundDiv scaled unit
  let other := if nearest = below then below + 1 else below
  if r.contains (nearest * up) down then some ⟨nearest, k⟩
  else if r.contains (other * up) down then some ⟨other, k⟩
  else none

/-- The first grid with a number in the range, from `10 ^ k` downwards. -/
def Range.search (r : Range) (k : Int) : Nat → Scientific
  | 0 => ⟨0, 0⟩
  | fuel + 1 =>
    match r.onGrid? k with
    | some s => s
    | none => r.search (k - 1) fuel

/-- How many grids are tried below the size of a number: seventeen digits always suffice. -/
def searchDepth (r : Range) : Nat :=
  20 + (toString r.value).length + (toString r.den).length

def shortest (b : Binary) : Scientific :=
  if b.mantissa = 0 then ⟨0, 0⟩
  else
    let r := Range.of b
    r.search (toString (r.value / r.den)).length (searchDepth r)

/-- The text of a number: positional from `0.00001` up to sixteen digits in front of the point, with
an exponent otherwise. -/
def Binary.render (b : Binary) : String :=
  let s := shortest b
  let digits := (toString s.digits).toList
  let point : Int := digits.length + s.exponent
  let zeros (n : Int) : List Char := List.replicate n.toNat '0'
  String.ofList <|
    if 0 ≤ s.exponent && point ≤ 16 then digits ++ zeros s.exponent ++ ['.', '0']
    else if 0 < point && point ≤ 16 then
      digits.take point.toNat ++ '.' :: digits.drop point.toNat
    else if -5 < point && point ≤ 0 then ['0', '.'] ++ zeros (-point) ++ digits
    else
      let exponent := (toString (point - 1)).toList
      match digits with
      | [d] => d :: 'e' :: exponent
      | d :: ds => d :: '.' :: ds ++ 'e' :: exponent
      | [] => []

/-- The seconds of a span of nanoseconds: whole seconds and the fraction are rounded before they
are added. -/
def secondsOf (nanos : Nat) : Binary :=
  (Binary.ofNat (nanos / 1000000000)).add (Binary.ofQuotient (nanos % 1000000000) 1000000000)

end ShellSuite.Decimal
