set_option autoImplicit false
set_option relaxedAutoImplicit false

/-!
Sets of characters as ranges of code points.
-/

namespace ShellSuite.Text

/-- A set of characters: ranges of code points in ascending order, with gaps between them. -/
structure CharSet where
  ranges : List (Nat × Nat)
  deriving DecidableEq, Repr, Inhabited

namespace CharSet

def last : Nat := 0x10FFFF

def merge : List (Nat × Nat) → List (Nat × Nat)
  | [] => []
  | [r] => [r]
  | a :: b :: rs =>
    if b.1 ≤ a.2 + 1 then merge ((a.1, max a.2 b.2) :: rs) else a :: merge (b :: rs)
termination_by rs => rs.length

def ofRanges (rs : List (Nat × Nat)) : CharSet :=
  ⟨merge (rs.mergeSort fun a b => a.1 ≤ b.1)⟩

def empty : CharSet := ⟨[]⟩

def range (lo hi : Char) : CharSet := ⟨[(lo.toNat, hi.toNat)]⟩

def single (c : Char) : CharSet := range c c

/-- Whether ranges in ascending order hold a code point. -/
def holds (n : Nat) : List (Nat × Nat) → Bool
  | [] => false
  | (lo, hi) :: rs => if n < lo then false else if n ≤ hi then true else holds n rs

def hasCode (s : CharSet) (n : Nat) : Bool :=
  holds n s.ranges

def mem (s : CharSet) (c : Char) : Bool :=
  s.hasCode c.toNat

def union (a b : CharSet) : CharSet :=
  ofRanges (a.ranges ++ b.ranges)

/-- The gaps between ranges in ascending order, from `start` on. -/
def gaps (start : Nat) : List (Nat × Nat) → List (Nat × Nat)
  | [] => if start ≤ last then [(start, last)] else []
  | (lo, hi) :: rs => if start < lo then (start, lo - 1) :: gaps (hi + 1) rs else gaps (hi + 1) rs

def complement (s : CharSet) : CharSet :=
  ⟨gaps 0 s.ranges⟩

def inter (a b : CharSet) : CharSet :=
  (a.complement.union b.complement).complement

def diff (a b : CharSet) : CharSet :=
  a.inter b.complement

def symmDiff (a b : CharSet) : CharSet :=
  (a.diff b).union (b.diff a)

def isAscii (s : CharSet) : Bool :=
  s.ranges.all fun r => r.2 < 128

def hexValue? (c : Char) : Option Nat :=
  if c.isDigit then some (c.toNat - '0'.toNat)
  else if 'a' ≤ c && c ≤ 'f' then some (c.toNat - 'a'.toNat + 10)
  else if 'A' ≤ c && c ≤ 'F' then some (c.toNat - 'A'.toNat + 10)
  else none

def hexNumber (cs : List Char) : Nat :=
  cs.foldl (fun n c => 16 * n + (hexValue? c).getD 0) 0

def readRange (word : List Char) : Nat × Nat :=
  let lo := hexNumber (word.takeWhile (· ≠ '-'))
  match word.dropWhile (· ≠ '-') with
  | [] => (lo, lo)
  | _ :: hi => (lo, hexNumber hi)

def tableWords (text : String) : List (List Char) :=
  (text.toList.splitBy fun a b => !a.isWhitespace && !b.isWhitespace).filter
    fun w => w.any fun c => !c.isWhitespace

def ofTable (text : String) : CharSet :=
  ofRanges ((tableWords text).map readRange)

end CharSet

end ShellSuite.Text
