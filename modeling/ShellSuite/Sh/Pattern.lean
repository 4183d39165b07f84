set_option autoImplicit false
set_option relaxedAutoImplicit false

/-!
Patterns of shell scripts: `*`, `?` and bracketed sets. Quoted characters stand for themselves.
-/

namespace ShellSuite.Sh

structure Glyph where
  char : Char
  quoted : Bool
  deriving DecidableEq, Repr

/-- An element of a pattern: a character, any character, any characters, or one of a set. -/
inductive Element where
  | char (c : Char)
  | one
  | many
  | set (negated : Bool) (ranges : List (Char × Char))
  deriving DecidableEq, Repr

namespace Element

def accepts : Element → Char → Bool
  | .char d, c => c = d
  | .one, _ => true
  | .many, _ => false
  | .set negated ranges, c => negated ^^ ranges.any fun (lo, hi) => lo ≤ c && c ≤ hi

def ranges (acc : List (Char × Char)) : List Glyph → Option (List (Char × Char) × List Glyph)
  | [] => none
  | ⟨']', false⟩ :: gs => if acc.isEmpty then ranges [(']', ']')] gs else some (acc.reverse, gs)
  | lo :: ⟨'-', false⟩ :: hi :: gs =>
    if hi = ⟨']', false⟩ then some ((('-', '-') :: (lo.char, lo.char) :: acc).reverse, gs)
    else ranges ((lo.char, hi.char) :: acc) gs
  | g :: gs => ranges ((g.char, g.char) :: acc) gs

def ofGlyphs : Nat → List Glyph → List Element
  | 0, _ => []
  | _, [] => []
  | n + 1, g :: gs =>
    if g = ⟨'*', false⟩ then .many :: ofGlyphs n gs
    else if g = ⟨'?', false⟩ then .one :: ofGlyphs n gs
    else if g = ⟨'[', false⟩ then
      let (negated, inner) :=
        match gs with
        | ⟨'!', false⟩ :: rest => (true, rest)
        | gs => (false, gs)
      match ranges [] inner with
      | some (rs, rest) => .set negated rs :: ofGlyphs n rest
      | none => .char '[' :: ofGlyphs n gs
    else .char g.char :: ofGlyphs n gs

end Element

abbrev Pattern := List Element

namespace Pattern

def ofGlyphs (gs : List Glyph) : Pattern :=
  Element.ofGlyphs (gs.length + 1) gs

def isProper (p : Pattern) : Bool :=
  p.any fun e =>
    match e with
    | .char _ => false
    | _ => true

def fits : Pattern → List Char → Bool
  | [], cs => cs.isEmpty
  | .many :: p, [] => fits p []
  | .many :: p, c :: cs => fits p (c :: cs) || fits (.many :: p) cs
  | _ :: _, [] => false
  | e :: p, c :: cs => e.accepts c && fits p cs
termination_by p cs => (cs.length, p.length)

/-- The text without a part at one end that the pattern fits, as short or as long as can be. -/
def trim (p : Pattern) (fromEnd longest : Bool) (cs : List Char) : List Char :=
  let cuts := List.range (cs.length + 1)
  let short := fun k => if fromEnd then cs.length - k else k
  let cuts := (if longest then cuts.reverse else cuts).map short
  let fit (k : Nat) : Bool := fits p (if fromEnd then cs.drop k else cs.take k)
  match cuts.find? fit with
  | some k => if fromEnd then cs.take k else cs.drop k
  | none => cs

end Pattern

end ShellSuite.Sh
