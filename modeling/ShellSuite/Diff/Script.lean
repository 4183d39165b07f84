set_option autoImplicit false
set_option relaxedAutoImplicit false

/-!
Edit scripts: how to get from one list of lines to another one. Lines that both share at their ends
are kept, and the rest is cut in two in the middle of a shortest script, found by searching from
both ends at once.
-/

namespace ShellSuite.Diff

inductive Step where
  | keep (count : Nat)
  | delete (count : Nat)
  | insert (count : Nat)
  deriving DecidableEq, Repr

def shared : List String → List String → Nat
  | a :: as, b :: bs => if a = b then shared as bs + 1 else 0
  | _, _ => 0

def sharedEnd (old new : List String) : Nat :=
  shared old.reverse new.reverse

/-- Where a path goes on from its neighbours: `above` is how far the one on the next diagonal came,
`below` the one on the diagonal before. -/
def startOf : Option Nat → Option Nat → Nat
  | some above, some below => if below < above then above else below + 1
  | some above, none => above
  | none, some below => below + 1
  | none, none => 0

/-- A point a search has reached on a diagonal: where its last run of shared lines starts and ends,
as numbers of old lines. -/
structure Reach where
  diagonal : Int
  start : Nat
  stop : Nat

def newLines (diagonal : Int) (x : Nat) : Int :=
  x - diagonal

/-- One more round of a search with `d` edits, from the points of the round before, for the
diagonals from `d` down to `-d` in steps of two. -/
def advance (old new : List String) (d : Nat) (before : List Reach) : List Reach :=
  let stops := before.map fun r => some r.stop
  let starts := List.zipWith startOf (none :: stops) (stops ++ [none])
  (starts.zip (List.range (d + 1))).map fun (x, i) =>
    let k : Int := d - 2 * i
    let y := newLines k x
    if y < 0 then ⟨k, x, x⟩ else ⟨k, x, x + shared (old.drop x) (new.drop y.toNat)⟩

def stopOn (round : List Reach) (diagonal : Int) : Option Nat :=
  (round.find? fun r => r.diagonal = diagonal).map (·.stop)

/-- Whether a point of one search meets the other search, seen from the other end. -/
def meets (n : Nat) (delta : Int) (other : List Reach) (r : Reach) : Bool :=
  match stopOn other (delta - r.diagonal) with
  | some stop => n ≤ r.stop + stop
  | none => false

/-- Searches from both ends for the middle of a shortest script, in rounds of more and more edits.
The searches can meet in a forward round if the difference of the lengths is odd, else in a backward
one. -/
def middle (old new : List String) (delta : Int) : Nat → Nat → List Reach → List Reach →
    Option (Nat × Nat)
  | 0, _, _, _ => none
  | rounds + 1, d, forth, back =>
    let forth' := advance old new d forth
    let back' := advance old.reverse new.reverse d back
    if delta % 2 = 1 then
      match forth'.find? (meets old.length delta back) with
      | some r => some (r.start, (newLines r.diagonal r.start).toNat)
      | none => middle old new delta rounds (d + 1) forth' back'
    else
      match back'.find? (meets old.length delta forth') with
      | some r => some (old.length - r.stop, (new.length - newLines r.diagonal r.stop).toNat)
      | none => middle old new delta rounds (d + 1) forth' back'

def middleOf (old new : List String) : Option (Nat × Nat) :=
  middle old new (old.length - new.length) ((old.length + new.length + 1) / 2 + 1) 0 [] []

def some? (step : Nat → Step) (count : Nat) : List Step :=
  if count = 0 then [] else [step count]

def script (old new : List String) : List Step :=
  let front := shared old new
  let old₁ := old.drop front
  let new₁ := new.drop front
  let back := sharedEnd old₁ new₁
  let old₂ := old₁.take (old₁.length - back)
  let new₂ := new₁.take (new₁.length - back)
  let replaced := some? .delete old₂.length ++ some? .insert new₂.length
  let changed :=
    if old₂.isEmpty || new₂.isEmpty then replaced
    else
      match middleOf old₂ new₂ with
      | none => replaced
      | some (x, y) =>
        if _h : x ≤ old₂.length ∧ y ≤ new₂.length ∧ 0 < x + y ∧
            x + y < old₂.length + new₂.length then
          script (old₂.take x) (new₂.take y) ++ script (old₂.drop x) (new₂.drop y)
        else replaced
  some? .keep front ++ changed ++ some? .keep back
termination_by old.length + new.length
decreasing_by
  all_goals
    simp only [old₂, new₂, old₁, new₁, List.length_take, List.length_drop] at _h ⊢
    omega

end ShellSuite.Diff
