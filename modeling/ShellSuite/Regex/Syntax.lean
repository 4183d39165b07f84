import ShellSuite.Text.CharSet

set_option autoImplicit false
set_option relaxedAutoImplicit false

/-!
Regular expressions.
-/

namespace ShellSuite

inductive Regex.Look where
  | startText
  | endText
  | startLine
  | endLine
  | startLineReturn
  | endLineReturn
  | wordBoundary (word : Text.CharSet)
  | notWordBoundary (word : Text.CharSet)
  | wordStart (word : Text.CharSet)
  | wordEnd (word : Text.CharSet)
  | wordStartHalf (word : Text.CharSet)
  | wordEndHalf (word : Text.CharSet)
  deriving DecidableEq, Repr

/-- A regular expression. Of two ways to match, the one that is written first is preferred; loops
prefer to go on when they are greedy. -/
inductive Regex where
  | empty
  | look (l : Regex.Look)
  | chars (s : Text.CharSet)
  | seq (a b : Regex)
  | alt (a b : Regex)
  | star (body : Regex) (greedy : Bool)
  | plus (body : Regex) (greedy : Bool)
  | times (body : Regex) (n : Nat)
  | upTo (body : Regex) (n : Nat) (greedy : Bool)
  deriving DecidableEq, Repr, Inhabited

namespace Regex

/-- Whether a condition holds between two neighbours, of which either may be missing. -/
def Look.holds (before after : Option Char) : Look → Bool
  | .startText => before.isNone
  | .endText => after.isNone
  | .startLine => before.all (· == '\n')
  | .endLine => after.all (· == '\n')
  | .startLineReturn => before.all fun c => c == '\n' || (c == '\r' && after != some '\n')
  | .endLineReturn => after.all fun c => c == '\r' || (c == '\n' && before != some '\r')
  | .wordBoundary w => before.any w.mem != after.any w.mem
  | .notWordBoundary w => before.any w.mem == after.any w.mem
  | .wordStart w => !before.any w.mem && after.any w.mem
  | .wordEnd w => before.any w.mem && !after.any w.mem
  | .wordStartHalf w => !before.any w.mem
  | .wordEndHalf w => !after.any w.mem

def nullable : Regex → Bool
  | .empty => true
  | .look _ => true
  | .chars _ => false
  | .seq a b => a.nullable && b.nullable
  | .alt a b => a.nullable || b.nullable
  | .star _ _ => true
  | .plus body _ => body.nullable
  | .times body n => n == 0 || body.nullable
  | .upTo _ _ _ => true

def concat : List Regex → Regex
  | [] => .empty
  | [r] => r
  | r :: rs => .seq r (concat rs)

def anyOf : List Regex → Regex
  | [] => .empty
  | [r] => r
  | r :: rs => .alt r (anyOf rs)

def optional (r : Regex) (greedy : Bool) : Regex :=
  .upTo r 1 greedy

/-- Any number of times from `least` on. A body that can match nothing is entered in front of its
loop, so that an empty first round counts as a match. -/
def atLeast (r : Regex) (least : Nat) (greedy : Bool) : Regex :=
  match least with
  | 0 => if r.nullable then optional (.plus r greedy) greedy else .star r greedy
  | 1 => .plus r greedy
  | n + 2 => .seq (.times r (n + 1)) (.plus r greedy)

def between (r : Regex) (least most : Nat) (greedy : Bool) : Regex :=
  .seq (.times r least) (.upTo r (most - least) greedy)

end Regex

end ShellSuite
