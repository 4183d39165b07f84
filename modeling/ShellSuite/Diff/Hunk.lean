import ShellSuite.Diff.Compact

set_option autoImplicit false
set_option relaxedAutoImplicit false

/-!
Hunks: changes with three lines around them, and their text.
-/

namespace ShellSuite.Diff

def context : Nat := 3

def Edit.firstLines (e : Edit) (n : Nat) : Edit :=
  e.shorter (e.old.count - n)

def Edit.lastLines (e : Edit) (n : Nat) : Edit :=
  let cut := e.old.count - n
  (e.shorter cut).on cut

def trimFirst : List Edit → List Edit
  | e :: es => (if e.kind = .keep then e.lastLines context else e) :: es
  | [] => []

def trimLast (es : List Edit) : List Edit :=
  match es.getLast? with
  | some e => if e.kind = .keep then es.dropLast ++ [e.firstLines context] else es
  | none => es

/-- Cuts a list of edits where many lines are kept; `group` is the hunk so far in reverse. -/
def groups (group : List Edit) : List Edit → List (List Edit)
  | [] => if group.all (·.kind = .keep) && group.length ≤ 1 then [] else [group.reverse]
  | e :: es =>
    if e.kind = .keep && 2 * context < e.old.count then
      (e.firstLines context :: group).reverse :: groups [e.lastLines context] es
    else groups (e :: group) es

def hunks (es : List Edit) : List (List Edit) :=
  groups [] (trimLast (trimFirst es))

/-- The text of a range of lines: the number of its first line, and their count unless it is one. -/
def rangeText (start stop : Nat) : String :=
  match stop - start with
  | 0 => toString start ++ ",0"
  | 1 => toString (start + 1)
  | n => toString (start + 1) ++ "," ++ toString n

def marked (mark : String) (lines : List String) : String :=
  String.join (lines.map fun l => mark ++ l ++ "\n")

def editText (old new : List String) (e : Edit) : String :=
  if e.kind = .keep then marked " " (e.old.of old)
  else marked "-" (e.old.of old) ++ marked "+" (e.new.of new)

def hunkText (old new : List String) (es : List Edit) : String :=
  match es.head?, es.getLast? with
  | some first, some last =>
    "@@ -" ++ rangeText first.old.start last.old.stop ++ " +" ++
      rangeText first.new.start last.new.stop ++ " @@\n" ++
      String.join (es.map (editText old new))
  | _, _ => ""

end ShellSuite.Diff
