set_option autoImplicit false
set_option relaxedAutoImplicit false

/-!
Cutting text at single characters and replacing them, and testing and dropping what it starts or
ends with.
-/

namespace ShellSuite.Text

/-- The pieces between the characters that satisfy `cut`; there is always one piece. -/
def splitAt (cut : Char → Bool) : List Char → List (List Char)
  | [] => [[]]
  | c :: cs =>
    if cut c then [] :: splitAt cut cs
    else
      match splitAt cut cs with
      | [] => [[c]]
      | piece :: pieces => (c :: piece) :: pieces

def split (s : String) (c : Char) : List String :=
  (splitAt (· == c) s.toList).map String.ofList

/-- What stands before and after the first character `c`. -/
def cutFirst (c : Char) : List Char → Option (List Char × List Char)
  | [] => none
  | d :: ds => if d == c then some ([], ds) else (cutFirst c ds).map fun (a, b) => (d :: a, b)

/-- What stands before and after the last character `c`. -/
def cutLast (c : Char) (cs : List Char) : Option (List Char × List Char) :=
  (cutFirst c cs.reverse).map fun (after, before) => (before.reverse, after.reverse)

def dropFront? : List Char → List Char → Option (List Char)
  | [], cs => some cs
  | _ :: _, [] => none
  | f :: fs, c :: cs => if f == c then dropFront? fs cs else none

/-- What stands before and after the first occurrence of `mark`. -/
def cutAt (mark : List Char) : List Char → Option (List Char × List Char)
  | [] => (dropFront? mark []).map fun rest => ([], rest)
  | c :: cs =>
    match dropFront? mark (c :: cs) with
    | some rest => some ([], rest)
    | none => (cutAt mark cs).map fun (a, b) => (c :: a, b)

def occursIn (part s : String) : Bool :=
  (cutAt part.toList s.toList).isSome

/-- The text with `other` in place of every character `c`. -/
def replace (s : String) (c : Char) (other : String) : String :=
  String.ofList (s.toList.flatMap fun d => if d == c then other.toList else [d])

/-- The texts with `between` written between any two of them. -/
def join (between : String) (parts : List String) : String :=
  between.intercalate parts

end ShellSuite.Text
