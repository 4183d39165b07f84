import ShellSuite.Shell.Scene

set_option autoImplicit false
set_option relaxedAutoImplicit false

/-!
Printing words.
-/

namespace ShellSuite.Builtin

/-- The letters of an argument that only has the options `n` and `e`. -/
def echoLetters? (arg : String) : Option (List Char) :=
  match arg.toList with
  | '-' :: c :: cs => if (c :: cs).all (fun c => c == 'n' || c == 'e') then some (c :: cs) else none
  | _ => none

def echoOptions : List String → List Char × List String
  | [] => ([], [])
  | arg :: args =>
    match echoLetters? arg with
    | some letters =>
      let (more, rest) := echoOptions args
      (letters ++ more, rest)
    | none => ([], arg :: args)

def escapes : List (Char × Nat) :=
  [('n', 10), ('t', 9), ('r', 13), ('a', 7), ('b', 8), ('f', 12), ('v', 11), ('e', 27), ('\\', 92)]

/-- Up to `count` octal digits: their value, and what follows. -/
def octal : Nat → Nat → List Char → Nat × List Char
  | 0, value, cs => (value, cs)
  | n + 1, value, c :: cs =>
    if '0' ≤ c && c ≤ '7' then octal n (8 * value + (c.toNat - 48)) cs else (value, c :: cs)
  | _, value, [] => (value, [])

/-- Replaces escapes, and tells whether `\c` ended the text. -/
def expand (acc : List Char) : Nat → List Char → List Char × Bool
  | 0, cs => (acc.reverse ++ cs, false)
  | _, [] => (acc.reverse, false)
  | n + 1, '\\' :: c :: cs =>
    if c == 'c' then (acc.reverse, true)
    else if c == '0' then
      let (value, cs) := octal 3 0 cs
      expand (Char.ofNat value :: acc) n cs
    else
      match escapes.find? (·.1 == c) with
      | some (_, code) => expand (Char.ofNat code :: acc) n cs
      | none => expand (c :: '\\' :: acc) n cs
  | n + 1, c :: cs => expand (c :: acc) n cs

/-- Prints its arguments with single spaces between them: `-n` leaves the line open, and `-e`
replaces escapes. -/
def echo : Builtin := fun args s =>
  let (letters, words) := echoOptions args
  let text := (Text.join " " words).toList
  let (text, stopped) := if letters.contains 'e' then expand [] text.length text else (text, false)
  let ending := if letters.contains 'n' || stopped then [] else ['\n']
  (0, s.print (String.ofList (text ++ ending)))

end ShellSuite.Builtin
