set_option autoImplicit false
set_option relaxedAutoImplicit false

/-!
Blank characters (the Unicode property `White_Space`), and cutting text at them.
-/

namespace ShellSuite.Text

/-- A character is blank when it has the Unicode property `White_Space`. -/
def isBlank (c : Char) : Bool :=
  let n := c.toNat
  (9 ≤ n && n ≤ 13) || n == 0x20 || n == 0x85 || n == 0xA0 || n == 0x1680 ||
    (0x2000 ≤ n && n ≤ 0x200A) || n == 0x2028 || n == 0x2029 || n == 0x202F ||
    n == 0x205F || n == 0x3000

def dropBlanks (cs : List Char) : List Char :=
  cs.dropWhile isBlank

def dropTrailingBlanks (cs : List Char) : List Char :=
  (cs.reverse.dropWhile isBlank).reverse

def trimBlanks (cs : List Char) : List Char :=
  dropTrailingBlanks (dropBlanks cs)

def trim (s : String) : String :=
  String.ofList (trimBlanks s.toList)

/-- The maximal runs of characters that are not blank, in order; `word` is the run read so far. -/
def wordsFrom (word : List Char) : List Char → List (List Char)
  | [] => if word.isEmpty then [] else [word]
  | c :: cs =>
    if isBlank c then
      if word.isEmpty then wordsFrom [] cs else word :: wordsFrom [] cs
    else wordsFrom (word ++ [c]) cs

/-- The maximal runs of characters that are not blank, in order. -/
def words (cs : List Char) : List (List Char) :=
  wordsFrom [] cs

end ShellSuite.Text
