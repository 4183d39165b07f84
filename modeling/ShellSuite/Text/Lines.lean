set_option autoImplicit false
set_option relaxedAutoImplicit false

/-!
Text as a list of lines.
-/

namespace ShellSuite.Text

/-- The pieces between line feeds; a final line feed opens no further piece. -/
def splitLines {α : Type} [BEq α] (feed : α) (line : List α) : List α → List (List α)
  | [] => if line.isEmpty then [] else [line.reverse]
  | c :: cs =>
    if c == feed then line.reverse :: splitLines feed [] cs
    else splitLines feed (c :: line) cs

/-- The lines of a text with one mark per line that tells whether a line feed ends it. -/
def markedLines (line : List Char) : List Char → List (List Char × Bool)
  | [] => if line.isEmpty then [] else [(line.reverse, false)]
  | c :: cs =>
    if c == '\n' then (line.reverse, true) :: markedLines [] cs
    else markedLines (c :: line) cs

/-- A line ended by a line feed loses one carriage return before it. -/
def dropReturn : List Char × Bool → List Char
  | (line, true) => if line.getLast? == some '\r' then line.dropLast else line
  | (line, false) => line

/-- The lines of a text: ended by a line feed, or by a carriage return and a line feed. -/
def lines (s : String) : List String :=
  (markedLines [] s.toList).map fun l => String.ofList (dropReturn l)

end ShellSuite.Text
