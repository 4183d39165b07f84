import ShellSuite.Decimal.Shortest
import ShellSuite.Text.Pieces

set_option autoImplicit false
set_option relaxedAutoImplicit false

/-!
JSON values, with members in the order in which they are written.
-/

namespace ShellSuite

inductive Json where
  | null
  | bool (b : Bool)
  | int (n : Int)
  | real (b : Decimal.Binary)
  | str (s : String)
  | arr (items : List Json)
  | obj (members : List (String × Json))
  deriving Inhabited

namespace Json

def escapeChar (c : Char) : List Char :=
  if c == '"' then ['\\', '"']
  else if c == '\\' then ['\\', '\\']
  else if c == '\n' then ['\\', 'n']
  else if c == '\r' then ['\\', 'r']
  else if c == '\t' then ['\\', 't']
  else if c.toNat == 8 then ['\\', 'b']
  else if c.toNat == 12 then ['\\', 'f']
  else if c.toNat < 32 then
    ['\\', 'u', '0', '0', Nat.digitChar (c.toNat / 16), Nat.digitChar (c.toNat % 16)]
  else [c]

def quote (s : String) : String :=
  String.ofList ('"' :: s.toList.flatMap escapeChar ++ ['"'])

def newLine (depth : Nat) : String :=
  "\n" ++ String.ofList (List.replicate (2 * depth) ' ')

mutual

def renderAt (depth : Nat) : Json → String
  | .null => "null"
  | .bool b => if b then "true" else "false"
  | .int n => toString n
  | .real b => b.render
  | .str s => quote s
  | .arr [] => "[]"
  | .arr (x :: xs) =>
    "[" ++ newLine (depth + 1) ++ renderAt (depth + 1) x ++ renderItems (depth + 1) xs ++
      newLine depth ++ "]"
  | .obj [] => "\x7b\x7d"
  | .obj ((k, x) :: xs) =>
    "\x7b" ++ newLine (depth + 1) ++ quote k ++ ": " ++ renderAt (depth + 1) x ++
      renderMembers (depth + 1) xs ++ newLine depth ++ "\x7d"

def renderItems (depth : Nat) : List Json → String
  | [] => ""
  | x :: xs => "," ++ newLine depth ++ renderAt depth x ++ renderItems depth xs

def renderMembers (depth : Nat) : List (String × Json) → String
  | [] => ""
  | (k, x) :: xs =>
    "," ++ newLine depth ++ quote k ++ ": " ++ renderAt depth x ++ renderMembers depth xs

end

def render (j : Json) : String :=
  renderAt 0 j

end Json

end ShellSuite
