import ShellSuite.Config.Field
import ShellSuite.Yaml.Node

set_option autoImplicit false
set_option relaxedAutoImplicit false

/-!
Settings in YAML. What a plain scalar is depends on the setting: any scalar is a text, and only a
plain one can be a number or a flag.
-/

namespace ShellSuite.Yaml

def isNull (s : String) : Bool :=
  s = "null" || s = "Null" || s = "NULL" || s = "~"

def flag? (s : String) : Option Bool :=
  if s = "true" || s = "True" || s = "TRUE" then some true
  else if s = "false" || s = "False" || s = "FALSE" then some false
  else none

def digit? (base : Nat) (c : Char) : Option Nat :=
  (Text.CharSet.hexValue? c).filter (· < base)

def digits? (base : Nat) : List Char → Option Nat
  | [] => none
  | cs => cs.foldlM (fun n c => (digit? base c).map (base * n + ·)) 0

/-- The number a text stands for: a `+` may stand in front, then a base; decimal numbers do not
start with a zero. -/
def number? (s : String) : Option Nat :=
  let cs :=
    match s.toList with
    | '+' :: cs => cs
    | cs => cs
  match cs with
  | '0' :: 'x' :: ds => digits? 16 ds
  | '0' :: 'o' :: ds => digits? 8 ds
  | '0' :: 'b' :: ds => digits? 2 ds
  | ['0'] => some 0
  | '0' :: _ => none
  | cs => digits? 10 cs

def coreTag (name : String) : String :=
  "tag:yaml.org,2002:" ++ name

/-- Whether a scalar can be something other than a text: it is plain, or a literal block with the
tag of that kind. -/
def isOpen (kind : String) (style : Style) (tag : Option String) : Bool :=
  style = .plain || (style = .literal && tag = some (coreTag kind))

def Node.text? : Node → Option String
  | .scalar text _ _ => some text
  | _ => none

def Node.isMissing : Node → Bool
  | .scalar text style _ => text = "" && style = .plain
  | _ => false

def decoder : Override.Decoder Node where
  isUnset
    | .scalar text .plain none => text = "" || isNull text
    | .scalar text .plain (some tag) => tag = coreTag "null" && isNull text
    | _ => false
  text := Node.text?
  flag
    | .scalar text style tag => if isOpen "bool" style tag then flag? text else none
    | _ => none
  number
    | .scalar text style tag => if isOpen "int" style tag then number? text else none
    | _ => none
  variant
    | .scalar text style (some tag) =>
      match tag.toList with
      | '!' :: c :: cs =>
        if style = .plain && (text = "" || isNull text) then some (String.ofList (c :: cs))
        else none
      | _ => some text
    | .scalar text _ none => some text
    | _ => none
  texts
    | .sequence items => items.mapM Node.text?
    | n => if n.isMissing then some [] else none
  table
    | .mapping members => members.mapM fun (k, v) => do return (← k.text?, ← v.text?)
    | n => if n.isMissing then some [] else none

def override? (text : String) : Option Override := do
  match ← parse text with
  | .empty => return .empty
  | .single (.mapping members) =>
    Override.ofTable? decoder (← members.mapM fun (k, v) => do return (← k.text?, v))
  | .single n => if n.isMissing then return .empty else none

end ShellSuite.Yaml
