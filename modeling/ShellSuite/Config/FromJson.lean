import ShellSuite.Config.Field
import ShellSuite.Json

set_option autoImplicit false
set_option relaxedAutoImplicit false

/-!
Settings in JSON.
-/

namespace ShellSuite.Json

def text? : Json → Option String
  | .str s => some s
  | _ => none

def decoder : Override.Decoder Json where
  isUnset
    | .null => true
    | _ => false
  text := text?
  flag
    | .bool b => some b
    | _ => none
  number
    | .int n => n.toNat?
    | _ => none
  variant
    | .str s => some s
    | .obj [(key, .null)] => some key
    | _ => none
  texts
    | .arr items => items.mapM text?
    | _ => none
  table
    | .obj members => members.mapM fun (key, v) => (text? v).map fun s => (key, s)
    | _ => none

def override? : Json → Option Override
  | .obj members => Override.ofTable? decoder members
  | .arr items => Override.ofList? decoder items
  | _ => none

end ShellSuite.Json
