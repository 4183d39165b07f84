import ShellSuite.Config.Field
import ShellSuite.Toml.Table

set_option autoImplicit false
set_option relaxedAutoImplicit false

/-!
Settings in TOML.
-/

namespace ShellSuite.Toml

def Value.text? : Value → Option String
  | .text s => some s
  | _ => none

def Value.members? : Value → Option Members
  | .inline ms => some ms
  | .table _ ms => some ms
  | _ => none

def decoder : Override.Decoder Value where
  isUnset _ := false
  text := Value.text?
  flag
    | .flag b => some b
    | _ => none
  number
    | .integer n => n.toNat?
    | _ => none
  variant
    | .text s => some s
    | v =>
      match v.members? with
      | some [(key, inner)] => if inner.members?.any List.isEmpty then some key else none
      | _ => none
  texts
    | .array items => items.mapM Value.text?
    | .tables [] => some []
    | _ => none
  table v := do
    (← v.members?).mapM fun (key, v) => v.text?.map fun s => (key, s)

def override? (text : String) : Option Override := do
  Override.ofTable? decoder (← parse text)

end ShellSuite.Toml
