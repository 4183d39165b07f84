import ShellSuite.Config.Override

set_option autoImplicit false
set_option relaxedAutoImplicit false

/-!
The fields of a settings file, and how they are read from a data format.
-/

namespace ShellSuite.Override

inductive Field where
  | name
  | suffixes
  | clearSuffixes
  | substitutions
  | clearSubstitutions
  | env
  | clearEnv
  | inheritEnv
  | excludes
  | clearExcludes
  | timeout
  | format
  | features
  | clearFeatures
  | commentMarker
  | pipefail
  | execRoot
  deriving DecidableEq, Repr

namespace Field

def all : List Field :=
  [.name, .suffixes, .clearSuffixes, .substitutions, .clearSubstitutions, .env, .clearEnv,
    .inheritEnv, .excludes, .clearExcludes, .timeout, .format, .features, .clearFeatures,
    .commentMarker, .pipefail, .execRoot]

def key : Field → String
  | .name => "name"
  | .suffixes => "suffixes"
  | .clearSuffixes => "clear_suffixes"
  | .substitutions => "substitutions"
  | .clearSubstitutions => "clear_substitutions"
  | .env => "env"
  | .clearEnv => "clear_env"
  | .inheritEnv => "inherit_env"
  | .excludes => "excludes"
  | .clearExcludes => "clear_excludes"
  | .timeout => "timeout"
  | .format => "format"
  | .features => "features"
  | .clearFeatures => "clear_features"
  | .commentMarker => "comment_marker"
  | .pipefail => "pipefail"
  | .execRoot => "exec_root"

def ofKey? (key : String) : Option Field :=
  all.find? (·.key == key)

end Field

/-- How the values of a data format are read: each reader refuses a value of another kind, and
`isUnset` tells which values leave an optional setting unset. -/
structure Decoder (ν : Type) where
  isUnset : ν → Bool
  text : ν → Option String
  flag : ν → Option Bool
  number : ν → Option Nat
  variant : ν → Option String
  texts : ν → Option (List String)
  table : ν → Option (List (String × String))

variable {ν : Type}

def maxNumber : Nat := Nat.pow 2 64 - 1

def Decoder.optional {α : Type} (d : Decoder ν) (read : ν → Option α) (v : ν) : Option (Option α) :=
  if d.isUnset v then some none else (read v).map some

def format? (name : String) : Option Format :=
  Format.all.find? (·.name == name)

def set (d : Decoder ν) (o : Override) (field : Field) (v : ν) : Option Override :=
  match field with
  | .name => (d.optional d.text v).map fun x => { o with name := x }
  | .suffixes => (d.texts v).map fun x => { o with suffixes := x }
  | .clearSuffixes => (d.flag v).map fun x => { o with clearSuffixes := x }
  | .substitutions => (d.table v).map fun x => { o with substitutions := .ofList x }
  | .clearSubstitutions => (d.flag v).map fun x => { o with clearSubstitutions := x }
  | .env => (d.table v).map fun x => { o with env := .ofList x }
  | .clearEnv => (d.flag v).map fun x => { o with clearEnv := x }
  | .inheritEnv => (d.optional d.flag v).map fun x => { o with inheritEnv := x }
  | .excludes => (d.texts v).map fun x => { o with excludes := x }
  | .clearExcludes => (d.flag v).map fun x => { o with clearExcludes := x }
  | .timeout =>
    (d.optional (fun v => (d.number v).filter (· ≤ maxNumber)) v).map fun x =>
      { o with timeout := x }
  | .format =>
    (d.optional (fun v => (d.variant v).bind format?) v).map fun x => { o with format := x }
  | .features => (d.texts v).map fun x => { o with features := x }
  | .clearFeatures => (d.flag v).map fun x => { o with clearFeatures := x }
  | .commentMarker => (d.optional d.text v).map fun x => { o with commentMarker := x }
  | .pipefail => (d.optional d.flag v).map fun x => { o with pipefail := x }
  | .execRoot =>
    (d.optional d.text v).map fun x => { o with execRoot := x.map ExecRoot.ofText }

/-- Reads fields one after the other; unknown fields and repeated ones are refused. -/
def setAll (d : Decoder ν) (o : Override) (seen : List Field) : List (String × ν) → Option Override
  | [] => some o
  | (key, v) :: rest => do
    let field ← Field.ofKey? key
    if seen.contains field then none
    else setAll d (← o.set d field v) (field :: seen) rest

def ofTable? (d : Decoder ν) (fields : List (String × ν)) : Option Override :=
  setAll d .empty [] fields

/-- The settings in a list of values in the order of the fields; the last ones may be missing. -/
def ofList? (d : Decoder ν) (values : List ν) : Option Override :=
  if Field.all.length < values.length then none
  else setAll d .empty [] ((Field.all.map Field.key).zip values)

end ShellSuite.Override
