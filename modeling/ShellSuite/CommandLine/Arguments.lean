import ShellSuite.RunLine.Token
import ShellSuite.Text.Pieces

set_option autoImplicit false
set_option relaxedAutoImplicit false

/-!
Reading arguments: options with long and short names, and operands. An option without an attached
value waits for the next argument, so that faults are found in the order of the arguments.
-/

namespace ShellSuite.CommandLine

inductive Value where
  | text
  | path
  | number
  | choice (names : List String)
  deriving DecidableEq, Repr

/-- What arguments stand for: an option, which is a flag if it takes no value, or the operand of a
command. -/
inductive Slot where
  | option (name : String) (letter : Option Char) (value : Option Value)
  | operand (name : String) (required : Bool)
  deriving DecidableEq, Repr

/-- A command: its name, what it is good for, and what it takes. -/
structure Command where
  name : String
  about : String
  options : List Slot
  operand : Option Slot
  deriving DecidableEq, Repr

inductive UsageError where
  | unrecognizedCommand (name : String)
  | unexpectedArgument (arg : String)
  | unexpectedValue (value label : String)
  | invalidValue (value label : String) (reason : Option String)
  | missingValue (label : String)
  | repeated (label : String)
  | missingOperand (label : String)
  | needlessDashes (command : String)
  | missingCommand
  deriving DecidableEq, Repr

/-- Why reading arguments ends early. -/
inductive Halt where
  | usage (cause : UsageError)
  | help
  | version
  deriving DecidableEq, Repr

namespace Slot

def name : Slot → String
  | .option name _ _ => name
  | .operand name _ => name

def valueName (name : String) : String :=
  String.ofList (name.toList.map fun c => if c = '-' then '_' else c.toUpper)

def label : Slot → String
  | .option name _ none => "--" ++ name
  | .option name _ (some _) => "--" ++ name ++ " <" ++ valueName name ++ ">"
  | .operand name true => "<" ++ valueName name ++ ">"
  | .operand name false => "[" ++ valueName name ++ "]"

def value? : Slot → Option Value
  | .option _ _ value => value
  | .operand _ _ => some .path

end Slot

def maxNumber : Nat := Nat.pow 2 64 - 1

def readNumber (s : String) : Except String Nat :=
  let digits :=
    match s.toList with
    | '+' :: ds => if ds.isEmpty then ['+'] else ds
    | ds => ds
  if digits.isEmpty then .error "cannot parse integer from empty string"
  else if !digits.all Char.isDigit then .error "invalid digit found in string"
  else
    let n := RunLine.digitsValue digits
    if maxNumber < n then .error "number too large to fit in target type" else .ok n

/-- Whether a slot takes a value, and what is wrong with it if not. -/
def Slot.refuse? (slot : Slot) (value : String) : Option UsageError :=
  match slot.value? with
  | some (.choice names) =>
    if names.contains value then none
    else if value = "" then some (.missingValue slot.label)
    else some (.invalidValue value slot.label none)
  | some .number =>
    match readNumber value with
    | .ok _ => none
    | .error reason => some (.invalidValue value slot.label (some reason))
  | some .path => if value = "" then some (.missingValue slot.label) else none
  | _ => none

/-- What has been read: values by their slots' names, a slot that is not settled with its value if
it has one, how many operands there were, and whether only operands follow. -/
structure Reading where
  values : List (String × String)
  pending : Option (Slot × Option String)
  operands : Nat
  onlyOperands : Bool
  deriving DecidableEq, Repr

namespace Reading

def start : Reading := ⟨[], none, 0, false⟩

def enter (r : Reading) (slot : Slot) (value : String) : Except UsageError Reading :=
  if r.values.any (·.1 = slot.name) then .error (.repeated slot.label)
  else
    match slot.refuse? value with
    | some e => .error e
    | none => .ok { r with values := r.values ++ [(slot.name, value)] }

def settle (r : Reading) : Except UsageError Reading :=
  match r.pending with
  | none => .ok r
  | some (slot, none) => .error (.missingValue slot.label)
  | some (slot, some value) => enter { r with pending := none } slot value

def take (r : Reading) (slot : Slot) (value : String) : Except UsageError Reading :=
  match r.settle with
  | .error e => .error e
  | .ok r => r.enter slot value

def await (r : Reading) (slot : Slot) (value : Option String) : Except UsageError Reading :=
  match r.settle with
  | .error e => .error e
  | .ok r => .ok { r with pending := some (slot, value) }

def get? (r : Reading) (name : String) : Option String :=
  r.values.lookup name

def has (r : Reading) (name : String) : Bool :=
  r.values.any (·.1 = name)

end Reading

namespace Command

def long? (c : Command) (name : String) : Option Slot :=
  c.options.find? (·.name = name)

def short? (c : Command) (letter : Char) : Option Slot :=
  c.options.find? fun s =>
    match s with
    | .option _ l _ => l = some letter
    | _ => false

def lift (r : Except UsageError Reading) : Except Halt Reading :=
  match r with
  | .ok r => .ok r
  | .error e => .error (.usage e)

/-- Reads an argument with a long name, perhaps with a value behind an equals sign. -/
def readLong (c : Command) (r : Reading) (name : String) (value : Option String) :
    Except Halt Reading :=
  match c.long? name with
  | none =>
    if name = "help" then
      match value with
      | some v => .error (.usage (.unexpectedValue v "--help"))
      | none => .error .help
    else .error (.usage (.unexpectedArgument ("--" ++ name)))
  | some slot =>
    match slot.value?, value with
    | none, some v => .error (.usage (.unexpectedValue v slot.label))
    | none, none => lift (r.take slot "")
    | some _, some v => lift (r.take slot v)
    | some _, none => lift (r.await slot none)

/-- Reads letters of options; behind one that takes a value the rest is its value. -/
def readShort (c : Command) (r : Reading) : List Char → Except Halt Reading
  | [] => .ok r
  | l :: ls =>
    match c.short? l with
    | none =>
      if l = 'h' then .error .help
      else .error (.usage (.unexpectedArgument (String.ofList ['-', l])))
    | some slot =>
      match slot.value? with
      | none =>
        match r.take slot "" with
        | .error e => .error (.usage e)
        | .ok r => readShort c r ls
      | some _ =>
        match ls with
        | [] => lift (r.await slot none)
        | '=' :: value => lift (r.take slot (String.ofList value))
        | value => lift (r.take slot (String.ofList value))

def readOperand (c : Command) (r : Reading) (arg : String) : Except Halt Reading :=
  match c.operand with
  | some slot =>
    if r.operands = 0 then
      lift ((r.await slot (some arg)).map fun r => { r with operands := 1 })
    else .error (.usage (.unexpectedArgument arg))
  | none => .error (.usage (.unexpectedArgument arg))

def readArgument (c : Command) (r : Reading) (arg : String) : Except Halt Reading :=
  if r.onlyOperands then c.readOperand r arg
  else if arg = "--" then .ok { r with onlyOperands := true }
  else
    match arg.toList with
    | '-' :: '-' :: cs =>
      match Text.cutFirst '=' cs with
      | some (name, value) => c.readLong r (String.ofList name) (some (String.ofList value))
      | none => c.readLong r (String.ofList cs) none
    | '-' :: l :: ls => c.readShort r (l :: ls)
    | _ =>
      match r.pending with
      | some (slot, none) => .ok { r with pending := some (slot, some arg) }
      | _ => c.readOperand r arg

def readAll (c : Command) (r : Reading) : List String → Except Halt Reading
  | [] => .ok r
  | arg :: args =>
    match c.readArgument r arg with
    | .error h => .error h
    | .ok r => readAll c r args

def read (c : Command) (args : List String) : Except Halt Reading := do
  let r ← c.readAll .start args
  let r ← lift r.settle
  match c.operand with
  | some (.operand name true) =>
    if r.has name then return r
    else .error (.usage (.missingOperand (Slot.operand name true).label))
  | _ => return r

end Command

def UsageError.message : UsageError → String
  | .unrecognizedCommand name => "unrecognized subcommand '" ++ name ++ "'"
  | .unexpectedArgument arg => "unexpected argument '" ++ arg ++ "' found"
  | .unexpectedValue value label =>
    "unexpected value '" ++ value ++ "' for '" ++ label ++ "' found; no more were expected"
  | .invalidValue value label reason =>
    "invalid value '" ++ value ++ "' for '" ++ label ++ "'" ++
      match reason with
      | some r => ": " ++ r
      | none => ""
  | .missingValue label => "a value is required for '" ++ label ++ "' but none was supplied"
  | .repeated label => "the argument '" ++ label ++ "' cannot be used multiple times"
  | .missingOperand label => "the following required arguments were not provided:\n  " ++ label
  | .needlessDashes command =>
    "subcommand '" ++ command ++ "' exists; to use it, remove the '--' before it"
  | .missingCommand => "a subcommand is required"

end ShellSuite.CommandLine
