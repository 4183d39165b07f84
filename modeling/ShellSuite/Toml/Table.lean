import ShellSuite.Toml.Statement

set_option autoImplicit false
set_option relaxedAutoImplicit false

/-!
Tables of TOML, built statement by statement. A table is defined once, by one header or by dotted
keys.
-/

namespace ShellSuite.Toml

/-- How a table came about: on the way to another one, by its header, or by a dotted key. -/
inductive Origin where
  | implied
  | header
  | dotted
  deriving DecidableEq, Repr

inductive Value where
  | text (s : String)
  | integer (n : Int)
  | flag (b : Bool)
  | array (items : List Value)
  | inline (members : List (String × Value))
  | table (origin : Origin) (members : List (String × Value))
  | tables (items : List (List (String × Value)))
  deriving Inhabited

abbrev Members := List (String × Value)

def lookup (key : String) (ms : Members) : Option Value :=
  (ms.find? fun m => m.1 = key).map (·.2)

def store (key : String) (v : Value) (ms : Members) : Members :=
  if ms.any fun m => m.1 = key then ms.map fun m => if m.1 = key then (key, v) else m
  else ms ++ [(key, v)]

/-- Changes the table at a path of keys; tables on the way are made where there are none. In a table
that a header defined, dotted keys may not reach further. -/
def within (dotted : Bool) (change : Origin → Members → Option (Origin × Members)) :
    Origin → List String → Members → Option (Origin × Members)
  | origin, [], ms => change origin ms
  | origin, key :: path, ms =>
    let fresh : Origin := if dotted then .dotted else .implied
    match lookup key ms with
    | none => do
      let (o, inner) ← within dotted change fresh path []
      return (origin, store key (.table o inner) ms)
    | some (.table o inner) =>
      if dotted && o = .header then none
      else do
        let (o, inner) ← within dotted change o path inner
        return (origin, store key (.table o inner) ms)
    | some (.tables items) =>
      match items.reverse with
      | last :: front => do
        let (_, inner) ← within dotted change .header path last
        return (origin, store key (.tables (front.reverse ++ [inner])) ms)
      | [] => none
    | some _ => none

def splitPath (path : List String) : List String × String :=
  (path.dropLast, path.getLast?.getD "")

/-- Assigns a value to a key that has none; a table reached without dots is not one of dotted
keys. -/
def assign (ms : Members) (path : List String) (v : Value) : Option Members :=
  let (way, key) := splitPath path
  let change (origin : Origin) (ms : Members) : Option (Origin × Members) :=
    if decide (origin = .dotted) == way.isEmpty then none
    else if (lookup key ms).isSome then none
    else some (origin, ms ++ [(key, v)])
  (within true change .header way ms).map (·.2)

/-- Assigns the members of an inline table, given how values are read. -/
def assignAll (read : Literal → Option Value) :
    Members → List (List String × Literal) → Option Members
  | ms, [] => some ms
  | ms, (path, l) :: rest => do
    let ms ← assign ms path (← read l)
    assignAll read ms rest

def Value.ofLiteral : Nat → Literal → Option Value
  | 0, _ => none
  | n + 1, l =>
    match l with
    | .text s => some (.text s)
    | .integer i => some (.integer i)
    | .flag b => some (.flag b)
    | .array items => do return .array (← items.mapM (Value.ofLiteral n))
    | .inline members => do return .inline (← assignAll (Value.ofLiteral n) [] members)

def openTable (ms : Members) (path : List String) : Option Members :=
  let (way, key) := splitPath path
  let change (origin : Origin) (ms : Members) : Option (Origin × Members) :=
    match lookup key ms with
    | none => some (origin, store key (.table .header []) ms)
    | some (.table .implied inner) => some (origin, store key (.table .header inner) ms)
    | some _ => none
  (within false change .header way ms).map (·.2)

def openElement (ms : Members) (path : List String) : Option Members :=
  let (way, key) := splitPath path
  let change (origin : Origin) (ms : Members) : Option (Origin × Members) :=
    match lookup key ms with
    | none => some (origin, store key (.tables [[]]) ms)
    | some (.tables items) => some (origin, store key (.tables (items ++ [[]])) ms)
    | some _ => none
  (within false change .header way ms).map (·.2)

def assignIn (ms : Members) (table path : List String) (v : Value) : Option Members :=
  (within false (fun origin inner => (assign inner path v).map fun inner => (origin, inner)) .header
    table ms).map (·.2)

/-- Runs statements: `table` is the path of the last header. -/
def run (depth : Nat) (ms : Members) (table : List String) : List Statement → Option Members
  | [] => some ms
  | .header isArray path :: rest => do
    let ms ← if isArray then openElement ms path else openTable ms path
    run depth ms path rest
  | .assign path l :: rest => do
    let v ← Value.ofLiteral depth l
    run depth (← assignIn ms table path v) table rest

def parse (text : String) : Option Members := do
  run (text.length + 1) [] [] (← statements text)

end ShellSuite.Toml
