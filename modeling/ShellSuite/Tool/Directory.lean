import ShellSuite.Files.Change
import ShellSuite.Tool.Call
import ShellSuite.Tool.Test

set_option autoImplicit false
set_option relaxedAutoImplicit false

/-!
Tools on directories and files.
-/

namespace ShellSuite.Tool

def physical (fs : FileSystem) (p : Path) : String :=
  match fs.resolve true p with
  | .ok place => "/" ++ Text.join "/" place.names
  | .error _ => p.text

def pwd (c : Call) : Plan :=
  .of (c.prints (physical c.world.files c.cwd ++ "\n") 0)

def ls (c : Call) : Plan :=
  match optionsOf [] c.args with
  | .error _ => .of (c.refuses "invalid option" 2)
  | .ok (os, operands) =>
    let has (l : Char) : Bool := os.any (·.1 = l)
    let operands := if operands.isEmpty then ["."] else operands
    let found := operands.map fun o => (o, c.world.files.node (!has 'd') (c.resolve o))
    let errors := found.filterMap fun (o, r) =>
      match r with
      | .ok _ => none
      | .error e =>
        some (c.complaint ("cannot access " ++ quoted o ++ ": " ++ e.reason))
    let there := found.filterMap fun (o, r) => r.toOption.map fun n => (o, n)
    let there := there.mergeSort fun a b => a.1 ≤ b.1
    let isListed (e : String × Node) : Bool := e.2.isDirectory && !has 'd'
    let visible (es : List (String × Node)) : List String :=
      let names := es.map (·.1)
      if has 'a' then "." :: ".." :: names
      else if has 'A' then names
      else names.filter fun n => n.toList.head? ≠ some '.'
    let order (names : List String) : List String := if has 'r' then names.reverse else names
    let column (names : List String) : String := String.join ((order names).map (· ++ "\n"))
    let plain := column ((there.filter fun e => !isListed e).map (·.1))
    let dirs := there.filter isListed
    let headed := 1 < operands.length
    let blocks := dirs.map fun (name, n) =>
      (if headed then name ++ ":\n" else "") ++ column (visible n.entries)
    let parts := (if plain.isEmpty then [] else [plain]) ++ blocks
    .of ⟨c.world.files, errors ++ [(false, Text.encode (Text.join "\n" parts))],
      if errors.isEmpty then 0 else 2⟩

def changeEach (c : Call) (operands : List String) (fault : String → String)
    (step : FileSystem → Path → FileSystem × Option OsError) : Result :=
  let (fs, errors, code) := operands.foldl
    (fun (fs, errors, code) o =>
      match step fs (c.resolve o) with
      | (fs, none) => (fs, errors, code)
      | (fs, some e) =>
        (fs, errors ++ [c.complaint (fault o ++ ": " ++ e.reason)], 1))
    (c.world.files, [], (0 : Int))
  ⟨fs, errors, code⟩

def mkdir (c : Call) : Plan :=
  match optionsOf ['m'] c.args with
  | .error _ => .of (c.refuses "invalid option" 1)
  | .ok (_, []) => .of (c.refuses "missing operand" 1)
  | .ok (os, operands) =>
    .of (changeEach c operands (fun o => "cannot create directory " ++ quoted o) fun fs p =>
      if os.any (·.1 = 'p') then fs.createDirs p else fs.attempt (·.createDir p))

def rmdir (c : Call) : Plan :=
  if c.args.isEmpty then .of (c.refuses "missing operand" 1)
  else
    .of (changeEach c c.args (fun o => "failed to remove " ++ quoted o) fun fs p =>
      fs.attempt (·.removeDir p))

def rm (c : Call) : Plan :=
  match optionsOf [] c.args with
  | .error _ => .of (c.refuses "invalid option" 1)
  | .ok (os, operands) =>
    let has (l : Char) : Bool := os.any (·.1 = l)
    if operands.isEmpty && !has 'f' then .of (c.refuses "missing operand" 1)
    else
      .of (changeEach c operands (fun o => "cannot remove " ++ quoted o) fun fs p =>
        match fs.node false p with
        | .error e => (fs, if has 'f' && e = .noEntry then none else some e)
        | .ok n =>
          if !n.isDirectory then fs.attempt (·.removeFile p)
          else if has 'r' || has 'R' then fs.removeAll p
          else (fs, some .isDirectory))

def touch (c : Call) : Plan :=
  if c.args.isEmpty then .of (c.refuses "missing file operand" 1)
  else
    .of (changeEach c c.args (fun o => "cannot touch " ++ quoted o) fun fs p =>
      if fs.isDirectory p then (fs, none)
      else fs.attempt fun fs => (·.1) <$> fs.openWrite false p)

def transfer (c : Call) (verb : String) (move : Bool) : Plan :=
  match optionsOf [] c.args with
  | .error _ => .of (c.refuses "invalid option" 1)
  | .ok (_, []) => .of (c.refuses "missing file operand" 1)
  | .ok (_, [o]) => .of (c.refuses ("missing destination file operand after " ++ quoted o) 1)
  | .ok (_, operands) =>
    let target := c.resolve (operands.getLast?.getD "")
    .of (changeEach c operands.dropLast (fun o => "cannot " ++ verb ++ " " ++ quoted o) fun fs p =>
      let target :=
        match p.fileName with
        | some name => if fs.isDirectory target then target.child name else target
        | none => target
      fs.attempt fun fs => if move then fs.rename p target else fs.copy p target)

def tee (c : Call) : Plan :=
  let append := c.args.contains "-a"
  let targets := c.args.filter (· ≠ "-a")
  ⟨true, fun input =>
    let step (acc : FileSystem × List (Bool × Bytes) × Int) (file : String) :
        FileSystem × List (Bool × Bytes) × Int :=
      let (fs, errors, code) := acc
      let path := c.resolve file
      let before := if append then (fs.read path).toOption.getD [] else []
      match fs.write path (before ++ input) with
      | .ok fs => (fs, errors, code)
      | .error e => (fs, errors ++ [c.complaint (file ++ ": " ++ e.reason)], 1)
    let (fs, errors, code) := targets.foldl step (c.world.files, [], 0)
    ⟨fs, errors ++ [(false, input)], code⟩⟩

def conditionMessage : Condition.Fault → String
  | .badInteger arg => "invalid integer " ++ quoted arg
  | .missingArgument after => "missing argument after " ++ quoted after
  | .unaryExpected arg => quoted arg ++ ": unary operator expected"
  | .binaryExpected arg => quoted arg ++ ": binary operator expected"
  | .unclosed => "')' expected"
  | .extra _ next => "extra argument " ++ quoted next

/-- Tests a condition; with a bracket as its name it ends in one. -/
def test (c : Call) (bracket : Bool) : Plan :=
  let check (args : List String) : Plan :=
    match Condition.Counted.holds ⟨c.world.files, c.resolve⟩ args with
    | .ok b => .of ⟨c.world.files, [], if b then 0 else 1⟩
    | .error f => .of (c.fails (conditionMessage f) 2)
  if !bracket then check c.args
  else if c.args.getLast? = some "]" then check c.args.dropLast
  else .of (c.fails "missing ']'" 2)

end ShellSuite.Tool
