import ShellSuite.Sh.Run
import ShellSuite.Tool.Directory
import ShellSuite.Tool.Grep
import ShellSuite.Tool.Text
import ShellSuite.Tool.Tr

set_option autoImplicit false
set_option relaxedAutoImplicit false

/-!
The machine of tools: where programs are looked for, and what they do.
-/

namespace ShellSuite.Tool

def simple : List (String × (Call → Reply)) :=
  let planned (plan : Call → Plan) : Call → Reply := fun c => c.perform (plan c)
  let answers (code : Int) : Call → Reply := planned fun c => .of ⟨c.world.files, [], code⟩
  [("[", planned (test · true)), ("cat", cat), ("cp", planned (transfer · "copy" false)),
    ("echo", planned echo), ("false", answers 1), ("grep", planned Grep.plan), ("head", head),
    ("ls", planned ls), ("mkdir", planned mkdir), ("mv", planned (transfer · "move" true)),
    ("printf", planned printf), ("pwd", planned pwd), ("rm", planned rm), ("rmdir", planned rmdir),
    ("seq", planned seq), ("sleep", sleep), ("sort", planned sort), ("tail", planned tail),
    ("tee", planned tee), ("test", planned (test · false)), ("touch", planned touch),
    ("tr", planned Tr.plan), ("true", answers 0), ("uniq", planned uniq), ("wc", planned wc),
    ("yes", yes)]

def names : List String :=
  ["dash", "env", "sh"] ++ simple.map (·.1)

/-- The interpreter that the first line of a script names, with an argument if there is one. -/
def interpreter? (bytes : Bytes) : Option (String × Option String) :=
  match bytes with
  | 35 :: 33 :: rest =>
    let line := (Text.decodeLossy (rest.takeWhile (· ≠ feed))).toList
    let isGap (c : Char) : Bool := c = ' ' || c = '\t'
    let line := ((line.dropWhile isGap).reverse.dropWhile isGap).reverse
    let name := line.takeWhile fun c => !isGap c
    let arg := (line.drop name.length).dropWhile isGap
    if name.isEmpty then none
    else some (String.ofList name, if arg.isEmpty then none else some (String.ofList arg))
  | _ => none

/-- The tool behind a path, and the arguments it gets; scripts lead to their interpreters. -/
def load (fs : FileSystem) (cwd : Path) : Nat → String → List String →
    Except OsError (String × List String)
  | 0, _, _ => .error .linkLoop
  | n + 1, path, argv =>
    match fs.node true (cwd.child path) with
    | .error e => .error e
    | .ok (.tool name) => .ok (name, argv)
    | .ok (.file id true) =>
      match interpreter? (fs.bytesOf id) with
      | some (name, arg) => load fs cwd n name (name :: arg.toList ++ path :: argv.drop 1)
      | none => .error .execFormat
    | .ok _ => .error .permission

def maxInterpreters : Nat := 5

/-- Looks for a program in directories, one after the other. A script without an interpreter is
run by the shell. A program that may not be run is an error only if no other is found. -/
def search (fs : FileSystem) (cwd : Path) (argv : List String) (fault : OsError) :
    List String → Except OsError (String × List String)
  | [] => .error fault
  | dir :: dirs =>
    let name := argv.head?.getD ""
    let path := if dir = "" then name else dir ++ "/" ++ name
    match load fs cwd maxInterpreters path argv with
    | .ok found => .ok found
    | .error .execFormat =>
      load fs cwd maxInterpreters "/bin/sh" ("/bin/sh" :: path :: argv.drop 1)
    | .error .permission => search fs cwd argv .permission dirs
    | .error .noEntry => search fs cwd argv fault dirs
    | .error .notDirectory => search fs cwd argv fault dirs
    | .error e => .error e

def hasNul (s : String) : Bool :=
  s.toList.contains (Char.ofNat 0)

def start (fs : FileSystem) (inv : Invocation) : Except OsError (String × List String) :=
  let name := inv.argv.head?.getD ""
  if inv.argv.any hasNul || inv.env.entries.any fun e => hasNul e.1 || hasNul e.2 then
    .error .nulInData
  else if !fs.isDirectory inv.cwd then
    match fs.node true inv.cwd with
    | .ok _ => .error .notDirectory
    | .error e => .error e
  else if name = "" then .error .noEntry
  else if name.toList.contains '/' then load fs inv.cwd maxInterpreters name inv.argv
  else
    let dirs := (inv.env.get? "PATH").getD "/bin:/usr/bin"
    search fs inv.cwd inv.argv .noEntry (Text.split dirs ':')

def env (m : Machine) (c : Call) : Reply :=
  go c.env c.args
where
  /-- Takes settings from the arguments. -/
  go (env : Dict String) : List String → Reply
    | [] =>
      let lines := env.entries.map fun (name, value) => name ++ "=" ++ value ++ "\n"
      c.perform (.of (c.prints (String.join lines) 0))
    | "-i" :: args => go .empty args
    | "-" :: args => go .empty args
    | "-u" :: name :: args => go (env.erase name) args
    | arg :: args =>
      match Text.cutFirst '=' arg.toList with
      | some (name, value) => go (env.insert (String.ofList name) (String.ofList value)) args
      | none =>
        let inv : Invocation := ⟨arg :: args, env, c.cwd, c.input⟩
        match m.fault? c.world inv with
        | some e =>
          let code := if e = .noEntry then 127 else 126
          c.perform (.of (c.fails (quoted arg ++ ": " ++ e.reason) code))
        | none => m.run c.world c.deadline inv

/-- What a tool does; it may start programs on another machine. -/
def behave (m : Machine) (tool : String) (c : Call) : Reply :=
  if tool = "sh" || tool = "dash" then
    Sh.reply m c.world c.deadline ⟨c.name :: c.args, c.env, c.cwd, c.input⟩
  else if tool = "env" then env m c
  else
    match simple.lookup tool with
    | some act => act c
    | none => c.perform (.of ⟨c.world.files, [], 127⟩)

def onTopOf (m : Machine) : Machine where
  fault? w inv :=
    match start w.files inv with
    | .ok _ => none
    | .error e => some e
  run w deadline inv :=
    match start w.files inv with
    | .ok (tool, argv) =>
      behave m tool ⟨w, deadline, argv.head?.getD "", argv.drop 1, inv.env, inv.cwd, inv.input⟩
    | .error _ => ⟨w.files, w.token, [], some 0, .exited 127 w.clock⟩

def bare : Machine where
  fault? _ _ := some .noEntry
  run w _ _ := ⟨w.files, w.token, [], some 0, .exited 127 w.clock⟩

/-- The machine of tools, whose programs may start programs up to some depth. -/
def nested : Nat → Machine
  | 0 => bare
  | n + 1 => onTopOf (nested n)

def machine : Machine := nested 50

end ShellSuite.Tool
