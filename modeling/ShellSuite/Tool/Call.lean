import ShellSuite.Process.Machine

set_option autoImplicit false
set_option relaxedAutoImplicit false

/-!
Calls of tools. Most tools read their input to the end or not at all, and then write everything at
once.
-/

namespace ShellSuite.Tool

structure Call where
  world : World
  deadline : Option Duration
  name : String
  args : List String
  env : Dict String
  cwd : Path
  input : Stream

/-- What a tool leaves: the files, what it writes to its output or its errors, and its exit code. -/
structure Result where
  files : FileSystem
  writes : List (Bool × Bytes)
  code : Int

/-- What a tool does: whether it reads its input, and its result then. -/
structure Plan where
  reads : Bool
  result : Bytes → Result

namespace Call

/-- The reply of a tool that would finish at some time, unless it is killed before that. -/
def reply (c : Call) (finish : Option Duration) (taken : Option Nat) (result : Unit → Result) :
    Reply :=
  let killed (time : Duration) : Reply :=
    ⟨c.world.files, c.world.token, [], taken, .killed (max time c.world.clock)⟩
  let done (time : Duration) : Reply :=
    let r := result ()
    ⟨r.files, c.world.token, r.writes.map fun (toErrors, bytes) => ⟨time, toErrors, bytes⟩, taken,
      .exited r.code time⟩
  match c.world.killTime c.deadline, finish with
  | some limit, some time => if limit ≤ time then killed limit else done time
  | some limit, none => killed limit
  | none, some time => done time
  | none, none => ⟨c.world.files, c.world.token, [], taken, .endless []⟩

def perform (c : Call) (p : Plan) : Reply :=
  if p.reads then c.reply c.input.close none fun _ => p.result c.input.bytes
  else c.reply (some c.world.clock) (some 0) fun _ => p.result []

def prints (c : Call) (text : String) (code : Int) : Result :=
  ⟨c.world.files, [(false, Text.encode text)], code⟩

def complaint (c : Call) (message : String) : Bool × Bytes :=
  (true, Text.encode (c.name ++ ": " ++ message ++ "\n"))

def fails (c : Call) (message : String) (code : Int) : Result :=
  ⟨c.world.files, [c.complaint message], code⟩

def refuses (c : Call) (message : String) (code : Int) : Result :=
  c.fails (message ++ "\nTry '" ++ c.name ++ " --help' for more information.") code

def resolve (c : Call) (path : String) : Path :=
  c.cwd.child path

/-- What a file holds; `-` is the input. -/
def read (c : Call) (input : Bytes) (file : String) : Except OsError Bytes :=
  if file = "-" then .ok input
  else if file = "" then .error .noEntry
  else c.world.files.read (c.resolve file)

end Call

def Plan.of (r : Result) : Plan := ⟨false, fun _ => r⟩

def quoted (s : String) : String := "'" ++ s ++ "'"

def feed : UInt8 := 10

def lines (bytes : Bytes) : List Bytes :=
  go [] bytes []
where
  /-- Collects lines in reverse, the bytes of the open one too. -/
  go (line : Bytes) : Bytes → List Bytes → List Bytes
    | [], done => (if line.isEmpty then done else line.reverse :: done).reverse
    | b :: bs, done => if b = feed then go [] bs (line.reverse :: done) else go (b :: line) bs done

def unlines (ls : List Bytes) : Bytes :=
  ls.flatMap fun l => l ++ [feed]

def feeds (bytes : Bytes) : Nat :=
  bytes.countP (· = feed)

/-- The options in front, as single letters with a value for those that take one, and the operands.
Options may also stand behind operands, up to `--`. -/
def options (withValue : List Char) :
    Nat → List String → Except Char (List (Char × String) × List String)
  | 0, args => .ok ([], args)
  | _, [] => .ok ([], [])
  | n + 1, arg :: args =>
    if arg = "--" then .ok ([], args)
    else
      match arg.toList with
      | '-' :: c :: cs =>
        if withValue.contains c then
          match cs, args with
          | [], value :: args => do
            let (os, rest) ← options withValue n args
            return ((c, value) :: os, rest)
          | [], [] => .error c
          | cs, args => do
            let (os, rest) ← options withValue n args
            return ((c, String.ofList cs) :: os, rest)
        else do
          let more := if cs.isEmpty then args else String.ofList ('-' :: cs) :: args
          let (os, rest) ← options withValue n more
          return ((c, "") :: os, rest)
      | _ => do
        let (os, rest) ← options withValue n args
        return (os, arg :: rest)

def optionsOf (withValue : List Char) (args : List String) :
    Except Char (List (Char × String) × List String) :=
  options withValue (args.foldr (fun a n => a.length + n) 0 + args.length + 1) args

end ShellSuite.Tool
