import ShellSuite.Shell.Scene

set_option autoImplicit false
set_option relaxedAutoImplicit false

/-!
Commands on files and directories.
-/

namespace ShellSuite.Builtin

/-- The options in front of the operands, which end at `--`; a letter that is not allowed is
refused. -/
def options (allowed : String) : List String → Except Char (List Char × List String)
  | [] => .ok ([], [])
  | arg :: args =>
    if arg = "--" then .ok ([], args)
    else
      match arg.toList with
      | '-' :: c :: cs =>
        match (c :: cs).find? fun c => !allowed.toList.contains c with
        | some bad => .error bad
        | none => do
          let (more, rest) ← options allowed args
          return (c :: cs ++ more, rest)
      | _ => .ok ([], arg :: args)

def unsupported (letter : Char) : String :=
  "unsupported option -" ++ letter.toString

def cd : Builtin := fun args s =>
  match args with
  | [dir] =>
    let path := s.session.resolve dir
    if s.files.isDirectory path then (0, { s with session := { s.session with cwd := path } })
    else s.fail "cd" (dir ++ ": not a directory")
  | _ => s.fail "cd" "expected exactly one directory"

/-- Makes directories; `-p` makes those around them too. -/
def mkdir : Builtin := fun args s =>
  match options "p" args with
  | .error letter => s.fail "mkdir" (unsupported letter)
  | .ok (letters, paths) =>
    if paths.isEmpty then s.fail "mkdir" "missing operand"
    else
      s.forEach "mkdir"
        (fun s path =>
          let target := s.session.resolve path
          s.withFiles path
            (if letters.isEmpty then s.files.attempt (·.createDir target)
            else s.files.createDirs target))
        paths

def removeOne (recursive force : Bool) (s : Scene) (path : String) : Scene × Option String :=
  let target := s.session.resolve path
  match s.files.node false target with
  | .error e => (s, if force then none else some (path ++ ": " ++ e.message))
  | .ok n =>
    if !n.isDirectory then s.withFiles path (s.files.attempt (·.removeFile target))
    else if recursive then s.withFiles path (s.files.removeAll target)
    else (s, some (path ++ ": is a directory"))

/-- Removes files; `-r` removes directories too, and `-f` passes over what is not there. -/
def rm : Builtin := fun args s =>
  match options "rRf" args with
  | .error letter => s.fail "rm" (unsupported letter)
  | .ok (letters, paths) =>
    let force := letters.contains 'f'
    if paths.isEmpty && !force then s.fail "rm" "missing operand"
    else s.forEach "rm" (removeOne (letters.any (· != 'f')) force) paths

/-- Where a file goes: into a directory under its own name, or to the target itself. -/
def destination (fs : FileSystem) (source target : Path) : Path :=
  match source.fileName with
  | some name => if fs.isDirectory target then target.child name else target
  | none => target

/-- Moves or copies some sources to a target; several need a directory. -/
def toTarget (name : String) (operands : List String)
    (step : Path → Scene → String → Scene × Option String) (s : Scene) : Int × Scene :=
  match operands.getLast?, operands.dropLast with
  | some target, source :: sources =>
    let path := s.session.resolve target
    if !sources.isEmpty && !s.files.isDirectory path then
      s.fail name (target ++ ": not a directory")
    else s.forEach name (step path) (source :: sources)
  | _, _ => s.fail name "expected a source and a destination"

def mv : Builtin := fun args s =>
  toTarget "mv" args
    (fun target s source =>
      let path := s.session.resolve source
      s.withFiles source (s.files.attempt (·.rename path (destination s.files path target))))
    s

mutual

def copyNode (fs : FileSystem) (source target : Path) : Node → FileSystem × Option OsError
  | .directory es =>
    match fs.createDirs target with
    | (fs, some e) => (fs, some e)
    | (fs, none) => copyEntries fs source target es
  | _ => fs.attempt (·.copy source target)

def copyEntries (fs : FileSystem) (source target : Path) :
    List (String × Node) → FileSystem × Option OsError
  | [] => (fs, none)
  | (name, n) :: es =>
    match copyNode fs (source.child name) (target.child name) n with
    | (fs, some e) => (fs, some e)
    | (fs, none) => copyEntries fs source target es

end

/-- Copies a directory with all below it; a link to one is not followed. -/
def copyTree (fs : FileSystem) (source target : Path) : FileSystem × Option OsError :=
  match fs.node false source with
  | .ok (.directory es) =>
    match fs.createDirs (target.child "") with
    | (fs, some e) => (fs, some e)
    | (fs, none) => copyEntries fs source target es
  | _ => fs.attempt (·.copy source (target.child ""))

/-- Copies files; `-r` copies directories too. -/
def cp : Builtin := fun args s =>
  match options "rR" args with
  | .error letter => s.fail "cp" (unsupported letter)
  | .ok (letters, operands) =>
    toTarget "cp" operands
      (fun target s source =>
        let path := s.session.resolve source
        let target := destination s.files path target
        if !s.files.isDirectory path then s.withFiles source (s.files.attempt (·.copy path target))
        else if letters.isEmpty then (s, some (source ++ ": is a directory (use -r)"))
        else s.withFiles source (copyTree s.files path target))
      s

/-- Writes files one after the other; `-` is the input. -/
def cat : Builtin := fun args s =>
  s.forEach "cat"
    (fun s file =>
      if file = "-" then
        let (bytes, s) := s.take
        (s.emit bytes, none)
      else
        match s.files.read (s.session.resolve file) with
        | .ok bytes => (s.emit bytes, none)
        | .error e => (s, some (file ++ ": " ++ e.message)))
    (if args.isEmpty then ["-"] else args)

def touch : Builtin := fun args s =>
  if args.isEmpty then s.fail "touch" "missing operand"
  else
    s.forEach "touch"
      (fun s path =>
        let target := s.session.resolve path
        if s.files.isDirectory target then (s, none)
        else s.withFiles path (s.files.attempt fun fs => (·.1) <$> fs.openWrite false target))
      args

end ShellSuite.Builtin
