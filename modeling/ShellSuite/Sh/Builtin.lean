import ShellSuite.Sh.Field
import ShellSuite.Sh.Signal
import ShellSuite.Tool.Directory
import ShellSuite.Tool.Escape
import ShellSuite.Tool.Text

set_option autoImplicit false
set_option relaxedAutoImplicit false

/-!
The commands that scripts carry out themselves.
-/

namespace ShellSuite.Sh.Builtin

/-- Prints arguments with escapes replaced; `-n` in front leaves the line open. -/
def echo (args : List String) : M Unit := do
  let (isOpen, words) :=
    match args with
    | "-n" :: rest => (true, rest)
    | args => (false, args)
  let (bytes, stopped) := Tool.unescape .octal (Text.join " " words)
  printBytes (bytes ++ if isOpen || stopped then [] else [Tool.feed])
  setStatus 0

def printfMessage? : Tool.Printf.Fault → Option String
  | .expectedNumber arg => some (arg ++ ": expected numeric value")
  | .incomplete arg => some (arg ++ ": not completely converted")
  | .outOfRange arg => some (arg ++ ": Numerical result out of range")
  | .excess _ => none
  | .invalid spec => some (spec ++ ": invalid directive")
  | .unfinished _ => some "missing format character"

def endsPrintf : Tool.Printf.Fault → Bool
  | .invalid _ => true
  | .unfinished _ => true
  | _ => false

def printf (args : List String) : M Unit := do
  match if args.head? = some "--" then args.drop 1 else args with
  | [] => fail "printf: usage: printf format [arg ...]" 2
  | format :: args =>
    let (bytes, faults) := Tool.Printf.run .script format args
    let messages := faults.filterMap printfMessage?
    messages.forM fun m => complain ("printf: " ++ m)
    printBytes bytes
    setStatus (if faults.any endsPrintf then 2 else if messages.isEmpty then 0 else 1)

def conditionMessage : Tool.Condition.Fault → String
  | .badInteger arg => "Illegal number: " ++ arg
  | .missingArgument after => after ++ ": argument expected"
  | .unaryExpected arg => arg ++ ": unexpected operator"
  | .binaryExpected arg => arg ++ ": unexpected operator"
  | .unclosed => "closing paren expected"
  | .extra last _ => last ++ ": unexpected operator"

def test (name : String) (args : List String) : M Unit := do
  let s ← get
  let check (args : List String) : M Unit :=
    match Tool.Condition.Grammar.holds ⟨s.world.files, s.resolve⟩ args with
    | .ok b => setStatus (if b then 0 else 1)
    | .error f => fail (name ++ ": " ++ conditionMessage f) 2
  if name = "test" then check args
  else if args.getLast? = some "]" then check args.dropLast
  else fail "[: missing ]" 2

/-- A path without `.` and `..`, by its text alone. -/
def normal (p : Path) : Path :=
  let names := p.components.foldl (fun acc c =>
    match c with
    | .up => acc.dropLast
    | .name n => acc ++ [n]
    | _ => acc) ([] : List String)
  ⟨"/" ++ Text.join "/" names⟩

def cd (args : List String) : M Unit := do
  let s ← get
  let goTo (target : String) (tell : Bool) : M Unit := do
    let path := normal (s.cwd.child target)
    if target = "" then setStatus 0
    else if s.world.files.isDirectory path then
      modify fun s => { s with
        cwd := path
        vars := (s.vars.insert "OLDPWD" s.cwd.text).insert "PWD" path.text
        exported := s.exported.insertNames ["OLDPWD", "PWD"] }
      if tell then print (path.text ++ "\n")
      setStatus 0
    else fail ("cd: can't cd to " ++ target) 2
  match args.filter fun a => a ≠ "-L" && a ≠ "-P" && a ≠ "--" with
  | [] =>
    match s.vars.get? "HOME" with
    | some home => goTo home false
    | none => setStatus 0
  | "-" :: _ =>
    match s.vars.get? "OLDPWD" with
    | some old => goTo old true
    | none => fail "cd: OLDPWD not set" 2
  | target :: _ => goTo target false

def pwd (args : List String) : M Unit := do
  let s ← get
  print ((if args.contains "-P" then Tool.physical s.world.files s.cwd else s.cwd.text) ++ "\n")
  setStatus 0

def withNumber (command : String) (usual : Nat) (args : List String) (act : Nat → M Unit) :
    M Unit :=
  match args with
  | [] => act usual
  | arg :: _ =>
    match number? arg with
    | some n => act n
    | none => abort (command ++ ": Illegal number: " ++ arg)

def exit (args : List String) : M Unit := do
  let s ← get
  match args with
  | [] => stop (.exit s.status)
  | args => withNumber "exit" 0 args fun n => stop (.exit (n % 256))

def «return» (args : List String) : M Unit := do
  let s ← get
  match args with
  | [] => stop (.finish s.status)
  | args => withNumber "return" 0 args fun n => stop (.finish n)

/-- Goes through variables that may be given values, and does something with each of them before
that, and something after it. -/
def declareAll (command : String) (before after : String → M Unit) : List String → M Unit
  | [] => setStatus 0
  | arg :: args => do
    let name := String.ofList (arg.toList.takeWhile (· ≠ '='))
    if !RunLine.isName name then abort (command ++ ": " ++ name ++ ": bad variable name")
    else
      before name
      match arg.toList.drop name.length with
      | '=' :: value => assign name (String.ofList value)
      | _ => pure ()
      if (← get).halt.isNone then
        after name
        declareAll command before after args

def listing (command name : String) (value : Option String) : String :=
  command ++ " " ++ name ++
    (match value with | some v => "=" ++ quote v | none => "") ++ "\n"

def «export» (args : List String) : M Unit := do
  let s ← get
  if args.isEmpty || args = ["-p"] then
    s.exported.keys.forM fun name => print (listing "export" name (s.vars.get? name))
    setStatus 0
  else
    declareAll "export" (fun _ => pure ())
      (fun name => modify fun s => { s with exported := s.exported.insertNames [name] }) args

def readonly (args : List String) : M Unit := do
  let s ← get
  if args.isEmpty || args = ["-p"] then
    s.constants.keys.forM fun name => print (listing "readonly" name (s.vars.get? name))
    setStatus 0
  else
    declareAll "readonly" (fun _ => pure ())
      (fun name => modify fun s => { s with constants := s.constants.insertNames [name] }) args

def «local» (args : List String) : M Unit := do
  if (← get).locals.isNone then abort "local: not in a function"
  else
    let save (name : String) : M Unit :=
      modify fun s => { s with locals := s.locals.map fun ls => (name, s.vars.get? name) :: ls }
    declareAll "local" save (fun _ => pure ()) args

def unset (args : List String) : M Unit := do
  let functions := args.head? = some "-f"
  let names := if functions || args.head? = some "-v" then args.drop 1 else args
  names.forM fun name => do
    let s ← get
    if s.halt.isSome then pure ()
    else if functions then
      modify fun s => { s with functions := s.functions.filter (·.1 ≠ name) }
    else if name.toList.head? = some '-' then
      abort ("unset: Illegal option " ++ String.ofList (name.toList.take 2))
    else if !RunLine.isName name then abort ("unset: " ++ name ++ ": bad variable name")
    else if s.constants.contains name then abort ("unset: " ++ name ++ ": is read only")
    else modify fun s => { s with vars := s.vars.erase name, exported := s.exported.erase name }
  if (← get).halt.isNone then setStatus 0

def optionNames : List (String × Char) :=
  [("errexit", 'e'), ("noglob", 'f'), ("ignoreeof", 'I'), ("interactive", 'i'), ("monitor", 'm'),
    ("noexec", 'n'), ("stdin", 's'), ("xtrace", 'x'), ("verbose", 'v'), ("vi", 'V'),
    ("emacs", 'E'), ("noclobber", 'C'), ("allexport", 'a'), ("notify", 'b'), ("nounset", 'u'),
    ("privileged", 'p'), ("nolog", '*'), ("debug", '+')]

def State.flags (s : State) : String :=
  String.ofList (optionNames.reverse.filterMap fun (_, c) => if s.has c then some c else none)

def setOption (on : Bool) (option : Char) : M Unit :=
  modify fun s =>
    let rest := s.options.filter (· ≠ option)
    { s with options := if on then option :: rest else rest }

def setLetters (on : Bool) : List Char → M Unit
  | [] => pure ()
  | c :: cs =>
    if optionNames.any (·.2 = c) then do
      setOption on c
      setLetters on cs
    else abort ("set: Illegal option -" ++ c.toString)

def set : List String → M Unit
  | [] => do
    let s ← get
    s.vars.entries.forM fun (name, value) => print (name ++ "=" ++ quote value ++ "\n")
    setStatus 0
  | "--" :: args => do
    modify fun s => { s with args := args }
    setStatus 0
  | args => go args
where
  /-- Takes options up to the first argument. -/
  go : List String → M Unit
    | [] => setStatus 0
    | arg :: args =>
      match arg.toList, args with
      | sign :: letters, args =>
        if sign = '-' || sign = '+' then
          match letters, args with
          | ['o'], name :: rest =>
            match optionNames.lookup name with
            | some c => do
              setOption (sign = '-') c
              go rest
            | none => abort ("set: Illegal option -o " ++ name)
          | ['-'], args => do
            modify fun s => { s with args := args }
            setStatus 0
          | letters, args => do
            setLetters (sign = '-') letters
            if (← get).halt.isNone then go args
        else do
          modify fun s => { s with args := arg :: args }
          setStatus 0
      | [], args => do
        modify fun s => { s with args := arg :: args }
        setStatus 0

def shift (args : List String) : M Unit :=
  withNumber "shift" 1 args fun n => do
    let s ← get
    if n ≤ s.args.length then
      modify fun s => { s with args := s.args.drop n }
      setStatus 0
    else abort "shift: can't shift that many"

/-- The bytes up to a line feed, when it comes, and whether it comes at all. -/
def firstLine (close : Option Duration) (acc : Bytes) :
    List (Duration × Bytes) → Bytes × Option Duration × Bool
  | [] => (acc, close, false)
  | (time, bytes) :: rest =>
    let line := bytes.takeWhile (· ≠ Tool.feed)
    if line.length < bytes.length then (acc ++ line, some time, true)
    else firstLine close (acc ++ line) rest

/-- Takes a line of the input; it is told whether it was ended. Nothing is told of an input that never
ends. -/
def takeLine : M (Option (Bytes × Bool)) := do
  let s ← get
  let (line, time, found) := firstLine s.input.close [] s.input.chunks
  match time with
  | none =>
    stop (.endless [])
    return none
  | some time =>
    modify fun s => s.take (some (line.length + if found then 1 else 0))
    modify fun s => { s with world := { s.world with clock := max time s.world.clock } }
    return some (line, found)

/-- The characters of a line, where a backslash quotes the next one; it is told whether the line goes
on behind a backslash at its end. -/
def unquote (acc : List Glyph) : List Char → List Glyph × Bool
  | [] => (acc.reverse, false)
  | ['\\'] => (acc.reverse, true)
  | '\\' :: c :: cs => unquote (⟨c, true⟩ :: acc) cs
  | c :: cs => unquote (⟨c, false⟩ :: acc) cs

def takeGlyphs (raw : Bool) (acc : List Glyph) : Nat → M (List Glyph × Bool)
  | 0 => return (acc, false)
  | n + 1 => do
    match ← takeLine with
    | none => return (acc, false)
    | some (line, found) =>
      let cs := (Text.decodeLossy line).toList
      if raw then return (acc ++ cs.map (⟨·, false⟩), found)
      else
        let (glyphs, goesOn) := unquote [] cs
        if goesOn && found then takeGlyphs raw (acc ++ glyphs) n
        else return (acc ++ glyphs, found)

def separates (separators : List Char) (g : Glyph) : Bool :=
  !g.quoted && separators.contains g.char

def separatesBlank (separators : List Char) (g : Glyph) : Bool :=
  separates separators g && (g.char = ' ' || g.char = '\t' || g.char = '\n')

def lineWords (separators : List Char) : Nat → List Glyph → List (List Glyph × List Glyph)
  | 0, _ => []
  | n + 1, gs =>
    let gs := gs.dropWhile (separatesBlank separators)
    if gs.isEmpty then []
    else
      let word := gs.takeWhile fun g => !separates separators g
      let rest := (gs.drop word.length).dropWhile (separatesBlank separators)
      let rest :=
        match rest with
        | g :: more => if separates separators g then more else rest
        | [] => []
      (word, gs) :: lineWords separators n rest

/-- Gives words to names; the last one gets what is left. -/
def assignWords (separators : List Char) :
    List String → List (List Glyph × List Glyph) → M Unit
  | [], _ => pure ()
  | [name], ws =>
    match ws with
    | [] => assign name ""
    | [(word, _)] => assign name (textOf word)
    | (_, rest) :: _ =>
      assign name (textOf (rest.reverse.dropWhile (separatesBlank separators)).reverse)
  | name :: names, ws => do
    assign name (textOf ((ws.head?.map (·.1)).getD []))
    assignWords separators names (ws.drop 1)

def separatorsOf (s : State) : List Char :=
  match s.vars.get? "IFS" with
  | some text => text.toList
  | none => [' ', '\t', '\n']

def read (args : List String) : M Unit :=
  go false args
where
  /-- Takes options, then reads. -/
  go (raw : Bool) : List String → M Unit
    | [] => abort "read: arg count"
    | "-p" :: _ :: args => go raw args
    | "--" :: args => fill raw args
    | arg :: args =>
      match arg.toList with
      | ['-', 'r'] => go true args
      | '-' :: c :: _ => abort ("read: Illegal option -" ++ c.toString)
      | _ => fill raw (arg :: args)
  /-- Reads a line into names. -/
  fill (raw : Bool) (names : List String) : M Unit := do
    match names.find? fun name => !RunLine.isName name with
    | some name => abort ("read: " ++ name ++ ": bad variable name")
    | none =>
      let s ← get
      let (glyphs, found) ← takeGlyphs raw [] (s.input.bytes.length + 1)
      if (← get).halt.isNone then
        assignWords (separatorsOf s) names (lineWords (separatorsOf s) (glyphs.length + 1) glyphs)
        setStatus (if found then 0 else 1)

def inLoop (command : String) (halt : Nat → Halt) (args : List String) : M Unit :=
  withNumber command 1 args fun n => do
    let s ← get
    if n = 0 then abort (command ++ ": Illegal number: 0")
    else if s.loops = 0 then setStatus 0
    else
      setStatus 0
      stop (halt (min n s.loops))

def find? (name : String) : Option (List String → M Unit) :=
  match name with
  | ":" => some fun _ => setStatus 0
  | "true" => some fun _ => setStatus 0
  | "false" => some fun _ => setStatus 1
  | "echo" => some echo
  | "printf" => some printf
  | "test" => some (test "test")
  | "[" => some (test "[")
  | "cd" => some cd
  | "pwd" => some pwd
  | "exit" => some exit
  | "return" => some «return»
  | "break" => some (inLoop "break" .leave)
  | "continue" => some (inLoop "continue" .again)
  | "export" => some «export»
  | "readonly" => some readonly
  | "local" => some «local»
  | "unset" => some unset
  | "set" => some set
  | "shift" => some shift
  | "kill" => some Signal.kill
  | "read" => some read
  | "trap" => some Signal.trap
  | "umask" => some fun args => do
    if args.isEmpty then print "0022\n"
    setStatus 0
  | _ => none

end ShellSuite.Sh.Builtin
