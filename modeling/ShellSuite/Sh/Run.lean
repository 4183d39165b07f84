import ShellSuite.Sh.Arith
import ShellSuite.Sh.Builtin
import ShellSuite.Sh.Field
import ShellSuite.Sh.Parser

set_option autoImplicit false
set_option relaxedAutoImplicit false

/-!
Running scripts. A script is read line by line, and each line is carried out before the next one is
read. A script for which no fuel is left never ends.
-/

namespace ShellSuite.Sh

/-- What scripts run on: the programs of the machine, and when everything is killed. -/
structure Host where
  machine : Machine
  deadline : Option Duration

def State.value? (s : State) (name : String) : Option String :=
  match name with
  | "?" => some (toString s.status)
  | "#" => some (toString s.args.length)
  | "$" => some Signal.ownProcess
  | "PPID" => some Signal.parentProcess
  | "!" => some ((s.lastJob.map toString).getD "")
  | "-" => some (Builtin.State.flags s)
  | "0" => some s.name
  | "@" => if s.args.isEmpty then none else some (Text.join " " s.args)
  | "*" => if s.args.isEmpty then none else some (Text.join " " s.args)
  | name =>
    match number? name with
    | some n => s.args[n - 1]?
    | none => s.vars.get? name

def argFragments (quoted : Bool) : List String → List Fragment
  | [] => if quoted then [.nothing] else []
  | [a] => [.text a.toList quoted (!quoted)]
  | a :: as => .text a.toList quoted (!quoted) :: .border :: argFragments quoted as

/-- Starts a program for a command. One that is no program for the machine is taken for a script. -/
def launch (h : Host) (command : String) (argv : List String) (env : Dict String) : M Unit := do
  modify State.release
  let s ← get
  let call (argv : List String) : Invocation := ⟨argv, env, s.cwd, s.input⟩
  let name := argv.head?.getD ""
  let refuse (reason : String) (code : Int) : M Unit := do
    fail (← labelled (command ++ name ++ ": " ++ reason)) code
  match h.machine.fault? s.world (call argv) with
  | none => absorb (h.machine.run s.world h.deadline (call argv))
  | some .execFormat => absorb (h.machine.run s.world h.deadline (call ("/bin/sh" :: argv)))
  | some .permission => refuse "Permission denied" 126
  | some .noEntry => refuse (if name = "" then "Permission denied" else "not found") 127
  | some e => refuse e.reason 126

def State.isProgram (s : State) (path : String) : Bool :=
  match s.world.files.node true (s.resolve path) with
  | .ok n => !n.isDirectory && Tool.Condition.isRunnable n
  | .error _ => false

def State.program? (s : State) (name : String) : Option String :=
  if name.toList.contains '/' then if s.isProgram name then some name else none
  else
    let dirs := Text.split ((s.vars.get? "PATH").getD "") ':'
    (dirs.map fun dir => if dir = "" then name else dir ++ "/" ++ name).find? s.isProgram

def keywords : List String :=
  ["!", "\x7b", "\x7d", "case", "do", "done", "elif", "else", "esac", "fi", "for", "if", "in", "then",
    "until", "while"]

def specialCommands : List String :=
  [".", ":", "break", "continue", "eval", "exec", "exit", "export", "readonly", "return", "set",
    "shift", "times", "trap", "unset"]

def furtherCommands : List String :=
  [".", "alias", "command", "eval", "exec", "hash", "jobs", "type", "wait"]

def State.meaning? (s : State) (name : String) : Option (String × String) :=
  if keywords.contains name then some (name ++ " is a shell keyword", name)
  else if (s.functions.lookup name).isSome then some (name ++ " is a shell function", name)
  else if specialCommands.contains name then some (name ++ " is a special shell builtin", name)
  else if (Builtin.find? name).isSome || furtherCommands.contains name then
    some (name ++ " is a shell builtin", name)
  else (s.program? name).map fun path => (name ++ " is " ++ path, path)

def explain (short : Bool) (names : List String) : M Unit := do
  setStatus 0
  names.forM fun name => do
    match (← get).meaning? name with
    | some (long, brief) => print ((if short then brief else long) ++ "\n")
    | none =>
      if !short then print (name ++ ": not found\n")
      setStatus 127

def redirectReason (creating : Bool) : OsError → String
  | .noEntry => if creating then "Directory nonexistent" else "No such file"
  | .notDirectory => if creating then "Directory nonexistent" else "No such file"
  | e => e.reason

def bind (fd : Nat) (t : Option Target) : M Unit :=
  modify fun s =>
    let rest := s.descriptors.filter (·.1 ≠ fd)
    { s with descriptors := match t with | some t => (fd, t) :: rest | none => rest }

def redirectTo (fd : Nat) (op : RedirectOp) (target : String) : M Bool := do
  let s ← get
  match op with
  | .here =>
    modify fun s => { s with input := .ofBytes s.world.clock (Text.encode target), taken := some 0 }
    return true
  | .read =>
    match s.world.files.read (s.resolve target) with
    | .ok bytes =>
      modify fun s => { s with input := .ofBytes s.world.clock bytes, taken := some 0 }
      return true
    | .error e =>
      fail (← labelled ("cannot open " ++ target ++ ": " ++ redirectReason false e)) 2
      return false
  | .duplicate =>
    if target = "-" then
      bind fd none
      return true
    else if fd = 0 then return true
    else
      match (number? target).bind fun n => s.descriptors.lookup n with
      | some t =>
        bind fd (some t)
        return true
      | none =>
        fail (← labelled (target ++ ": Bad file descriptor")) 2
        return false
  | _ =>
    match OpenFiles.create ⟨s.world.files, s.handles⟩ (op = .append) (s.resolve target) with
    | .ok (o, handle) =>
      modify fun s => { s with world := { s.world with files := o.files }, handles := o.handles }
      bind fd (some (.file handle))
      return true
    | .error e =>
      fail (← labelled ("cannot create " ++ target ++ ": " ++ redirectReason true e)) 2
      return false

/-- Ends the script after a failure if it is to do so. -/
def checkError : M Unit := do
  let s ← get
  if s.has 'e' && !s.guarded && s.status ≠ 0 && s.halt.isNone then stop (.exit s.status)

/-- Carries out commands whose failure ends nothing. -/
def guardedly (act : M Unit) : M Unit := do
  let before ← get
  modify fun s => { s with guarded := true }
  act
  modify fun s => { s with guarded := before.guarded }

def afterSubshell (outer inner : State) : State :=
  let (status, halt) : Int × Option Halt :=
    match inner.halt with
    | some (.exit code) => (code, none)
    | some (.finish code) => (code, none)
    | some (.signal signal) => (128 + signal, some (.signal signal))
    | some (.killed time) => (inner.status, some (.killed time))
    | some (.endless chunk) => (inner.status, some (.endless chunk))
    | _ => (inner.status, none)
  { outer with
    world := inner.world, handles := inner.handles, writes := inner.writes, input := inner.input
    taken := inner.taken, pending := inner.pending, status, halt }

def inSubshell (act : M Unit) : M Unit := do
  let outer ← get
  act
  modify (afterSubshell outer)

/-- Carries out commands in a subshell whose output is kept apart. -/
def capture (act : M Unit) : M (List Write) := do
  let outer ← get
  set { outer with writes := [], descriptors := [(1, .out), (2, .err)] }
  act
  let inner ← get
  let inner := { afterSubshell outer inner with writes := outer.writes }
  let (errors, out) := (← get).writes.reverse.partition (·.toErrors)
  set (inner.route errors)
  return out

def pipeOf (s : State) (out : List Write) : Stream :=
  let chunks := out.map fun w => (w.time, w.bytes)
  match s.halt with
  | some (.endless chunk) => ⟨chunks, some chunk, none⟩
  | _ => ⟨chunks, none, some s.world.clock⟩

def codeOf? (s : State) : Option Int :=
  match s.halt with
  | some (.exit code) => some code
  | some (.finish code) => some code
  | some (.signal signal) => some (128 + signal)
  | some (.killed _) => none
  | some (.endless _) => none
  | _ => some s.status

def earlier (a b : Option Duration) : Option Duration :=
  match a, b with
  | some a, some b => some (min a b)
  | some a, none => some a
  | none, b => b

def expandTilde (s : State) : List Part → List Part
  | .text ('~' :: cs) false :: rest =>
    match s.vars.get? "HOME", cs.head?.all (· = '/') with
    | some home, true => .text home.toList true :: .text cs false :: rest
    | _, _ => .text ('~' :: cs) false :: rest
  | parts => parts

def restore (before : State) (names : List String) (s : State) : State :=
  names.foldl (fun s name =>
    { s with
      vars := match before.vars.get? name with
        | some v => s.vars.insert name v
        | none => s.vars.erase name
      exported := if before.exported.contains name then s.exported else s.exported.erase name }) s

/-- Shows a command that is carried out, if that is asked for. -/
def trace (words : List String) : M Unit :=
  modify fun s =>
    if s.has 'x' && !words.isEmpty then
      s.putTo 2 s.world.clock (Text.encode ("+ " ++ Text.join " " words ++ "\n"))
    else s

def dropFinalFeeds (cs : List Char) : List Char :=
  (cs.reverse.dropWhile (· = '\n')).reverse

mutual

def expand (h : Host) : Nat → List Part → M (List Fragment)
  | 0, _ => do
    stop (.endless [])
    return []
  | _ + 1, [] => return []
  | n + 1, part :: parts => do
    let here ←
      match part with
      | .text cs quoted => pure [Fragment.text cs quoted false]
      | .param name modifier quoted => expandParam h n name modifier quoted
      | .command body quoted => do
        let out ← capture (runChild h n body)
        let text := Text.decodeLossy (out.flatMap (·.bytes))
        pure [Fragment.text (dropFinalFeeds text.toList) quoted (!quoted)]
      | .arith body quoted => do
        let text := textOf (Fragment.glyphs (← expand h n body))
        let s ← get
        match Arith.evaluate s.vars text with
        | .ok (v, vars) =>
          set { s with vars }
          pure [Fragment.text (toString v).toList quoted (!quoted)]
        | .error f => do
          abort (← labelled (f.message text))
          pure []
    let rest ← expand h n parts
    return here ++ rest

def expandParam (h : Host) : Nat → String → Modifier → Bool → M (List Fragment)
  | 0, _, _, _ => do
    stop (.endless [])
    return []
  | n + 1, name, modifier, quoted => do
    let s ← get
    let value := s.value? name
    let whole (text : String) : List Fragment := [.text text.toList quoted (!quoted)]
    let word (parts : List Part) : M (List Fragment) := do
      let fs ← expand h n parts
      return fs.map fun f =>
        match f with
        | .text cs q split => .text cs (q || quoted) (split && !quoted)
        | f => f
    let needed (text : String) : M (List Fragment) := do
      if s.has 'u' && value.isNone && name ≠ "@" && name ≠ "*" then
        abort (← labelled (name ++ ": parameter not set"))
        return []
      else return whole text
    let has (colon : Bool) : Bool :=
      match value with
      | some text => !(colon && text = "")
      | none => false
    match modifier with
    | .plain =>
      if name = "@" then return argFragments quoted s.args
      else
        needed (value.getD "")
    | .length => needed (toString (value.getD "").length)
    | .otherwise colon parts => if has colon then return whole (value.getD "") else word parts
    | .instead colon parts => if has colon then word parts else return whole ""
    | .assign colon parts =>
      if has colon then return whole (value.getD "")
      else
        let text := textOf (Fragment.glyphs (← expand h n parts))
        assign name text
        return whole text
    | .demand colon parts =>
      if has colon then return whole (value.getD "")
      else
        let text := textOf (Fragment.glyphs (← expand h n parts))
        abort (← labelled (name ++ ": " ++ if text = "" then "parameter not set" else text))
        return []
    | .trim fromEnd longest parts =>
      let pattern := Pattern.ofGlyphs (Fragment.glyphs (← expand h n parts))
      needed (String.ofList (pattern.trim fromEnd longest (value.getD "").toList))

def expandWords (h : Host) : Nat → List (List Part) → M (List String)
  | 0, _ => do
    stop (.endless [])
    return []
  | _ + 1, [] => return []
  | n + 1, word :: words => do
    let fs ← expand h n (expandTilde (← get) word)
    let s ← get
    let fields := fieldsOf (Builtin.separatorsOf s) fs
    let here :=
      if s.has 'f' then fields.map textOf else fields.flatMap (wordsOf s.world.files s.cwd)
    let rest ← expandWords h n words
    return here ++ rest

def assignAll (h : Host) : Nat → List (String × List Part) → M (List String)
  | 0, _ => do
    stop (.endless [])
    return []
  | _ + 1, [] => return []
  | n + 1, (name, parts) :: rest => do
    let fs ← expand h n (expandTilde (← get) parts)
    let value := textOf (Fragment.glyphs fs)
    assign name value
    return (name ++ "=" ++ value) :: (← assignAll h n rest)

def redirectAll (h : Host) : Nat → List Redirect → M Bool
  | 0, _ => do
    stop (.endless [])
    return false
  | _ + 1, [] => return true
  | n + 1, .mk fd op parts :: rest => do
    let fs ← expand h n parts
    if ← redirectTo fd op (textOf (Fragment.glyphs fs)) then redirectAll h n rest else return false

def redirected (h : Host) : Nat → List Redirect → Option Command → List String → M Unit
  | 0, _, _, _ => stop (.endless [])
  | n + 1, redirects, body, words => do
    let before ← get
    if ← redirectAll h n redirects then
      match body with
      | some c => run h n c
      | none => invoke h n words
    let keeps := body.isNone && words = ["exec"]
    let readsHere := redirects.any fun (.mk _ op _) => op = .read || op = .here
    if !keeps then
      modify fun s => { s with
        descriptors := before.descriptors
        input := if readsHere then before.input else s.input
        taken := if readsHere then before.taken else s.taken }

/-- Carries out a command given by its words. -/
def invoke (h : Host) : Nat → List String → M Unit
  | 0, _ => stop (.endless [])
  | _ + 1, [] => pure ()
  | n + 1, name :: args => do
    let s ← get
    match s.functions.lookup name with
    | some body =>
      modify fun s => { s with args := args, locals := some [], loops := 0 }
      run h n body
      modify fun now =>
        let vars := (now.locals.getD []).foldl (fun vars (name, value) =>
          match value with
          | some v => vars.insert name v
          | none => vars.erase name) now.vars
        { now with args := s.args, locals := s.locals, loops := s.loops, vars }
      match (← get).halt with
      | some (.finish code) => modify fun s => { s with halt := none, status := code }
      | _ => pure ()
    | none =>
      match Builtin.find? name with
      | some act => act args
      | none =>
        match name with
        | "eval" =>
          setStatus 0
          runLabelled h n "eval" ⟨(Text.join " " args).toList, s.line⟩
        | "exec" =>
          if !args.isEmpty then
            launch h "exec: " args s.environment
            let now ← get
            if now.status ≠ 126 && now.status ≠ 127 then
              modify fun s => { s with traps := s.traps.filter (·.1 ≠ 0) }
            if now.halt.isNone then stop (.exit now.status)
        | "command" =>
          match args with
          | [] => setStatus 0
          | "-v" :: names => explain true (names.take 1)
          | "-V" :: names => explain false names
          | "-p" :: args => launchOrInvoke h n args
          | args => launchOrInvoke h n args
        | "type" => explain false args
        | "alias" => setStatus 0
        | "hash" => setStatus 0
        | "jobs" => setStatus 0
        | "wait" => awaitJobs h n args
        | "." =>
          match args with
          | [] => setStatus 0
          | file :: _ =>
            if !file.toList.contains '/' then abort (".: " ++ file ++ ": not found")
            else
              match s.world.files.read (s.resolve file) with
              | .ok bytes => runLabelled h n file ⟨(Text.decodeLossy bytes).toList, 1⟩
              | .error e => abort (".: cannot open " ++ file ++ ": " ++ redirectReason false e)
        | _ =>
          launch h "" (name :: args) s.environment
          let now ← get
          if s.world.clock < now.world.clock && !now.jobs.isEmpty then
            set { now with jobs := [] }
            settleJobs h (some (now.world.clock + 1)) false n now.jobs

/-- Carries out a command that is no function. -/
def launchOrInvoke (h : Host) : Nat → List String → M Unit
  | 0, _ => stop (.endless [])
  | _ + 1, [] => pure ()
  | _ + 1, name :: args => do
    let s ← get
    match Builtin.find? name with
    | some act => act args
    | none => launch h "" (name :: args) s.environment

/-- Waits for commands in the background: for all of them, or for those with some numbers. -/
def awaitJobs (h : Host) : Nat → List String → M Unit
  | 0, _ => stop (.endless [])
  | n + 1, args => do
    let s ← get
    match args with
    | [] =>
      set { s with jobs := [] }
      settleJobs h none false n s.jobs
      modify State.release
      setStatus 0
    | arg :: rest =>
      match number? arg with
      | none => abort ("wait: Illegal number: " ++ arg)
      | some number =>
        let (awaited, others) := s.jobs.partition (·.number = number)
        set { s with jobs := others }
        settleJobs h none false n awaited
        modify State.release
        setStatus (((← get).finished.lookup number).getD 127)
        if !rest.isEmpty && (← get).halt.isNone then awaitJobs h n rest

/-- Tries to finish commands in the background. Without a limit they are waited for. Of those that
do not finish before the limit nothing is done yet, unless they are cut off there. -/
def settleJobs (h : Host) (limit : Option Duration) (cut : Bool) : Nat → List Job → M Unit
  | 0, _ => stop (.endless [])
  | _ + 1, [] => pure ()
  | n + 1, j :: js => do
    let outer ← get
    set (outer.enter j)
    run { h with deadline := earlier h.deadline limit } n j.body
    let inner ← get
    let clock := if limit.isNone then max outer.world.clock inner.world.clock else outer.world.clock
    let after : State :=
      { outer with
        world := { inner.world with clock }, handles := inner.handles
        held := outer.held ++ inner.writes.reverse }
    match codeOf? inner with
    | some code => set { after with finished := (j.number, code) :: outer.finished }
    | none =>
      if limit.isNone then set { after with halt := inner.halt }
      else if cut then set after
      else set { outer with jobs := outer.jobs ++ [j] }
    if (← get).halt.isNone then settleJobs h limit cut n js

def runLabelled (h : Host) : Nat → String → Source → M Unit
  | 0, _, _ => stop (.endless [])
  | n + 1, label, source => do
    let before ← get
    modify fun s => { s with label := some label }
    runText h n source
    modify fun s => { s with label := before.label }

def runPending (h : Host) : Nat → M Unit
  | 0 => stop (.endless [])
  | n + 1 => do
    let s ← get
    match s.pending, s.halt with
    | action :: rest, none =>
      set { s with pending := rest }
      runText h n ⟨action.toList, s.line⟩
      modify fun now => { now with status := s.status }
      runPending h n
    | _, _ => pure ()

def runExit (h : Host) : Nat → M Unit
  | 0 => stop (.endless [])
  | n + 1 => do
    let s ← get
    match s.traps.lookup 0, codeOf? s with
    | some action, some code =>
      let signalled :=
        match s.halt with
        | some (.signal _) => true
        | _ => false
      if !signalled then
        set { s with halt := none, status := code, traps := s.traps.filter (·.1 ≠ 0) }
        runText h n ⟨action.toList, s.line⟩
        if (← get).halt.isNone then stop (.exit code)
    | _, _ => pure ()

def runChild (h : Host) : Nat → Command → M Unit
  | 0, _ => stop (.endless [])
  | n + 1, c => do
    modify fun s => { s with traps := s.traps.filter (·.1 ≠ 0), jobs := [], held := [] }
    run h n c
    runExit h n
    modify State.release

def runText (h : Host) : Nat → Source → M Unit
  | 0, _ => stop (.endless [])
  | n + 1, source =>
    match readLine source with
    | .error f => do
      modify fun s => { s with line := f.line }
      abort (← labelled f.message)
    | .ok none => pure ()
    | .ok (some (c, rest)) => do
      run h n c
      if (← get).halt.isNone then runText h n rest

/-- Carries out a command, unless something has ended. -/
def run (h : Host) : Nat → Command → M Unit
  | 0, _ => stop (.endless [])
  | n + 1, c => do
    if (← get).halt.isNone then
      match c with
      | .simple line assigns words redirects =>
        modify fun s => { s with line }
        let words ← expandWords h n words
        if (← get).halt.isNone then
          if words.isEmpty then
            setStatus 0
            trace (← assignAll h n assigns)
            if (← get).halt.isNone then redirected h n redirects (some (.seq [])) []
          else if assigns.isEmpty then
            trace words
            redirected h n redirects none words
          else
            let before ← get
            trace ((← assignAll h n assigns) ++ words)
            modify fun s => { s with exported := s.exported.insertNames (assigns.map (·.1)) }
            if (← get).halt.isNone then redirected h n redirects none words
            if !specialCommands.contains (words.headD "") then
              modify fun s => restore before (assigns.map (·.1)) s
          runPending h n
          checkError
      | .pipeline negate stages =>
        let start := (← get).world.clock
        if negate then guardedly (runStages h n start none stages)
        else runStages h n start none stages
        if negate then modify fun s => { s with status := if s.status = 0 then 1 else 0 }
        else checkError
      | .and first second =>
        guardedly (run h n first)
        if (← get).status = 0 then run h n second
      | .or first second =>
        guardedly (run h n first)
        if (← get).status ≠ 0 then run h n second
      | .seq commands => runAll h n commands
      | .background body =>
        let s ← get
        let number := 3 + s.jobs.length + s.finished.length
        set { s with lastJob := some number }
        settleJobs h (some (s.world.clock + 1)) false n [s.fork number body]
        setStatus 0
      | .subshell body =>
        inSubshell (runChild h n body)
        runPending h n
        checkError
      | .group body => run h n body
      | .choice test yes no =>
        guardedly (run h n test)
        if (← get).status = 0 then run h n yes
        else
          setStatus 0
          run h n no
      | .loop untilTrue test body =>
        setStatus 0
        modify fun s => { s with loops := s.loops + 1 }
        runLoop h n untilTrue test body 0
        modify fun s => { s with loops := s.loops - 1 }
      | .each name words body =>
        let words ←
          match words with
          | some ws => expandWords h n ws
          | none => pure (← get).args
        setStatus 0
        modify fun s => { s with loops := s.loops + 1 }
        runEach h n name body words
        modify fun s => { s with loops := s.loops - 1 }
      | .cases subject arms =>
        let text := textOf (Fragment.glyphs (← expand h n subject))
        setStatus 0
        runArms h n text.toList arms
      | .define name body =>
        modify fun s => { s with functions := (name, body) :: s.functions, status := 0 }
      | .redirected body redirects => redirected h n redirects (some body) []

def runAll (h : Host) : Nat → List Command → M Unit
  | 0, _ => stop (.endless [])
  | _ + 1, [] => pure ()
  | n + 1, c :: cs => do
    run h n c
    runAll h n cs

def runStages (h : Host) : Nat → Duration → Option Stream → List Command → M Unit
  | 0, _, _, _ => stop (.endless [])
  | _ + 1, _, _, [] => pure ()
  | n + 1, start, previous, stage :: stages => do
    let outer ← get
    let enter : M Unit :=
      modify fun s =>
        let s := { s with world := { s.world with clock := start } }
        match previous with
        | some input => { s with input, taken := some 0 }
        | none => s
    let leave : M Unit :=
      modify fun s =>
        let s := { s with world := { s.world with clock := max s.world.clock outer.world.clock } }
        if previous.isSome then { s with input := outer.input, taken := outer.taken } else s
    if stages.isEmpty then
      inSubshell do
        enter
        runChild h n stage
      leave
    else
      let out ← capture do
        enter
        runChild h n stage
      let pipe := pipeOf (← get) out
      leave
      modify fun s =>
        let halt := match s.halt with
          | some (.killed time) => some (Halt.killed time)
          | _ => none
        { s with halt }
      if (← get).halt.isNone then runStages h n start (some pipe) stages

def runLoop (h : Host) : Nat → Bool → Command → Command → Int → M Unit
  | 0, _, _, _, _ => stop (.endless [])
  | n + 1, untilTrue, test, body, last => do
    guardedly (run h n test)
    let s ← get
    if s.halt.isNone then
      if (s.status = 0) = untilTrue then setStatus last
      else
        run h n body
        let s ← get
        match s.halt with
        | none => runLoop h n untilTrue test body s.status
        | some (.leave k) =>
          modify fun s => { s with halt := if k ≤ 1 then none else some (.leave (k - 1)) }
        | some (.again k) =>
          if k ≤ 1 then
            modify fun s => { s with halt := none }
            runLoop h n untilTrue test body s.status
          else stop (.again (k - 1))
        | some _ => pure ()

def runEach (h : Host) : Nat → String → Command → List String → M Unit
  | 0, _, _, _ => stop (.endless [])
  | _ + 1, _, _, [] => pure ()
  | n + 1, name, body, word :: words => do
    assign name word
    run h n body
    match (← get).halt with
    | none => runEach h n name body words
    | some (.leave k) =>
      modify fun s => { s with halt := if k ≤ 1 then none else some (.leave (k - 1)) }
    | some (.again k) =>
      if k ≤ 1 then
        modify fun s => { s with halt := none }
        runEach h n name body words
      else stop (.again (k - 1))
    | some _ => pure ()

def runArms (h : Host) : Nat → List Char → List (List (List Part) × Command) → M Unit
  | 0, _, _ => stop (.endless [])
  | _ + 1, _, [] => pure ()
  | n + 1, text, (patterns, body) :: arms => do
    if ← fitsAny h n text patterns then run h n body else runArms h n text arms

def fitsAny (h : Host) : Nat → List Char → List (List Part) → M Bool
  | 0, _, _ => do
    stop (.endless [])
    return false
  | _ + 1, _, [] => return false
  | n + 1, text, p :: ps => do
    let pattern := Pattern.ofGlyphs (Fragment.glyphs (← expand h n p))
    if pattern.fits text then return true else fitsAny h n text ps

end

/-- How deep scripts may nest and how often loops may run. -/
def fuel : Nat := 20000

/-- Carries out a whole script. What is still in the background then is cut off. -/
def runScript (h : Host) (source : Source) : M Unit := do
  runText h fuel source
  runExit h fuel
  let s ← get
  set { s with jobs := [], halt := none }
  settleJobs h (some (s.world.clock + 1)) true fuel s.jobs
  modify fun now => { now.release with halt := s.halt, status := s.status }

/-- What a shell is asked to run: a text, its name and its arguments, and the options that are
set. -/
structure Request where
  text : String
  name : String
  args : List String
  options : List Char
  readsInput : Bool

def requestOf (inv : Invocation) (files : FileSystem) (shell : String) (options : List Char) :
    List String → Except String Request
  | [] => .ok ⟨Text.decodeLossy inv.input.bytes, shell, [], options, true⟩
  | arg :: args =>
    match arg.toList with
    | '-' :: c :: cs =>
      let letters := c :: cs
      let options := letters.filter (· ≠ 'c') ++ options
      if letters.contains 'c' then
        match args with
        | [] => .error "-c requires an argument"
        | text :: rest => .ok ⟨text, rest.head?.getD shell, rest.drop 1, options, false⟩
      else if letters.contains 's' then
        .ok ⟨Text.decodeLossy inv.input.bytes, shell, args, options, true⟩
      else requestOf inv files shell options args
    | _ =>
      match files.read (inv.cwd.child arg) with
      | .ok bytes => .ok ⟨Text.decodeLossy bytes, arg, args, options, false⟩
      | .error e => .error ("cannot open " ++ arg ++ ": " ++ redirectReason false e)

def startState (w : World) (inv : Invocation) (r : Request) : State :=
  let cwd : Path := ⟨Tool.physical w.files inv.cwd⟩
  let vars := inv.env.insert "PWD" cwd.text
  { world := w, handles := [], descriptors := [(1, .out), (2, .err)], vars
    exported := .ofNames vars.keys, functions := [], cwd, name := r.name, args := r.args
    status := 0
    input := if r.readsInput then { inv.input with chunks := [], endless := none } else inv.input
    taken := if r.readsInput then none else some 0
    writes := [], halt := none, options := r.options, guarded := false, line := 1 }

def reply (m : Machine) (w : World) (deadline : Option Duration) (inv : Invocation) : Reply :=
  let shell := inv.argv.head?.getD "sh"
  match requestOf inv w.files shell [] (inv.argv.drop 1) with
  | .error message =>
    ⟨w.files, w.token, [⟨w.clock, true, Text.encode (shell ++ ": 0: " ++ message ++ "\n")⟩], some 0,
      .exited 2 w.clock⟩
  | .ok r =>
    let limit := w.killTime deadline
    if limit.any (· ≤ w.clock) then ⟨w.files, w.token, [], some 0, .killed w.clock⟩
    else
      ((runScript ⟨m, deadline⟩ ⟨r.text.toList, 1⟩).run (startState w inv r)).2.reply

end ShellSuite.Sh
