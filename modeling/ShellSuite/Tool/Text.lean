import ShellSuite.Tool.Call
import ShellSuite.Tool.Printf

set_option autoImplicit false
set_option relaxedAutoImplicit false

/-!
Tools that print or count lines: the beginning or the end of files, counts, sorted lines, numbers.
-/

namespace ShellSuite.Tool

def filesOr (operands : List String) : List String :=
  if operands.isEmpty then ["-"] else operands

def readsInput (files : List String) : Bool :=
  files.contains "-"

def cat (c : Call) : Reply :=
  let files := filesOr (c.args.filter (· ≠ "-u"))
  let step (input : Bytes) (acc : List (Bool × Bytes) × Int) (file : String) :
      List (Bool × Bytes) × Int :=
    match c.read input file with
    | .ok bytes => (acc.1 ++ [(false, bytes)], acc.2)
    | .error e =>
      (acc.1 ++ [c.complaint (file ++ ": " ++ e.reason)], 1)
  if files = ["-"] then
    let limit := c.world.killTime c.deadline
    let chunks := c.input.chunks.filter fun (time, _) => limit.all (time < ·)
    let writes := chunks.map fun (time, bytes) => ⟨time, false, bytes⟩
    let ending : Ending :=
      match c.input.close, limit with
      | some time, some limit =>
        if limit ≤ time then .killed (max limit c.world.clock) else .exited 0 time
      | some time, none => .exited 0 time
      | none, some limit => .killed (max limit c.world.clock)
      | none, none => .endless (c.input.endless.getD [])
    ⟨c.world.files, c.world.token, writes, none, ending⟩
  else
    c.perform ⟨readsInput files, fun input =>
      let (writes, code) := files.foldl (step input) ([], 0)
      ⟨c.world.files, writes, code⟩⟩

/-- A count of lines or bytes: from the beginning, from the end, or from a place on. -/
inductive Amount where
  | first (n : Nat)
  | allBut (n : Nat)
  | last (n : Nat)
  | starting (n : Nat)

def Amount.pick {α : Type} (a : Amount) (xs : List α) : List α :=
  match a with
  | .first n => xs.take n
  | .allBut n => xs.take (xs.length - n)
  | .last n => xs.drop (xs.length - n)
  | .starting n => xs.drop (n - 1)

/-- Lines with their line feeds; the last one may have none. -/
def fullLines (bytes : Bytes) : List Bytes :=
  let ls := lines bytes
  if bytes.getLast? = some feed then ls.map (· ++ [feed])
  else (ls.dropLast.map (· ++ [feed])) ++ ls.getLast?.toList

def pickFrom (a : Amount) (ofBytes : Bool) (bytes : Bytes) : Bytes :=
  if ofBytes then a.pick bytes else (a.pick (fullLines bytes)).flatten

def naturalOf? (s : String) : Option Nat :=
  if s.isEmpty then none
  else
    match Printf.leadingDigits 10 s.toList with
    | (some n, []) => some n
    | _ => none

def spellCount (args : List String) : List String :=
  args.flatMap fun a =>
    match a.toList with
    | '-' :: c :: cs => if (c :: cs).all Char.isDigit then ["-n", String.ofList (c :: cs)] else [a]
    | _ => [a]

/-- Several files one after the other, with a heading for each if there is more than one. -/
def withHeadings (c : Call) (files : List String) (show_ : Bytes → Bytes) (input : Bytes) :
    Result :=
  let step (acc : List (Bool × Bytes) × Bool × Int) (file : String) :
      List (Bool × Bytes) × Bool × Int :=
    let (writes, started, code) := acc
    match c.read input file with
    | .ok bytes =>
      let name := if file = "-" then "standard input" else file
      let heading :=
        if files.length ≤ 1 then ""
        else (if started then "\n" else "") ++ "==> " ++ name ++ " <==\n"
      (writes ++ [(false, Text.encode heading ++ show_ bytes)], true, code)
    | .error e =>
      let message := "cannot open " ++ quoted file ++ " for reading: " ++ e.reason
      (writes ++ [c.complaint message], started, 1)
  let (writes, _, code) := files.foldl step ([], false, 0)
  ⟨c.world.files, writes, code⟩

def headAmount? (value : String) : Option Amount :=
  match value.toList with
  | '-' :: cs => (naturalOf? (String.ofList cs)).map .allBut
  | _ => (naturalOf? value).map .first

def tailAmount? (value : String) : Option Amount :=
  match value.toList with
  | '+' :: cs => (naturalOf? (String.ofList cs)).map .starting
  | '-' :: cs => (naturalOf? (String.ofList cs)).map .last
  | _ => (naturalOf? value).map .last

def amountOf (c : Call) (amount? : String → Option Amount) (usual : Amount) :
    Except Result (Amount × Bool × List String) :=
  match optionsOf ['n', 'c'] (spellCount c.args) with
  | .error l => .error (c.refuses ("option requires an argument -- " ++ quoted l.toString) 1)
  | .ok (os, operands) =>
    match os.find? fun o => o.1 = 'n' || o.1 = 'c' with
    | none => .ok (usual, false, operands)
    | some (l, value) =>
      match amount? value with
      | some a => .ok (a, l = 'c', operands)
      | none =>
        let unit := if l = 'c' then "bytes" else "lines"
        .error (c.fails ("invalid number of " ++ unit ++ ": " ++ quoted value) 1)

/-- How many chunks suffice for the beginning of an input: the time of the last of them, their
bytes. -/
def untilEnough (enough : Bytes → Bool) (acc : Bytes) :
    List (Duration × Bytes) → Option (Duration × Bytes)
  | [] => none
  | (time, bytes) :: rest =>
    let acc := acc ++ bytes
    if enough acc then some (time, acc) else untilEnough enough acc rest

/-- Prints the beginning of files. It does not wait for more input than it needs. -/
def head (c : Call) : Reply :=
  match amountOf c headAmount? (.first 10) with
  | .error r => c.perform (.of r)
  | .ok (a, ofBytes, operands) =>
    let files := filesOr operands
    let enough? : Option (Bytes → Bool) :=
      match a with
      | .first n => some fun bs => if ofBytes then n ≤ bs.length else n ≤ feeds bs
      | _ => none
    let early : Option (Duration × Bytes) :=
      match files, enough? with
      | ["-"], some enough =>
        if enough [] then some (c.world.clock, [])
        else
          (untilEnough enough [] c.input.chunks).or
            (c.input.endless.map fun chunk =>
              let rounds := match a with | .first n => n + 1 | _ => 0
              (c.world.clock, c.input.bytes ++ (List.replicate rounds chunk).flatten))
      | _, _ => none
    let show_ := pickFrom a ofBytes
    match early with
    | some (time, bytes) =>
      c.reply (some time) (some bytes.length) fun _ => withHeadings c files show_ bytes
    | none => c.perform ⟨readsInput files, withHeadings c files show_⟩

def tail (c : Call) : Plan :=
  match amountOf c tailAmount? (.last 10) with
  | .error r => .of r
  | .ok (a, ofBytes, operands) =>
    let files := filesOr operands
    ⟨readsInput files, withHeadings c files (pickFrom a ofBytes)⟩

def wordCount (inWord : Bool) (n : Nat) : Bytes → Nat
  | [] => n
  | b :: bs =>
    let blank := (9 ≤ b && b ≤ 13) || b = 32
    if blank then wordCount false n bs
    else wordCount true (if inWord then n else n + 1) bs

def wc (c : Call) : Plan :=
  match optionsOf [] c.args with
  | .error _ => .of (c.refuses "invalid option" 1)
  | .ok (os, operands) =>
    let files := filesOr operands
    let has (l : Char) : Bool := os.any (·.1 = l)
    let all := os.isEmpty
    let counts (bs : Bytes) : List Nat :=
      (if all || has 'l' then [feeds bs] else []) ++
        (if all || has 'w' then [wordCount false 0 bs] else []) ++
        (if has 'm' then [(Text.decodeChars bs).length] else []) ++
        (if all || has 'c' then [bs.length] else [])
    ⟨readsInput files, fun input =>
      let read := files.map fun f => (f, c.read input f)
      let total := read.foldl (fun n (f, r) =>
        match r with
        | .ok bs => if f = "-" then n else n + bs.length
        | .error _ => n) 0
      let single := files.length ≤ 1 && (counts []).length ≤ 1
      let width :=
        if single then 1
        else max (if readsInput files then 7 else 1) (toString total).length
      let row (ns : List Nat) (name : Option String) : String :=
        let cells := ns.map fun n =>
          let t := toString n
          String.ofList (List.replicate (width - t.length) ' ') ++ t
        Text.join " " cells ++ (match name with | some n => " " ++ n | none => "") ++ "\n"
      let step (acc : List (Bool × Bytes) × List Nat × Int) (fr : String × Except OsError Bytes) :
          List (Bool × Bytes) × List Nat × Int :=
        let (writes, sums, code) := acc
        match fr.2 with
        | .ok bs =>
          let ns := counts bs
          let name := if operands.isEmpty then none else some fr.1
          (writes ++ [(false, Text.encode (row ns name))], List.zipWith (· + ·) sums ns, code)
        | .error e =>
          (writes ++ [c.complaint (fr.1 ++ ": " ++ e.reason)], sums, 1)
      let (writes, sums, code) := read.foldl step ([], (counts []).map fun _ => 0, 0)
      let totals :=
        if files.length ≤ 1 then []
        else [(false, Text.encode (row sums (some "total")))]
      ⟨c.world.files, writes ++ totals, code⟩⟩

def bytesLess : Bytes → Bytes → Bool
  | _, [] => false
  | [], _ :: _ => true
  | a :: as, b :: bs => if a = b then bytesLess as bs else a < b

def numberKey (line : Bytes) : Int × Nat :=
  match Printf.decimalOf (Text.decodeLossy line).toList with
  | (some (negative, n, scale), _) => (if negative then -Int.ofNat n else n, scale)
  | (none, _) => (0, 0)

/-- The order of two lines: whether the first one comes first, by number if asked, then byte by
byte. -/
def lineLess (numeric fold : Bool) (a b : Bytes) : Bool :=
  let upper (bs : Bytes) : Bytes := bs.map fun x => if 97 ≤ x && x ≤ 122 then x - 32 else x
  let ka := numberKey a
  let kb := numberKey b
  let left := ka.1 * Int.pow 10 kb.2
  let right := kb.1 * Int.pow 10 ka.2
  if numeric && left ≠ right then left < right
  else if fold && upper a ≠ upper b then bytesLess (upper a) (upper b)
  else bytesLess a b

def sort (c : Call) : Plan :=
  match optionsOf [] c.args with
  | .error _ => .of (c.refuses "invalid option" 2)
  | .ok (os, operands) =>
    let files := filesOr operands
    let has (l : Char) : Bool := os.any (·.1 = l)
    ⟨readsInput files, fun input =>
      let read := files.map fun f => (f, c.read input f)
      match read.find? fun (_, r) => !r.isOk with
      | some (f, .error e) => c.fails ("cannot read: " ++ f ++ ": " ++ e.reason) 2
      | _ =>
        let ls := read.flatMap fun (_, r) => lines (r.toOption.getD [])
        let less := lineLess (has 'n') (has 'f')
        let sorted := ls.mergeSort fun a b => !(if has 'r' then less a b else less b a)
        let key (l : Bytes) : Bytes × Int × Nat :=
          if has 'n' then ([], numberKey l) else (l, 0, 0)
        let unique := sorted.foldr (fun l acc =>
          match acc with
          | m :: _ => if key l = key m then l :: acc.tail else l :: acc
          | [] => [l]) []
        ⟨c.world.files, [(false, unlines (if has 'u' then unique else sorted))], 0⟩⟩

def uniq (c : Call) : Plan :=
  match optionsOf [] c.args with
  | .error _ => .of (c.refuses "invalid option" 1)
  | .ok (os, operands) =>
    let file := operands.headD "-"
    let has (l : Char) : Bool := os.any (·.1 = l)
    ⟨file = "-", fun input =>
      match c.read input file with
      | .error e => c.fails (file ++ ": " ++ e.reason) 1
      | .ok bytes =>
        let groups := (lines bytes).splitBy (· == ·)
        let groups := groups.filter fun g =>
          if has 'd' then 1 < g.length else if has 'u' then g.length ≤ 1 else true
        let text := groups.flatMap fun g =>
          let count := toString g.length
          let label := String.ofList (List.replicate (7 - count.length) ' ') ++ count ++ " "
          (if has 'c' then Text.encode label else []) ++ g.headD [] ++ [feed]
        ⟨c.world.files, [(false, text)], 0⟩⟩

def series (first step last : Int) : Nat → List Int
  | 0 => []
  | n + 1 =>
    if (0 < step && last < first) || (step < 0 && first < last) then []
    else first :: series (first + step) step last n

def seq (c : Call) : Plan :=
  let isNumber (s : String) : Bool := (Printf.leadingInteger s.toList).1.isSome
  let separator? := c.args.head?.filter (· = "-s")
  let (separator, args) :=
    match separator?, c.args with
    | some _, _ :: s :: rest => (s, rest)
    | _, args => ("\n", args)
  match args.find? fun a => !isNumber a with
  | some bad => .of (c.refuses ("invalid floating point argument: " ++ quoted bad) 1)
  | none =>
    let numbers := args.map fun a => ((Printf.leadingInteger a.toList).1).getD 0
    let print (first step last : Int) : Plan :=
      if step = 0 then .of (c.refuses "invalid Zero increment value: '0'" 1)
      else
        let count := (last - first).natAbs / step.natAbs + 2
        let texts := (series first step last count).map fun (n : Int) => toString n
        .of (c.prints (if texts.isEmpty then "" else Text.join separator texts ++ "\n") 0)
    match numbers with
    | [] => .of (c.refuses "missing operand" 1)
    | [last] => print 1 1 last
    | [first, last] => print first 1 last
    | [first, step, last] => print first step last
    | _ => .of (c.refuses ("extra operand " ++ quoted (args.getD 3 "")) 1)

def yes (c : Call) : Reply :=
  let line := Text.encode (Text.join " " (if c.args.isEmpty then ["y"] else c.args) ++ "\n")
  match c.world.killTime c.deadline with
  | some limit =>
    if limit ≤ c.world.clock then
      ⟨c.world.files, c.world.token, [], some 0, .killed c.world.clock⟩
    else ⟨c.world.files, c.world.token, [], some 0, .endless line⟩
  | none => ⟨c.world.files, c.world.token, [], some 0, .endless line⟩

/-- The span of time a text stands for: a number and perhaps a unit. -/
def span? (s : String) : Option Duration :=
  let cs := s.toList
  let (unit, cs) : Nat × List Char :=
    match cs.getLast? with
    | some 's' => (1, cs.dropLast)
    | some 'm' => (60, cs.dropLast)
    | some 'h' => (3600, cs.dropLast)
    | some 'd' => (86400, cs.dropLast)
    | _ => (1, cs)
  match Printf.decimalOf cs with
  | (some (false, n, scale), true) => some (n * unit * 1000000000 / Nat.pow 10 scale)
  | _ => none

def sleep (c : Call) : Reply :=
  if c.args.isEmpty then c.perform (.of (c.refuses "missing operand" 1))
  else
    match c.args.find? fun a => (span? a).isNone with
    | some bad => c.perform (.of (c.refuses ("invalid time interval " ++ quoted bad) 1))
    | none =>
      let total := c.args.foldr (fun a n => (span? a).getD 0 + n) 0
      c.reply (some (c.world.clock + total)) (some 0) fun _ => ⟨c.world.files, [], 0⟩

def printfMessage : Printf.Fault → String
  | .expectedNumber arg => quoted arg ++ ": expected a numeric value"
  | .incomplete arg => quoted arg ++ ": value not completely converted"
  | .outOfRange arg => quoted arg ++ ": Numerical result out of range"
  | .excess arg => "warning: ignoring excess arguments, starting with " ++ quoted arg
  | .invalid spec => spec ++ ": invalid conversion specification"
  | .unfinished spec => spec ++ ": invalid conversion specification"

def printf (c : Call) : Plan :=
  match c.args with
  | [] => .of (c.refuses "missing operand" 1)
  | format :: args =>
    let (format, args) :=
      match format, args with
      | "--", f :: rest => (f, rest)
      | f, rest => (f, rest)
    let (bytes, faults) := Printf.run .tool format args
    let errors :=
      faults.map fun f => c.complaint (printfMessage f)
    let failed := faults.any fun f =>
      match f with
      | .excess _ => false
      | _ => true
    .of ⟨c.world.files, errors ++ [(false, bytes)], if failed then 1 else 0⟩

/-- Prints its arguments; `-e` replaces escapes and `-n` leaves the line open. -/
def echo (c : Call) : Plan :=
  let isOption (a : String) : Bool :=
    match a.toList with
    | '-' :: x :: xs => (x :: xs).all fun l => l = 'n' || l = 'e' || l = 'E'
    | _ => false
  let os := (c.args.takeWhile isOption).flatMap fun a => a.toList.drop 1
  let words := Text.join " " (c.args.dropWhile isOption)
  let (bytes, stopped) :=
    if os.contains 'e' then unescape .leadingZero words else (Text.encode words, false)
  let ending := if os.contains 'n' || stopped then [] else [feed]
  .of ⟨c.world.files, [(false, bytes ++ ending)], 0⟩

end ShellSuite.Tool
