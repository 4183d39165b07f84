import ShellSuite.RunLine.Token
import ShellSuite.Sh.Syntax

set_option autoImplicit false
set_option relaxedAutoImplicit false

/-!
Reading shell scripts.
-/

namespace ShellSuite.Sh

structure Source where
  cs : List Char
  line : Nat

namespace Source

def fault {α : Type} (s : Source) (message : String) : Except SyntaxFault α :=
  .error ⟨s.line, message⟩

def skip (s : Source) : Source :=
  match s.cs with
  | '\n' :: cs => ⟨cs, s.line + 1⟩
  | _ :: cs => ⟨cs, s.line⟩
  | [] => s

/-- Behind some characters that are no line ends. -/
def drop (s : Source) (n : Nat) : Source :=
  ⟨s.cs.drop n, s.line⟩

def dropGap (s : Source) : Source :=
  go (s.cs.length + 1) s
where
  /-- Drops in at most so many steps. -/
  go : Nat → Source → Source
    | 0, s => s
    | n + 1, s =>
      match s.cs with
      | ' ' :: cs => go n ⟨cs, s.line⟩
      | '\t' :: cs => go n ⟨cs, s.line⟩
      | '\\' :: '\n' :: cs => go n ⟨cs, s.line + 1⟩
      | '#' :: cs => ⟨cs.dropWhile (· ≠ '\n'), s.line⟩
      | _ => s

def dropLines (s : Source) : Source :=
  go (s.cs.length + 1) s
where
  /-- Drops in at most so many steps. -/
  go : Nat → Source → Source
    | 0, s => s
    | n + 1, s =>
      let s := s.dropGap
      match s.cs with
      | '\n' :: cs => go n ⟨cs, s.line + 1⟩
      | _ => s

end Source

def endsWord (c : Char) : Bool :=
  " \t\n;&|<>()".toList.contains c

def plainWord (s : Source) : String :=
  String.ofList (s.cs.takeWhile fun c => !endsWord c && !"'\"\\$`".toList.contains c)

def closers : List String := ["then", "else", "elif", "fi", "do", "done", "esac", "\x7d"]

def tokenText (s : Source) : String :=
  match s.cs with
  | [] => "end of file"
  | '\n' :: _ => "newline"
  | '&' :: '&' :: _ => "\"&&\""
  | '|' :: '|' :: _ => "\"||\""
  | ';' :: ';' :: _ => "\";;\""
  | c :: _ => if endsWord c then "\"" ++ c.toString ++ "\"" else "\"" ++ plainWord s ++ "\""

def unexpected {α : Type} (s : Source) (expecting : Option String) : Except SyntaxFault α :=
  s.fault ("Syntax error: " ++ tokenText s ++ " unexpected" ++
    match expecting with
    | some word => " (expecting " ++ (if word = "word" then word else "\"" ++ word ++ "\"") ++ ")"
    | none => "")

/-- Where parts end: at the end of a word, at a double quote, at a closing brace, or nowhere. -/
inductive Extent where
  | word
  | quote
  | brace
  | all
  deriving DecidableEq

def pushChar (acc : List Part) (c : Char) (quoted : Bool) : List Part :=
  match acc with
  | .text cs q :: rest =>
    if q = quoted then .text (cs ++ [c]) q :: rest
    else .text [c] quoted :: acc
  | acc => .text [c] quoted :: acc

def arithText (depth : Nat) (acc : List Char) : List Char → Option (List Char × List Char)
  | [] => none
  | ')' :: ')' :: cs =>
    if depth = 0 then some (acc.reverse, cs) else arithText (depth - 1) (')' :: acc) (')' :: cs)
  | ')' :: cs => arithText (depth - 1) (')' :: acc) cs
  | '(' :: cs => arithText (depth + 1) ('(' :: acc) cs
  | c :: cs => arithText depth (c :: acc) cs

def backquoted (acc : List Char) : List Char → Option (List Char × List Char)
  | [] => none
  | '`' :: cs => some (acc.reverse, cs)
  | '\\' :: c :: cs =>
    if c = '`' || c = '\\' || c = '$' then backquoted (c :: acc) cs
    else backquoted (c :: '\\' :: acc) cs
  | c :: cs => backquoted (c :: acc) cs

def hereLines (delimiter : List Char) (strip : Bool) (acc line : List Char) :
    List Char → List Char × List Char
  | [] =>
    let l := stripped line
    (if l = delimiter then acc else acc ++ l, [])
  | '\n' :: cs =>
    let l := stripped line
    if l = delimiter then (acc, cs) else hereLines delimiter strip (acc ++ l ++ ['\n']) [] cs
  | c :: cs => hereLines delimiter strip acc (c :: line) cs
where
  /-- A line that was collected in reverse, without tabs in front of it if asked. -/
  stripped (line : List Char) : List Char :=
    if strip then line.reverse.dropWhile (· = '\t') else line.reverse

def rawText (parts : List Part) : List Char :=
  parts.flatMap fun p =>
    match p with
    | .text cs _ => cs
    | _ => []

def hasQuotes (parts : List Part) : Bool :=
  parts.any fun p =>
    match p with
    | .text _ q => q
    | _ => false

/-- The assignment a word is, if it starts with a name and an equals sign. -/
def assignmentOf? : List Part → Option (String × List Part)
  | .text cs false :: rest =>
    let name := cs.takeWhile (· ≠ '=')
    match cs.drop name.length with
    | '=' :: value =>
      if RunLine.isNameChars name then
        some (String.ofList name, if value.isEmpty then rest else .text value false :: rest)
      else none
    | _ => none
  | _ => none

mutual

def readParts (extent : Extent) (acc : List Part) :
    Nat → Source → Except SyntaxFault (List Part × Source)
  | 0, s => s.fault "Syntax error: script too long"
  | n + 1, s =>
    let quoted := extent = .quote
    match s.cs with
    | [] =>
      match extent with
      | .quote => s.fault "Syntax error: Unterminated quoted string"
      | .brace => s.fault "Syntax error: Missing '\x7d'"
      | _ => .ok (acc.reverse, s)
    | '\\' :: '\n' :: _ => readParts extent acc n s.skip.skip
    | '\\' :: c :: _ =>
      if extent = .quote || extent = .all then
        if "$`\"\\".toList.contains c && !(extent = .all && c = '"') then
          readParts extent (pushChar acc c true) n (s.drop 2)
        else readParts extent (pushChar acc '\\' true) n s.skip
      else readParts extent (pushChar acc c true) n (s.drop 2)
    | '$' :: _ => do
      let (part, s) ← readDollar quoted n s.skip
      match part with
      | .text cs q => readParts extent (cs.foldl (fun acc c => pushChar acc c q) acc) n s
      | part => readParts extent (part :: acc) n s
    | '`' :: cs =>
      match backquoted [] cs with
      | none => s.fault "Syntax error: EOF in backquote substitution"
      | some (inner, rest) => do
        let body ← readProgram n ⟨inner, s.line⟩
        readParts extent (.command body quoted :: acc) n ⟨rest, s.line + (inner.countP (· = '\n'))⟩
    | '"' :: _ =>
      match extent with
      | .quote => .ok (acc.reverse, s.skip)
      | .all => readParts extent (pushChar acc '"' true) n s.skip
      | _ => do
        let (inner, s) ← readParts .quote [] n s.skip
        readParts extent (inner.reverse ++ .text [] true :: acc) n s
    | '\'' :: cs =>
      if extent = .quote || extent = .all then readParts extent (pushChar acc '\'' true) n s.skip
      else
        let body := cs.takeWhile (· ≠ '\'')
        match cs.drop body.length with
        | _ :: rest =>
          readParts extent (.text body true :: acc) n ⟨rest, s.line + body.countP (· = '\n')⟩
        | [] => s.fault "Syntax error: Unterminated quoted string"
    | c :: _ =>
      if extent = .word && endsWord c then .ok (acc.reverse, s)
      else if extent = .brace && c = '\x7d' then .ok (acc.reverse, s.skip)
      else readParts extent (pushChar acc c (quoted || extent = .all)) n s.skip

def readDollar (quoted : Bool) : Nat → Source → Except SyntaxFault (Part × Source)
  | 0, s => s.fault "Syntax error: script too long"
  | n + 1, s =>
    match s.cs with
    | '(' :: '(' :: cs =>
      match arithText 0 [] cs with
      | none => s.fault "Syntax error: Missing '))'"
      | some (inner, rest) => do
        let (body, _) ← readParts .all [] n ⟨inner, s.line⟩
        return (.arith body quoted, ⟨rest, s.line⟩)
    | '(' :: _ => do
      let (body, s) ← readList n s.skip
      match s.cs with
      | ')' :: _ => return (.command body quoted, s.skip)
      | _ => unexpected s (some ")")
    | '\x7b' :: '#' :: '\x7d' :: _ => .ok (.param "#" .plain quoted, s.drop 3)
    | '\x7b' :: '#' :: cs =>
      let name := cs.takeWhile (· ≠ '\x7d')
      .ok (.param (String.ofList name) .length quoted, s.drop (name.length + 3))
    | '\x7b' :: cs =>
      let name := cs.takeWhile RunLine.isNameChar
      let name := if name.isEmpty then cs.take 1 else name
      readModifier quoted (String.ofList name) n (s.drop (name.length + 1))
    | c :: cs =>
      if RunLine.isNameStart c then
        let name := (c :: cs).takeWhile RunLine.isNameChar
        .ok (.param (String.ofList name) .plain quoted, s.drop name.length)
      else if c.isDigit || "@*#?$!-".toList.contains c then
        .ok (.param c.toString .plain quoted, s.skip)
      else .ok (.text ['$'] quoted, s)
    | [] => .ok (.text ['$'] quoted, s)

def readModifier (quoted : Bool) (name : String) : Nat → Source → Except SyntaxFault (Part × Source)
  | 0, s => s.fault "Syntax error: script too long"
  | n + 1, s => do
    let (colon, t) :=
      match s.cs with
      | ':' :: _ => (true, s.skip)
      | _ => (false, s)
    let word (k : Nat) (make : List Part → Modifier) : Except SyntaxFault (Part × Source) := do
      let (parts, s) ← readParts .brace [] n (t.drop k)
      return (.param name (make parts) quoted, s)
    match t.cs with
    | '\x7d' :: _ =>
      if colon then s.fault "Bad substitution"
      else return (.param name .plain quoted, t.skip)
    | '-' :: _ => word 1 (.otherwise colon)
    | '=' :: _ => word 1 (.assign colon)
    | '+' :: _ => word 1 (.instead colon)
    | '?' :: _ => word 1 (.demand colon)
    | '%' :: '%' :: _ => word 2 (.trim true true)
    | '%' :: _ => word 1 (.trim true false)
    | '#' :: '#' :: _ => word 2 (.trim false true)
    | '#' :: _ => word 1 (.trim false false)
    | _ => s.fault "Bad substitution"

def readProgram : Nat → Source → Except SyntaxFault Command
  | 0, s => s.fault "Syntax error: script too long"
  | n + 1, s => do
    let (body, s) ← readList n s
    if s.cs.isEmpty then return body else unexpected s none

def readList : Nat → Source → Except SyntaxFault (Command × Source)
  | 0, s => s.fault "Syntax error: script too long"
  | n + 1, s => do
    let s := s.dropLines
    if s.cs.isEmpty || s.cs.head? = some ')' || closers.contains (plainWord s) ||
        s.cs.take 2 = [';', ';'] then return (.seq [], s)
    else
      let (first, s) ← readItem n s
      let (rest, s) ←
        match s.cs with
        | '\n' :: _ => readList n s
        | _ =>
          if s.cs.isEmpty || s.cs.head? = some ')' || s.cs.take 2 = [';', ';'] ||
              closers.contains (plainWord s) then pure (.seq [], s)
          else readList n s
      match rest with
      | .seq cs => return (.seq (first :: cs), s)
      | c => return (.seq [first, c], s)

def readItem : Nat → Source → Except SyntaxFault (Command × Source)
  | 0, s => s.fault "Syntax error: script too long"
  | n + 1, s => do
    let (c, s) ← readAndOr n s
    let s := s.dropGap
    match s.cs with
    | ';' :: ';' :: _ => return (c, s)
    | ';' :: _ => return (c, s.skip.dropGap)
    | '&' :: '&' :: _ => return (c, s)
    | '&' :: _ => return (.background c, s.skip.dropGap)
    | [] => return (c, s)
    | '\n' :: _ => return (c, s)
    | ')' :: _ => return (c, s)
    | _ => if closers.contains (plainWord s) then return (c, s) else unexpected s none

def readAndOr : Nat → Source → Except SyntaxFault (Command × Source)
  | 0, s => s.fault "Syntax error: script too long"
  | n + 1, s => do
    let (first, s) ← readPipeline n s
    readMore first n s

def readMore (first : Command) : Nat → Source → Except SyntaxFault (Command × Source)
  | 0, s => s.fault "Syntax error: script too long"
  | n + 1, s => do
    let s := s.dropGap
    match s.cs with
    | '&' :: '&' :: _ =>
      let (second, s) ← readPipeline n (s.drop 2).dropLines
      readMore (.and first second) n s
    | '|' :: '|' :: _ =>
      let (second, s) ← readPipeline n (s.drop 2).dropLines
      readMore (.or first second) n s
    | _ => return (first, s)

def readPipeline : Nat → Source → Except SyntaxFault (Command × Source)
  | 0, s => s.fault "Syntax error: script too long"
  | n + 1, s => do
    let s := s.dropGap
    let negate : Bool := plainWord s = "!"
    let s := if negate then (s.drop 1).dropGap else s
    if negate && plainWord s = "!" then unexpected s none
    let (stages, s) ← readStages n s
    match negate, stages with
    | false, [c] => return (c, s)
    | _, cs => return (.pipeline negate cs, s)

def readStages : Nat → Source → Except SyntaxFault (List Command × Source)
  | 0, s => s.fault "Syntax error: script too long"
  | n + 1, s => do
    let (first, s) ← readCommand n s
    let s := s.dropGap
    match s.cs with
    | '|' :: '|' :: _ => return ([first], s)
    | '|' :: _ => do
      let (rest, s) ← readStages n s.skip.dropLines
      return (first :: rest, s)
    | _ => return ([first], s)

def readCommand : Nat → Source → Except SyntaxFault (Command × Source)
  | 0, s => s.fault "Syntax error: script too long"
  | n + 1, s => do
    let s := s.dropGap
    let word := plainWord s
    let rest := s.drop word.length
    if s.cs.head? = some '(' then
      let start := s.skip.dropLines
      if start.cs.head? = some ')' then unexpected start none
      let (body, s) ← readList n s.skip
      match s.cs with
      | ')' :: _ => readTail (.subshell body) n s.skip
      | _ => unexpected s (some ")")
    else if word = "\x7b" then
      let (body, s) ← readList n rest
      let s ← expectWord "\x7d" s
      readTail (.group body) n s
    else if word = "if" then
      let (c, s) ← readIf n rest
      readTail c n s
    else if word = "while" || word = "until" then
      let (test, s) ← readList n rest
      let s ← expectWord "do" s
      let (body, s) ← readList n s
      let s ← expectWord "done" s
      readTail (.loop (word = "until") test body) n s
    else if word = "for" then
      let (c, s) ← readFor n rest.dropGap
      readTail c n s
    else if word = "case" then
      let (subject, s) ← readParts .word [] n rest.dropGap
      if subject.isEmpty then unexpected s (some "word")
      let s ← expectWord "in" s.dropLines
      let (arms, s) ← readArms n s
      readTail (.cases subject arms) n s
    else if closers.contains word then unexpected s none
    else if RunLine.isName word && rest.dropGap.cs.take 2 = ['(', ')'] then
      let (body, s) ← readCommand n (rest.dropGap.drop 2).dropLines
      return (.define word body, s)
    else readSimple s.line [] [] [] n s

def expectWord (word : String) (s : Source) : Except SyntaxFault Source :=
  let s := s.dropLines
  if plainWord s = word then .ok (s.drop word.length) else unexpected s (some word)

def readTail (c : Command) : Nat → Source → Except SyntaxFault (Command × Source)
  | 0, s => s.fault "Syntax error: script too long"
  | n + 1, s => do
    match ← readRedirect? n s.dropGap with
    | none => return (c, s)
    | some (r, s) =>
      match c with
      | .redirected body rs => readTail (.redirected body (rs ++ [r])) n s
      | c => readTail (.redirected c [r]) n s

def readIf : Nat → Source → Except SyntaxFault (Command × Source)
  | 0, s => s.fault "Syntax error: script too long"
  | n + 1, s => do
    let (test, s) ← readList n s
    let s ← expectWord "then" s
    let (yes, s) ← readList n s
    let s := s.dropLines
    let word := plainWord s
    if word = "elif" then
      let (no, s) ← readIf n (s.drop 4)
      return (.choice test yes no, s)
    else if word = "else" then
      let (no, s) ← readList n (s.drop 4)
      let s ← expectWord "fi" s
      return (.choice test yes no, s)
    else
      let s ← expectWord "fi" s
      return (.choice test yes (.seq []), s)

def readFor : Nat → Source → Except SyntaxFault (Command × Source)
  | 0, s => s.fault "Syntax error: script too long"
  | n + 1, s => do
    let name := plainWord s
    if !RunLine.isName name then s.fault "Syntax error: Bad for loop variable"
    else
      let s := (s.drop name.length).dropLines
      let (words, s) ←
        if plainWord s = "in" then do
          let (ws, s) ← readWords n (s.drop 2)
          pure (some ws, s)
        else pure (none, s)
      let s := s.dropGap
      let s := if s.cs.head? = some ';' then s.skip else s
      let s ← expectWord "do" s
      let (body, s) ← readList n s
      let s ← expectWord "done" s
      return (.each name words body, s)

def readWords : Nat → Source → Except SyntaxFault (List (List Part) × Source)
  | 0, s => s.fault "Syntax error: script too long"
  | n + 1, s => do
    let s := s.dropGap
    match s.cs with
    | [] => return ([], s)
    | c :: _ =>
      if endsWord c then return ([], s)
      else
        let (w, s) ← readParts .word [] n s
        let (ws, s) ← readWords n s
        return (w :: ws, s)

def readArms : Nat → Source → Except SyntaxFault (List (List (List Part) × Command) × Source)
  | 0, s => s.fault "Syntax error: script too long"
  | n + 1, s => do
    let s := s.dropLines
    if plainWord s = "esac" then return ([], s.drop 4)
    else
      let s := if s.cs.head? = some '(' then s.skip else s
      let (patterns, s) ← readPatterns n s
      let (body, s) ← readList n s
      let s := s.dropLines
      if s.cs.take 2 = [';', ';'] then
        let (arms, s) ← readArms n (s.drop 2)
        return ((patterns, body) :: arms, s)
      else if plainWord s = "esac" then return ([(patterns, body)], s.drop 4)
      else unexpected s (some ";;")

def readPatterns : Nat → Source → Except SyntaxFault (List (List Part) × Source)
  | 0, s => s.fault "Syntax error: script too long"
  | n + 1, s => do
    let (w, s) ← readParts .word [] n s.dropGap
    let s := s.dropGap
    match s.cs with
    | '|' :: _ => do
      let (ws, s) ← readPatterns n s.skip
      return (w :: ws, s)
    | ')' :: _ => return ([w], s.skip)
    | _ => unexpected s (some ")")

def readRedirect? : Nat → Source → Except SyntaxFault (Option (Redirect × Source))
  | 0, s => s.fault "Syntax error: script too long"
  | n + 1, s => do
    let digits := s.cs.takeWhile Char.isDigit
    let t := s.drop digits.length
    let fd (usual : Nat) : Nat := if digits.isEmpty then usual else RunLine.digitsValue digits
    let target (k usual : Nat) (op : RedirectOp) :
        Except SyntaxFault (Option (Redirect × Source)) := do
      let s := (t.drop k).dropGap
      let (w, after) ← readParts .word [] n s
      if w.isEmpty then unexpected s none else return some (.mk (fd usual) op w, after)
    match t.cs with
    | '>' :: '>' :: _ => target 2 1 .append
    | '>' :: '&' :: _ => target 2 1 .duplicate
    | '>' :: '|' :: _ => target 2 1 .write
    | '>' :: _ => target 1 1 .write
    | '<' :: '<' :: cs => do
      let strip := cs.head? = some '-'
      let s := (t.drop (if strip then 3 else 2)).dropGap
      let (w, after) ← readParts .word [] n s
      let line := after.cs.takeWhile (· ≠ '\n')
      let (body, rest) := hereLines (rawText w) strip [] [] (after.cs.drop (line.length + 1))
      let after : Source := ⟨line ++ '\n' :: rest, after.line⟩
      if hasQuotes w then return some (.mk (fd 0) .here [.text body true], after)
      else
        let (parts, _) ← readParts .all [] n ⟨body, after.line⟩
        return some (.mk (fd 0) .here parts, after)
    | '<' :: '&' :: _ => target 2 0 .duplicate
    | '<' :: _ => target 1 0 .read
    | _ => return none

/-- Reads a simple command: assignments, words and redirections in reverse so far. -/
def readSimple (line : Nat) (assigns : List (String × List Part)) (words : List (List Part))
    (redirects : List Redirect) : Nat → Source → Except SyntaxFault (Command × Source)
  | 0, s => s.fault "Syntax error: script too long"
  | n + 1, s => do
    let s := s.dropGap
    match ← readRedirect? n s with
    | some (r, s) => readSimple line assigns words (r :: redirects) n s
    | none =>
      if s.cs.isEmpty || (s.cs.head?.any endsWord) then
        if assigns.isEmpty && words.isEmpty && redirects.isEmpty then unexpected s none
        else return (.simple line assigns.reverse words.reverse redirects.reverse, s)
      else
        let (w, s) ← readParts .word [] n s
        match if words.isEmpty then assignmentOf? w else none with
        | some a => readSimple line (a :: assigns) words redirects n s
        | none => readSimple line assigns (w :: words) redirects n s

end

def readLine (s : Source) : Except SyntaxFault (Option (Command × Source)) :=
  let s := s.dropLines
  if s.cs.isEmpty then .ok none
  else
    let fuel := 16 * s.cs.length + 16
    let rec items : Nat → List Command → Source → Except SyntaxFault (Option (Command × Source))
      | 0, acc, s => .ok (some (.seq acc.reverse, s))
      | n + 1, acc, s => do
        let (c, s) ← readItem fuel s
        match s.cs with
        | [] => return some (.seq (c :: acc).reverse, s)
        | '\n' :: _ => return some (.seq (c :: acc).reverse, s)
        | x :: _ =>
          if x = ')' || s.cs.take 2 = [';', ';'] || closers.contains (plainWord s) then
            unexpected s none
          else items n (c :: acc) s
    items (s.cs.length + 1) [] s

end ShellSuite.Sh
