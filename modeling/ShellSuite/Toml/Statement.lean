import ShellSuite.Text.CharSet

set_option autoImplicit false
set_option relaxedAutoImplicit false

/-!
The statements of TOML: headers and assignments. No setting is a fraction or a time, so these values
are refused here.
-/

namespace ShellSuite.Toml

/-- A value as it is written; the keys of an inline table may be dotted. -/
inductive Literal where
  | text (s : String)
  | integer (n : Int)
  | flag (b : Bool)
  | array (items : List Literal)
  | inline (members : List (List String × Literal))
  deriving Inhabited

inductive Statement where
  | header (isArray : Bool) (path : List String)
  | assign (path : List String) (value : Literal)

def dropGap (cs : List Char) : List Char :=
  cs.dropWhile fun c => c == ' ' || c == '\t'

/-- Whether a character may stand in a comment or a text of one line. -/
def isVisible (c : Char) : Bool :=
  c == '\t' || (32 ≤ c.toNat && c.toNat ≠ 127)

def dropBreak? : List Char → Option (List Char)
  | '\n' :: cs => some cs
  | '\r' :: '\n' :: cs => some cs
  | _ => none

def dropComment : List Char → List Char
  | '#' :: cs => cs.dropWhile isVisible
  | cs => cs

def dropIdle : Nat → List Char → List Char
  | 0, cs => cs
  | n + 1, cs =>
    let cs := dropComment (dropGap cs)
    match dropBreak? cs with
    | some cs => dropIdle n cs
    | none => cs

def dropBetween (cs : List Char) : List Char :=
  dropIdle (cs.length + 1) cs

def readEscape : List Char → Option (Char × List Char)
  | 'b' :: cs => some (Char.ofNat 8, cs)
  | 't' :: cs => some ('\t', cs)
  | 'n' :: cs => some ('\n', cs)
  | 'f' :: cs => some (Char.ofNat 12, cs)
  | 'r' :: cs => some ('\r', cs)
  | '"' :: cs => some ('"', cs)
  | '\\' :: cs => some ('\\', cs)
  | 'u' :: cs => readCode 4 cs
  | 'U' :: cs => readCode 8 cs
  | _ => none
where
  /-- The character with a code of so many hexadecimal digits. -/
  readCode (width : Nat) (cs : List Char) : Option (Char × List Char) :=
    let digits := cs.take width
    if digits.length = width && digits.all fun c => (Text.CharSet.hexValue? c).isSome then
      let n := Text.CharSet.hexNumber digits
      if h : n.isValidChar then some (Char.ofNatAux n h, cs.drop width) else none
    else none

def readBasic (acc : List Char) : Nat → List Char → Option (String × List Char)
  | 0, _ => none
  | n + 1, cs =>
    match cs with
    | '"' :: cs => some (String.ofList acc.reverse, cs)
    | '\\' :: cs =>
      match readEscape cs with
      | some (c, cs) => readBasic (c :: acc) n cs
      | none => none
    | c :: cs => if isVisible c then readBasic (c :: acc) n cs else none
    | [] => none

def readRaw (cs : List Char) : Option (String × List Char) :=
  let body := cs.takeWhile fun c => c != '\'' && isVisible c
  match cs.drop body.length with
  | '\'' :: cs => some (String.ofList body, cs)
  | _ => none

/-- What follows a backslash at the end of a line, with the blanks and lines behind it. -/
def dropContinuation? (cs : List Char) : Option (List Char) :=
  (dropBreak? (dropGap cs)).map fun cs => drop (cs.length + 1) cs
where
  /-- Drops blanks and ends of lines. -/
  drop : Nat → List Char → List Char
    | 0, cs => cs
    | n + 1, cs =>
      match dropBreak? (dropGap cs) with
      | some cs => drop n cs
      | none => dropGap cs

/-- Reads a text of several lines up to three quotes; two more may stand in front of them. -/
def readLong (quote : Char) (acc : List Char) : Nat → List Char → Option (String × List Char)
  | 0, _ => none
  | n + 1, cs =>
    match cs with
    | [] => none
    | c :: rest =>
      if c == quote then
        let count := (cs.takeWhile (· == quote)).length
        if count < 3 then readLong quote (List.replicate count quote ++ acc) n (cs.drop count)
        else if count ≤ 5 then
          some (String.ofList (List.replicate (count - 3) quote ++ acc).reverse, cs.drop count)
        else none
      else
        match dropBreak? cs with
        | some cs => readLong quote ('\n' :: acc) n cs
        | none =>
          if c == '\\' && quote == '"' then
            match dropContinuation? rest with
            | some cs => readLong quote acc n cs
            | none =>
              match readEscape rest with
              | some (c, cs) => readLong quote (c :: acc) n cs
              | none => none
          else if isVisible c then readLong quote (c :: acc) n rest
          else none

/-- Reads a text in any kind of quotes; several lines are allowed if `long`. -/
def readText (long : Bool) : List Char → Option (String × List Char)
  | '"' :: '"' :: '"' :: cs =>
    if long then readLong '"' [] (cs.length + 1) ((dropBreak? cs).getD cs) else some ("", '"' :: cs)
  | '\'' :: '\'' :: '\'' :: cs =>
    if long then readLong '\'' [] (cs.length + 1) ((dropBreak? cs).getD cs)
    else some ("", '\'' :: cs)
  | '"' :: cs => readBasic [] (cs.length + 1) cs
  | '\'' :: cs => readRaw cs
  | _ => none

def isBare (c : Char) : Bool :=
  c.isAlphanum || c == '_' || c == '-'

def readKeyPart (cs : List Char) : Option (String × List Char) :=
  match readText false cs with
  | some r => some r
  | none =>
    let bare := cs.takeWhile isBare
    if bare.isEmpty then none else some (String.ofList bare, cs.drop bare.length)

def readKey : Nat → List Char → Option (List String × List Char)
  | 0, _ => none
  | n + 1, cs => do
    let (part, cs) ← readKeyPart (dropGap cs)
    match dropGap cs with
    | '.' :: cs => do
      let (parts, cs) ← readKey n cs
      return (part :: parts, cs)
    | cs => return ([part], cs)

def readDigits (base : Nat) (cs : List Char) : Option Nat :=
  let ok :=
    !cs.isEmpty && cs.head? != some '_' && cs.getLast? != some '_' &&
      !(cs.zip cs.tail).any (· == ('_', '_'))
  if ok then
    (cs.filter (· != '_')).foldlM
      (fun n c => ((Text.CharSet.hexValue? c).filter (· < base)).map (base * n + ·)) 0
  else none

def maxInteger : Nat := Nat.pow 2 63 - 1

def readInteger (word : List Char) : Option Int :=
  let limit (n : Option Nat) : Option Int := (n.filter (· ≤ maxInteger)).map Int.ofNat
  let decimal (cs : List Char) : Option Nat :=
    if 1 < cs.length && cs.head? == some '0' then none else readDigits 10 cs
  match word with
  | '0' :: 'x' :: cs => limit (readDigits 16 cs)
  | '0' :: 'o' :: cs => limit (readDigits 8 cs)
  | '0' :: 'b' :: cs => limit (readDigits 2 cs)
  | '+' :: cs => limit (decimal cs)
  | '-' :: cs => ((decimal cs).filter (· ≤ maxInteger + 1)).map fun n => -Int.ofNat n
  | cs => limit (decimal cs)

def readWord (cs : List Char) : Option (Literal × List Char) :=
  let word := cs.takeWhile fun c => c.isAlphanum || "+-_.:".toList.contains c
  let rest := cs.drop word.length
  if word = "true".toList then some (.flag true, rest)
  else if word = "false".toList then some (.flag false, rest)
  else (readInteger word).map fun n => (.integer n, rest)

mutual

def readLiteral : Nat → List Char → Option (Literal × List Char)
  | 0, _ => none
  | n + 1, cs =>
    match cs with
    | '[' :: cs => do
      let (items, cs) ← readItems n (dropBetween cs)
      return (.array items, cs)
    | '\x7b' :: cs =>
      match dropGap cs with
      | '\x7d' :: cs => some (.inline [], cs)
      | cs => do
        let (members, cs) ← readMembers n cs
        return (.inline members, cs)
    | cs =>
      match readText true cs with
      | some (s, cs) => some (.text s, cs)
      | none => if cs.head? == some '"' || cs.head? == some '\'' then none else readWord cs

/-- Reads the items of an array; a comma may stand behind the last one. -/
def readItems : Nat → List Char → Option (List Literal × List Char)
  | 0, _ => none
  | n + 1, cs =>
    match cs with
    | ']' :: cs => some ([], cs)
    | cs => do
      let (item, cs) ← readLiteral n cs
      match dropBetween cs with
      | ',' :: cs => do
        let (items, cs) ← readItems n (dropBetween cs)
        return (item :: items, cs)
      | ']' :: cs => return ([item], cs)
      | _ => none

def readMembers : Nat → List Char → Option (List (List String × Literal) × List Char)
  | 0, _ => none
  | n + 1, cs => do
    let (key, cs) ← readKey (cs.length + 1) cs
    match cs with
    | '=' :: cs => do
      let (value, cs) ← readLiteral n (dropGap cs)
      match dropGap cs with
      | ',' :: cs => do
        let (members, cs) ← readMembers n cs
        return ((key, value) :: members, cs)
      | '\x7d' :: cs => return ([(key, value)], cs)
      | _ => none
    | _ => none

end

def readStatement : List Char → Option (Statement × List Char)
  | '[' :: '[' :: cs => do
    let (path, cs) ← readKey (cs.length + 1) cs
    match cs with
    | ']' :: ']' :: cs => return (.header true path, cs)
    | _ => none
  | '[' :: cs => do
    let (path, cs) ← readKey (cs.length + 1) cs
    match cs with
    | ']' :: cs => return (.header false path, cs)
    | _ => none
  | cs => do
    let (path, cs) ← readKey (cs.length + 1) cs
    match cs with
    | '=' :: cs => do
      let (value, cs) ← readLiteral (2 * cs.length + 2) (dropGap cs)
      return (.assign path value, cs)
    | _ => none

def readStatements : Nat → List Char → Option (List Statement)
  | 0, _ => none
  | n + 1, cs =>
    match dropBetween cs with
    | [] => some []
    | cs => do
      let (s, cs) ← readStatement cs
      match dropComment (dropGap cs) with
      | [] => return [s]
      | cs => do
        let cs ← dropBreak? cs
        let rest ← readStatements n cs
        return s :: rest

def statements (text : String) : Option (List Statement) :=
  let cs :=
    match text.toList with
    | c :: cs => if c.toNat = 0xFEFF then cs else c :: cs
    | [] => []
  readStatements (cs.length + 1) cs

end ShellSuite.Toml
