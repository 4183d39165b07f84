import ShellSuite.Text.CharSet

set_option autoImplicit false
set_option relaxedAutoImplicit false

/-!
The tokens of YAML. Indentation becomes tokens of its own, and a key is only known as such when the
colon behind it is reached: its tokens are then put in where it started.
-/

namespace ShellSuite.Yaml

inductive Style where
  | plain
  | quoted
  | literal
  | folded
  deriving DecidableEq, Repr

inductive Token where
  | version
  | tagHandle (handle expansion : String)
  | documentStart
  | documentEnd
  | blockSequenceStart
  | blockMappingStart
  | blockEnd
  | flowSequenceStart
  | flowSequenceEnd
  | flowMappingStart
  | flowMappingEnd
  | blockEntry
  | flowEntry
  | key
  | value
  | alias (name : String)
  | anchor (name : String)
  | tag (handle suffix : String)
  | scalar (text : String) (style : Style)
  deriving DecidableEq, Repr

def isBreak (c : Char) : Bool :=
  c == '\n' || c.toNat == 0x2028 || c.toNat == 0x2029

def isGap (c : Char) : Bool :=
  c == ' ' || c == '\t'

/-- Whether a space, a tab, the end of a line or the end of the text follows. -/
def gapFollows : List Char → Bool
  | [] => true
  | c :: _ => isGap c || isBreak c

def breakFollows : List Char → Bool
  | [] => true
  | c :: _ => isBreak c

def documentMarkFollows : List Char → Bool
  | '-' :: '-' :: '-' :: cs => gapFollows cs
  | '.' :: '.' :: '.' :: cs => gapFollows cs
  | _ => false

def isAllowed (c : Char) : Bool :=
  let n := c.toNat
  n == 9 || n == 10 || n == 13 || (32 ≤ n && n ≤ 126) || n == 0x85 || (0xA0 ≤ n && n ≤ 0xD7FF) ||
    (0xE000 ≤ n && n ≤ 0xFFFD && n ≠ 0xFEFF) || 0x10000 ≤ n

def normaliseBreaks : List Char → List Char
  | [] => []
  | '\r' :: '\n' :: cs => '\n' :: normaliseBreaks cs
  | c :: cs => (if c == '\r' || c.toNat == 0x85 then '\n' else c) :: normaliseBreaks cs

structure Place where
  rest : List Char
  line : Nat
  column : Nat
  index : Nat

def Place.next (p : Place) : Place :=
  match p.rest with
  | [] => p
  | c :: cs =>
    if isBreak c then ⟨cs, p.line + 1, 0, p.index + 1⟩ else ⟨cs, p.line, p.column + 1, p.index + 1⟩

def Place.skip (p : Place) : Nat → Place
  | 0 => p
  | n + 1 => p.next.skip n

def Place.skipWhile (p : Place) (test : Char → Bool) : Place :=
  p.skip (p.rest.takeWhile test).length

/-- A place where a key may have started: whether it has to be one, the number of its first token,
and where it is. -/
structure PossibleKey where
  required : Bool
  token : Nat
  line : Nat
  column : Nat
  index : Nat

/-- The state of the reader: the tokens so far in reverse, the columns of the open blocks, the depth
of brackets, whether a key may start here, and for each depth the key that may have started. -/
structure Scanner where
  place : Place
  tokens : List Token
  indent : Int
  indents : List Int
  flow : Nat
  keyAllowed : Bool
  keys : List (Option PossibleKey)

namespace Scanner

def start (cs : List Char) : Scanner :=
  ⟨⟨cs, 0, 0, 0⟩, [], -1, [], 0, true, [none]⟩

def column (s : Scanner) : Int :=
  s.place.column

def push (s : Scanner) (t : Token) : Scanner :=
  { s with tokens := t :: s.tokens }

def insertAt (s : Scanner) (number : Nat) (t : Token) : Scanner :=
  let later := s.tokens.length - number
  { s with tokens := s.tokens.take later ++ t :: s.tokens.drop later }

def unroll (s : Scanner) (column : Int) : Nat → Scanner
  | 0 => s
  | n + 1 =>
    if s.flow = 0 && column < s.indent then
      unroll { s with
        tokens := .blockEnd :: s.tokens
        indent := s.indents.headD (-1)
        indents := s.indents.tail } column n
    else s

def closeBlocks (s : Scanner) (column : Int) : Scanner :=
  s.unroll column (s.indents.length + 1)

/-- Opens a block at a column, if it is indented more than the present one; its token is put in
front of the token with a number. -/
def openBlock (s : Scanner) (column : Int) (number : Nat) (t : Token) : Scanner :=
  if s.flow = 0 && s.indent < column then
    { s with indent := column, indents := s.indent :: s.indents }.insertAt number t
  else s

/-- Gives up the key that may have started at this depth; one that has to be there is missed. -/
def dropKey (s : Scanner) : Option Scanner :=
  match s.keys with
  | some k :: ks => if k.required then none else some { s with keys := none :: ks }
  | _ => some s

def saveKey (s : Scanner) : Option Scanner :=
  if s.keyAllowed then do
    let s ← s.dropKey
    let k : PossibleKey :=
      ⟨s.flow = 0 && s.indent = s.column, s.tokens.length, s.place.line, s.place.column,
        s.place.index⟩
    return { s with keys := some k :: s.keys.tail }
  else some s

/-- The key that a colon at this place completes: it is on the same line and not too long. -/
def validKey (s : Scanner) : Option (Option PossibleKey) :=
  match s.keys with
  | some k :: _ =>
    if k.line < s.place.line || k.index + 1024 < s.place.index then
      if k.required then none else some none
    else some (some k)
  | _ => some none

def toNextToken (s : Scanner) : Nat → Scanner
  | 0 => s
  | n + 1 =>
    let p := s.place.skipWhile fun c => c == ' ' || (c == '\t' && (0 < s.flow || !s.keyAllowed))
    let p := if p.rest.head? == some '#' then p.skipWhile fun c => !isBreak c else p
    match p.rest with
    | c :: _ =>
      if isBreak c then
        toNextToken { s with place := p.next, keyAllowed := s.flow = 0 || s.keyAllowed } n
      else { s with place := p }
    | [] => { s with place := p }

def take (s : Scanner) (n : Nat) (t : Token) : Scanner :=
  { s with place := s.place.skip n }.push t

end Scanner

/-- Whether a character can stand in the name of an anchor or a handle. -/
def isWordChar (c : Char) : Bool :=
  c.isAlphanum || c == '_' || c == '-'

/-- The blanks between two parts of a scalar: those of the present line, and if a line has ended its
break and the breaks behind it. -/
structure Gap where
  blanks : List Char
  broken : Bool
  first : List Char
  more : List Char

namespace Gap

def none : Gap := ⟨[], false, [], []⟩

/-- Adds a space or a tab; at the start of a line they do not count. -/
def addBlank (g : Gap) (c : Char) : Gap :=
  if g.broken then g else { g with blanks := c :: g.blanks }

def addBreak (g : Gap) (c : Char) : Gap :=
  if g.broken then { g with more := c :: g.more } else ⟨[], true, [c], []⟩

/-- What the blanks stand for: one line break is a space, more of them lose the first one. -/
def fold (g : Gap) : List Char :=
  if !g.broken then g.blanks.reverse
  else if g.first = ['\n'] then if g.more.isEmpty then [' '] else g.more.reverse
  else g.first ++ g.more.reverse

end Gap

def escaped? (c : Char) : Option Char :=
  match c with
  | '0' => some (Char.ofNat 0)
  | 'a' => some (Char.ofNat 7)
  | 'b' => some (Char.ofNat 8)
  | 't' => some '\t'
  | '\t' => some '\t'
  | 'n' => some '\n'
  | 'v' => some (Char.ofNat 11)
  | 'f' => some (Char.ofNat 12)
  | 'r' => some '\r'
  | 'e' => some (Char.ofNat 27)
  | ' ' => some ' '
  | '"' => some '"'
  | '/' => some '/'
  | '\\' => some '\\'
  | 'N' => some (Char.ofNat 0x85)
  | '_' => some (Char.ofNat 0xA0)
  | 'L' => some (Char.ofNat 0x2028)
  | 'P' => some (Char.ofNat 0x2029)
  | _ => none

def escapeWidth? (c : Char) : Option Nat :=
  match c with
  | 'x' => some 2
  | 'u' => some 4
  | 'U' => some 8
  | _ => none

def charOfHex? (digits : List Char) : Option Char :=
  if digits.all fun c => (Text.CharSet.hexValue? c).isSome then
    let n := Text.CharSet.hexNumber digits
    if h : n.isValidChar then some (Char.ofNatAux n h) else none
  else none

/-- Reads a scalar in quotes from behind the opening one: its text in reverse so far. -/
def readQuoted (single : Bool) (acc : List Char) (gap : Gap) :
    Nat → Place → Option (List Char × Place)
  | 0, _ => none
  | n + 1, p =>
    match p.rest with
    | [] => none
    | c :: cs =>
      if isGap c then readQuoted single acc (gap.addBlank c) n p.next
      else if isBreak c then readQuoted single acc (gap.addBreak c) n p.next
      else if p.column = 0 && documentMarkFollows p.rest then none
      else
        let acc := gap.fold.reverse ++ acc
        if single then
          if c == '\'' then
            if cs.head? == some '\'' then readQuoted single ('\'' :: acc) .none n (p.skip 2)
            else some (acc, p.next)
          else readQuoted single (c :: acc) .none n p.next
        else if c == '"' then some (acc, p.next)
        else if c == '\\' then
          match cs with
          | [] => none
          | e :: es =>
            if isBreak e then readQuoted single acc ⟨[], true, [], []⟩ n (p.skip 2)
            else
              match escaped? e, escapeWidth? e with
              | some d, _ => readQuoted single (d :: acc) .none n (p.skip 2)
              | none, some width =>
                if (es.take width).length < width then none
                else
                  match charOfHex? (es.take width) with
                  | some d => readQuoted single (d :: acc) .none n (p.skip (2 + width))
                  | none => none
              | none, none => none
        else readQuoted single (c :: acc) .none n p.next

/-- Whether a character ends a plain scalar, given what follows it. -/
def endsPlain (flow : Bool) (c : Char) (after : List Char) : Bool :=
  (c == ':' && gapFollows after) ||
    (flow && (c == ',' || c == '[' || c == ']' || c == '\x7b' || c == '\x7d'))

/-- Whether a colon stands where it has no meaning between brackets. -/
def isStrayColon (flow : Bool) (c : Char) (after : List Char) : Bool :=
  flow && c == ':' &&
    after.head?.any fun d =>
      d == ',' || d == '?' || d == '[' || d == ']' || d == '\x7b' || d == '\x7d'

/-- Reads a plain scalar: its text in reverse, whether a line ended behind it, and the place where
it is known to have ended. Lines that go on are indented by at least `indent`. -/
def readPlain (flow : Bool) (indent : Int) (acc : List Char) (gap : Gap) (inGap : Bool) :
    Nat → Place → Option (List Char × Bool × Place)
  | 0, _ => none
  | n + 1, p =>
    match p.rest with
    | [] => some (acc, gap.broken, p)
    | c :: cs =>
      if isGap c then
        if gap.broken && p.column < indent && c == '\t' then none
        else readPlain flow indent acc (gap.addBlank c) true n p.next
      else if isBreak c then readPlain flow indent acc (gap.addBreak c) true n p.next
      else if inGap &&
          ((!flow && p.column < indent) || (p.column = 0 && documentMarkFollows p.rest) ||
            c == '#') then
        some (acc, gap.broken, p)
      else if isStrayColon flow c cs then none
      else if endsPlain flow c cs then some (acc, gap.broken, p)
      else readPlain flow indent (c :: (gap.fold.reverse ++ acc)) .none false n p.next

inductive Chomping where
  | clip
  | strip
  | keep
  deriving DecidableEq, Repr

/-- Skips the indentation and the empty lines of a block scalar: the breaks in reverse, the deepest
column, and the place behind. An indentation of zero is not known yet. -/
def readEmptyLines (indent : Int) (breaks : List Char) (deepest : Int) :
    Nat → Place → Option (List Char × Int × Place)
  | 0, _ => none
  | n + 1, p =>
    let spaces := (p.rest.takeWhile (· == ' ')).length
    let p := p.skip (if indent = 0 then spaces else min spaces (indent - p.column).toNat)
    let deepest := max deepest p.column
    match p.rest with
    | c :: _ =>
      if c == '\t' && (indent = 0 || p.column < indent) then none
      else if isBreak c then readEmptyLines indent (c :: breaks) deepest n p.next
      else some (breaks, deepest, p)
    | [] => some (breaks, deepest, p)

/-- The lines of a block scalar: the text in reverse, the break of the last line, and the breaks
behind it in reverse. -/
def readBlockLines (literal : Bool) (indent : Int) (acc : List Char) (lineBreak : List Char)
    (wasBlank : Bool) (breaks : List Char) :
    Nat → Place → Option (List Char × List Char × List Char × Place)
  | 0, _ => none
  | n + 1, p =>
    match p.rest with
    | [] => some (acc, lineBreak, breaks, p)
    | c :: _ =>
      if p.column ≠ indent then some (acc, lineBreak, breaks, p)
      else
        let isBlank := isGap c
        let joined :=
          if !literal && lineBreak = ['\n'] && !wasBlank && !isBlank then
            if breaks.isEmpty then [' '] else []
          else lineBreak
        let acc := breaks ++ joined.reverse ++ acc
        let line := p.rest.takeWhile fun c => !isBreak c
        let p := p.skip line.length
        let lineBreak := p.rest.take 1
        match readEmptyLines indent [] 0 (p.rest.length + 1) p.next with
        | none => none
        | some (breaks, _, p) =>
          readBlockLines literal indent (line.reverse ++ acc) lineBreak isBlank breaks n p

/-- The signs behind the mark of a block scalar: how its end is treated and how far it is
indented. -/
def readHeader (p : Place) : Option (Chomping × Nat × Place) :=
  let chomping (c : Char) : Option Chomping :=
    if c == '+' then some .keep else if c == '-' then some .strip else none
  match p.rest with
  | a :: b :: _ =>
    match chomping a with
    | some k =>
      if b == '0' then none
      else if b.isDigit then some (k, b.toNat - '0'.toNat, p.skip 2)
      else some (k, 0, p.skip 1)
    | none =>
      if a == '0' then none
      else if a.isDigit then
        match chomping b with
        | some k => some (k, a.toNat - '0'.toNat, p.skip 2)
        | none => some (.clip, a.toNat - '0'.toNat, p.skip 1)
      else some (.clip, 0, p)
  | [a] =>
    match chomping a with
    | some k => some (k, 0, p.skip 1)
    | none =>
      if a == '0' then none
      else if a.isDigit then some (.clip, a.toNat - '0'.toNat, p.skip 1)
      else some (.clip, 0, p)
  | [] => some (.clip, 0, p)

def readBlock (literal : Bool) (parent : Int) (p : Place) : Option (List Char × Place) := do
  let (chomping, increment, p) ← readHeader p
  let p := p.skipWhile isGap
  let p := if p.rest.head? == some '#' then p.skipWhile fun c => !isBreak c else p
  if !breakFollows p.rest then none
  else
    let p := p.next
    let given : Int :=
      if increment = 0 then 0 else if 0 ≤ parent then parent + increment else increment
    let (breaks, deepest, p) ← readEmptyLines given [] 0 (p.rest.length + 1) p
    let indent := if given = 0 then max (max deepest (parent + 1)) 1 else given
    let (acc, lineBreak, breaks, p) ←
      readBlockLines literal indent [] [] false breaks (p.rest.length + 1) p
    let acc := if chomping = .strip then acc else lineBreak.reverse ++ acc
    let acc := if chomping = .keep then breaks ++ acc else acc
    return (acc, p)

def isTagChar (verbatim : Bool) (c : Char) : Bool :=
  isWordChar c || ";/?:@&=+$.%!~*'()".toList.contains c || (verbatim && ",[]".toList.contains c)

/-- Reads a tag: its handle, its suffix and the place behind. -/
def readTag (p : Place) : Option (String × String × Place) :=
  match p.rest with
  | '!' :: '<' :: cs =>
    let suffix := cs.takeWhile (isTagChar true)
    match cs.drop suffix.length with
    | '>' :: _ =>
      if suffix.isEmpty then none else some ("", String.ofList suffix, p.skip (suffix.length + 3))
    | _ => none
  | '!' :: cs =>
    let word := cs.takeWhile isWordChar
    match cs.drop word.length with
    | '!' :: after =>
      let suffix := after.takeWhile (isTagChar false)
      if suffix.isEmpty then none
      else
        some (String.ofList ('!' :: word ++ ['!']), String.ofList suffix,
          p.skip (word.length + 2 + suffix.length))
    | after =>
      let suffix := word ++ after.takeWhile (isTagChar false)
      if suffix.isEmpty then some ("", "!", p.skip 1)
      else some ("!", String.ofList suffix, p.skip (1 + suffix.length))
  | _ => none

namespace Scanner

def directive (s : Scanner) : Option Scanner := do
  let s ← (s.closeBlocks (-1)).dropKey
  let s := { s with keyAllowed := false }
  let line := s.place.rest.takeWhile fun c => !isBreak c
  let finish (rest : List Char) (t : Token) : Option Scanner :=
    match rest.dropWhile isGap with
    | [] => some (s.take line.length t)
    | '#' :: _ => some (s.take line.length t)
    | _ => none
  match line with
  | '%' :: 'Y' :: 'A' :: 'M' :: 'L' :: rest =>
    match rest.dropWhile isGap with
    | '1' :: '.' :: '1' :: after =>
      if gapFollows rest && gapFollows after then finish after .version
      else none
    | '1' :: '.' :: '2' :: after =>
      if gapFollows rest && gapFollows after then finish after .version
      else none
    | _ => none
  | '%' :: 'T' :: 'A' :: 'G' :: rest =>
    match rest.dropWhile isGap with
    | '!' :: rest' =>
      let word := rest'.takeWhile isWordChar
      let after := rest'.drop word.length
      let handle : Option (List Char × List Char) :=
        match after with
        | '!' :: after => some ('!' :: word ++ ['!'], after)
        | after => if word.isEmpty then some (['!'], after) else none
      match handle with
      | some (handle, after) =>
        let expansion := (after.dropWhile isGap).takeWhile (isTagChar true)
        let after' := (after.dropWhile isGap).drop expansion.length
        if gapFollows rest && gapFollows after && !expansion.isEmpty && gapFollows after' then
          finish after' (.tagHandle (String.ofList handle) (String.ofList expansion))
        else none
      | none => none
    | _ => none
  | _ => none

/-- Reads a scalar, an alias or properties, which may be the start of a key. -/
def content (s : Scanner) (read : Place → Option (Token × Bool × Place)) : Option Scanner := do
  let s ← s.saveKey
  let (t, newLine, p) ← read s.place
  return { s with place := p, keyAllowed := newLine }.push t

def readName (make : String → Token) (p : Place) : Option (Token × Bool × Place) :=
  let name := p.next.rest.takeWhile isWordChar
  let after := p.next.rest.drop name.length
  if name.isEmpty then none
  else if gapFollows after || after.head?.any fun c => "?:,]\x7d%@`".toList.contains c then
    some (make (String.ofList name), false, p.skip (1 + name.length))
  else none

def openFlow (s : Scanner) (t : Token) : Option Scanner := do
  let s ← s.saveKey
  return { s with flow := s.flow + 1, keys := none :: s.keys, keyAllowed := true }.take 1 t

def closeFlow (s : Scanner) (t : Token) : Option Scanner := do
  let s ← s.dropKey
  let keys := if s.flow = 0 then s.keys else s.keys.tail
  return { s with flow := s.flow - 1, keys := keys, keyAllowed := false }.take 1 t

def entry (s : Scanner) : Option Scanner := do
  let s ←
    if s.flow = 0 then
      if s.keyAllowed then some (s.openBlock s.column s.tokens.length .blockSequenceStart) else none
    else some s
  let s ← s.dropKey
  return { s with keyAllowed := true }.take 1 .blockEntry

def explicitKey (s : Scanner) : Option Scanner := do
  let s ←
    if s.flow = 0 then
      if s.keyAllowed then some (s.openBlock s.column s.tokens.length .blockMappingStart) else none
    else some s
  let s ← s.dropKey
  return { s with keyAllowed := s.flow = 0 }.take 1 .key

/-- Reads a colon: the key in front of it gets its tokens now. -/
def colon (s : Scanner) : Option Scanner := do
  match ← s.validKey with
  | some k =>
    let s := (s.insertAt k.token .key).openBlock k.column k.token .blockMappingStart
    return { s with keys := none :: s.keys.tail, keyAllowed := false }.take 1 .value
  | none =>
    let s := { s with keys := none :: s.keys.tail }
    let s ←
      if s.flow = 0 then
        if s.keyAllowed then some (s.openBlock s.column s.tokens.length .blockMappingStart)
        else none
      else some s
    return { s with keyAllowed := s.flow = 0 }.take 1 .value

def fetch (s : Scanner) (c : Char) (cs : List Char) : Option Scanner :=
  let p := s.place
  let inFlow := 0 < s.flow
  if c == '%' && p.column = 0 then s.directive
  else if p.column = 0 && documentMarkFollows p.rest then do
    let s ← (s.closeBlocks (-1)).dropKey
    return { s with keyAllowed := false }.take 3 (if c == '-' then .documentStart else .documentEnd)
  else if c == '[' then s.openFlow .flowSequenceStart
  else if c == '\x7b' then s.openFlow .flowMappingStart
  else if c == ']' then s.closeFlow .flowSequenceEnd
  else if c == '\x7d' then s.closeFlow .flowMappingEnd
  else if c == ',' then do
    let s ← s.dropKey
    return { s with keyAllowed := true }.take 1 .flowEntry
  else if c == '-' && gapFollows cs then s.entry
  else if c == '?' && (inFlow || gapFollows cs) then s.explicitKey
  else if c == ':' && (inFlow || gapFollows cs) then s.colon
  else if c == '*' then s.content (readName .alias)
  else if c == '&' then s.content (readName .anchor)
  else if c == '!' then
    s.content fun p => do
      let (handle, suffix, p) ← readTag p
      if gapFollows p.rest || (inFlow && p.rest.head? == some ',') then
        some (.tag handle suffix, false, p)
      else none
  else if (c == '|' || c == '>') && !inFlow then do
    let s ← s.dropKey
    let (acc, p) ← readBlock (c == '|') s.indent s.place.next
    let style := if c == '|' then Style.literal else Style.folded
    let text := String.ofList acc.reverse
    return { s with place := p, keyAllowed := true }.push (.scalar text style)
  else if c == '\'' || c == '"' then
    s.content fun p => do
      let (acc, p) ← readQuoted (c == '\'') [] .none (p.rest.length + 1) p.next
      some (.scalar (String.ofList acc.reverse) .quoted, false, p)
  else if ((!"-?:,[]\x7b\x7d#&*!|>'\"%@`".toList.contains c) || (c == '-' && !gapFollows cs) ||
      (!inFlow && (c == '?' || c == ':') && !gapFollows cs)) then
    s.content fun p => do
      let (acc, newLine, p) ← readPlain inFlow (s.indent + 1) [] .none false (p.rest.length + 1) p
      some (.scalar (String.ofList acc.reverse) .plain, newLine, p)
  else none

def run : Nat → Scanner → Option (List Token)
  | 0, _ => none
  | n + 1, s =>
    let s := s.toNextToken (s.place.rest.length + 1)
    let s := s.closeBlocks s.column
    match s.place.rest with
    | [] => (s.closeBlocks (-1)).dropKey.map fun s => s.tokens.reverse
    | c :: cs =>
      match s.fetch c cs with
      | some s => run n s
      | none => none

end Scanner

def tokens (text : String) : Option (List Token) :=
  let cs :=
    match text.toList with
    | c :: cs => if c.toNat = 0xFEFF then cs else c :: cs
    | [] => []
  if cs.all isAllowed then
    let cs := normaliseBreaks cs
    (Scanner.start cs).run (cs.length + 1)
  else none

end ShellSuite.Yaml
