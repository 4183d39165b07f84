import ShellSuite.Text.CharClass
import ShellSuite.Text.Script
import ShellSuite.Regex.Syntax
import ShellSuite.Text.Blank
import ShellSuite.Text.Pieces

set_option autoImplicit false
set_option relaxedAutoImplicit false

/-!
Reading regular expressions. The reader takes one construct after the other off the pattern; open
groups wait on a stack together with the flags that hold again behind them. What the next construct
is depends on the pattern and on the flags only.
-/

namespace ShellSuite.Regex

open Text (CharSet)

inductive Fault where
  | unopenedGroup
  | unclosedGroup
  | unclosedClass
  | nothingToRepeat
  | badCount
  | badRange
  | badEscape
  | badFlags
  | badGroupName
  | unknownClass
  | notText
  | tooDeep
  | tooLarge
  deriving DecidableEq, Repr

def Fault.message : Fault → String
  | .unopenedGroup => "unopened group"
  | .unclosedGroup => "unclosed group"
  | .unclosedClass => "unclosed character class"
  | .nothingToRepeat => "repetition operator missing expression"
  | .badCount => "invalid repetition count"
  | .badRange => "invalid character class range"
  | .badEscape => "unrecognized escape sequence"
  | .badFlags => "unrecognized flags"
  | .badGroupName => "invalid or repeated group name"
  | .unknownClass => "unknown class of characters"
  | .notText => "pattern can match what is not text"
  | .tooDeep => "pattern is nested too deeply"
  | .tooLarge => "pattern is too large"

structure Flags where
  ignoreCase : Bool
  multiLine : Bool
  dotNewline : Bool
  swapGreed : Bool
  unicode : Bool
  returns : Bool
  verbose : Bool
  deriving DecidableEq, Repr

def Flags.initial : Flags := ⟨false, false, false, false, true, false, false⟩

def Flags.set (f : Flags) (letter : Char) (on : Bool) : Option Flags :=
  match letter with
  | 'i' => some { f with ignoreCase := on }
  | 'm' => some { f with multiLine := on }
  | 's' => some { f with dotNewline := on }
  | 'U' => some { f with swapGreed := on }
  | 'u' => some { f with unicode := on }
  | 'R' => some { f with returns := on }
  | 'x' => some { f with verbose := on }
  | _ => none

/-- Drops blanks and comments; inside a comment up to the end of its line. -/
def dropIdle (comment : Bool) : List Char → List Char
  | [] => []
  | c :: cs =>
    if comment then dropIdle (c != '\n') cs
    else if Text.isBlank c then dropIdle false cs
    else if c == '#' then dropIdle true cs
    else c :: cs

def Flags.skip (f : Flags) (cs : List Char) : List Char :=
  if f.verbose then dropIdle false cs else cs

def Flags.word (f : Flags) : CharSet :=
  if f.unicode then .word else .asciiWord

/-- A set with both cases, if case is ignored. -/
def Flags.fold (f : Flags) (s : CharSet) : CharSet :=
  if !f.ignoreCase then s else if f.unicode then s.foldCase else s.foldAsciiCase

/-- One unit of a pattern: a character (given as a byte or not), a class or a condition. -/
inductive Atom where
  | literal (c : Char) (byte : Bool)
  | set (s : CharSet)
  | look (l : Look)
  deriving DecidableEq, Repr

def metaChars : List Char :=
  "\\.+*?()|[]\x7b\x7d^$#&-~".toList

/-- Whether a backslash in front of a character stands for the character itself. -/
def isEscapable (c : Char) : Bool :=
  metaChars.contains c ||
    (c.toNat < 128 && !c.isAlphanum && c != '<' && c != '>')

def charOfCode? (n : Nat) : Option Char :=
  if h : n.isValidChar then some (Char.ofNatAux n h) else none

def readBracedHex (f : Flags) (digits : List Char) : List Char → Except Fault (Nat × List Char)
  | [] => .error .badEscape
  | c :: cs =>
    if Text.isBlank c && f.verbose then readBracedHex f digits cs
    else if c == '\x7d' then
      if digits.isEmpty then .error .badEscape
      else .ok (CharSet.hexNumber digits.reverse, f.skip cs)
    else if (CharSet.hexValue? c).isSome then readBracedHex f (c :: digits) cs
    else .error .badEscape

def readHex (f : Flags) : Nat → Nat → List Char → Except Fault (Nat × List Char)
  | 0, value, cs => .ok (value, cs)
  | n + 1, value, cs =>
    match cs with
    | [] => .error .badEscape
    | c :: cs =>
      match CharSet.hexValue? c with
      | some d => readHex f n (16 * value + d) (f.skip cs)
      | none => .error .badEscape

def readDigits (f : Flags) (width : Nat) : List Char → Except Fault (Nat × List Char)
  | '\x7b' :: cs => readBracedHex f [] (f.skip cs)
  | cs => readHex f width 0 cs

def readCode (f : Flags) (width : Nat) (cs : List Char) : Except Fault (Atom × List Char) := do
  let (n, rest) ← readDigits f width (f.skip cs)
  match charOfCode? n with
  | some c => return (.literal c (width == 2), rest)
  | none => throw .badEscape

def readPropertyName (f : Flags) : List Char → Except Fault (List Char × List Char)
  | '\x7b' :: cs =>
    match cs.dropWhile (· ≠ '\x7d') with
    | [] => .error .badEscape
    | _ :: rest =>
      .ok ((cs.takeWhile (· ≠ '\x7d')).filter fun c => !(f.verbose && Text.isBlank c), rest)
  | '\\' :: _ => .error .unknownClass
  | c :: rest => .ok ([c], rest)
  | [] => .error .badEscape

def Flags.property (f : Flags) (name : List Char) (negated : Bool) : Except Fault Atom :=
  let (s, negated) :=
    match Text.cutAt ['!', '='] name with
    | some (p, v) => (Text.propertyValue? p v, !negated)
    | none =>
      match (Text.cutFirst ':' name).or (Text.cutFirst '=' name) with
      | some (p, v) => (Text.propertyValue? p v, negated)
      | none => (Text.property? name, negated)
  match s with
  | some s => .ok (.set (if negated then (f.fold s).complement else f.fold s))
  | none => .error .unknownClass

def readProperty (f : Flags) (negated : Bool) (cs : List Char) :
    Except Fault (Atom × List Char) := do
  let (name, rest) ← readPropertyName f (f.skip cs)
  if f.unicode then return (← f.property name negated, rest) else throw .notText

def readLetterClass (f : Flags) (s ascii : CharSet) (negated : Bool) (cs : List Char) :
    Except Fault (Atom × List Char) :=
  if f.unicode then .ok (.set (if negated then s.complement else s), cs)
  else if negated then .error .notText
  else .ok (.set ascii, cs)

def Flags.boundary? (f : Flags) (name : List Char) : Option Look :=
  if name = "start".toList then some (.wordStart f.word)
  else if name = "end".toList then some (.wordEnd f.word)
  else if name = "start-half".toList then some (.wordStartHalf f.word)
  else if name = "end-half".toList then some (.wordEndHalf f.word)
  else none

def isBoundaryPart (c : Char) : Bool :=
  c.isAlpha || c == '-'

/-- Reads a kind of boundary in braces, behind blanks and comments. Braces that can only hold a
count are left. -/
def readBraced (f : Flags) (braced : List Char) : List Char → Except Fault (Atom × List Char)
  | [] => .error .badEscape
  | c :: cs =>
    if isBoundaryPart c then
      match (c :: cs).dropWhile isBoundaryPart with
      | '\x7d' :: rest =>
        match f.boundary? ((c :: cs).takeWhile isBoundaryPart) with
        | some l => .ok (.look l, rest)
        | none => .error .badEscape
      | _ => .error .badEscape
    else .ok (.look (.wordBoundary f.word), '\x7b' :: braced)

def readBoundary (f : Flags) : List Char → Except Fault (Atom × List Char)
  | '\x7b' :: cs => readBraced f cs (f.skip cs)
  | cs => .ok (.look (.wordBoundary f.word), cs)

def readEscape (f : Flags) : List Char → Except Fault (Atom × List Char)
  | [] => .error .badEscape
  | c :: cs =>
    let plain (n : Nat) : Except Fault (Atom × List Char) := .ok (.literal (Char.ofNat n) false, cs)
    if isEscapable c then .ok (.literal c false, cs)
    else
      match c with
      | 'x' => readCode f 2 cs
      | 'u' => readCode f 4 cs
      | 'U' => readCode f 8 cs
      | 'p' => readProperty f false cs
      | 'P' => readProperty f true cs
      | 'd' => readLetterClass f .digit .asciiDigit false cs
      | 'D' => readLetterClass f .digit .asciiDigit true cs
      | 's' => readLetterClass f .blank .asciiBlank false cs
      | 'S' => readLetterClass f .blank .asciiBlank true cs
      | 'w' => readLetterClass f .word .asciiWord false cs
      | 'W' => readLetterClass f .word .asciiWord true cs
      | 'a' => plain 7
      | 'f' => plain 12
      | 't' => plain 9
      | 'n' => plain 10
      | 'r' => plain 13
      | 'v' => plain 11
      | 'A' => .ok (.look .startText, cs)
      | 'z' => .ok (.look .endText, cs)
      | 'b' => readBoundary f cs
      | 'B' => .ok (.look (.notWordBoundary f.word), cs)
      | '<' => .ok (.look (.wordStart f.word), cs)
      | '>' => .ok (.look (.wordEnd f.word), cs)
      | _ => .error .badEscape

/-- How deep constructs lie in each other, if several stand side by side that are so deep. -/
def nesting : List Nat → Nat
  | [] => 0
  | [depth] => depth
  | depths => depths.foldr max 0 + 1

/-! Classes in brackets. -/

/-- What joins the two sides of an operation inside brackets. -/
inductive ClassOp where
  | inter
  | diff
  | symmDiff
  deriving DecidableEq, Repr

def ClassOp.ofChar? : Char → Option ClassOp
  | '&' => some .inter
  | '-' => some .diff
  | '~' => some .symmDiff
  | _ => none

def operator? (c : Char) (cs : List Char) : Option ClassOp :=
  if cs.head? = some c then ClassOp.ofChar? c else none

/-- An open pair of brackets: what was read of the present side, and the operation it belongs to. Of
the units of both sides it is known how deep they are. -/
structure OpenClass where
  negated : Bool
  side : CharSet
  depths : List Nat
  pending : Option (ClassOp × CharSet × Nat)

def OpenClass.value (f : Flags) (o : OpenClass) : CharSet :=
  match o.pending with
  | none => o.side
  | some (.inter, left, _) => (f.fold left).inter (f.fold o.side)
  | some (.diff, left, _) => (f.fold left).diff (f.fold o.side)
  | some (.symmDiff, left, _) => (f.fold left).symmDiff (f.fold o.side)

def OpenClass.depth (o : OpenClass) : Nat :=
  match o.pending with
  | none => nesting o.depths
  | some (_, _, left) => max left (nesting o.depths) + 1

def OpenClass.close (f : Flags) (o : OpenClass) : CharSet :=
  let s := f.fold (o.value f)
  if o.negated then s.complement else s

def OpenClass.add (o : OpenClass) (s : CharSet) (depth : Nat := 0) : OpenClass :=
  { o with side := o.side.union s, depths := depth :: o.depths }

def OpenClass.operate (f : Flags) (o : OpenClass) (op : ClassOp) : OpenClass :=
  { o with side := .empty, depths := [], pending := some (op, o.value f, o.depth) }

def takeDashes (f : Flags) (o : OpenClass) : Nat → List Char → OpenClass × List Char
  | 0, cs => (o, cs)
  | n + 1, cs =>
    match cs with
    | '-' :: rest => takeDashes f (o.add (.single '-')) n (f.skip rest)
    | cs => (o, cs)

def readNegation (f : Flags) : List Char → Bool × List Char
  | '^' :: rest => (true, f.skip rest)
  | cs => (false, cs)

/-- A closing bracket in front is a character of the class, unless there are dashes. -/
def takeBracket (f : Flags) (o : OpenClass) : List Char → Except Fault (OpenClass × List Char)
  | [] => .error .unclosedClass
  | ']' :: after =>
    if o.side = .empty then
      if (f.skip after).isEmpty then .error .unclosedClass
      else .ok (o.add (.single ']'), f.skip after)
    else .ok (o, ']' :: after)
  | cs => .ok (o, cs)

/-- Reads an opening bracket, with what has a meaning of its own only there. -/
def openClass (f : Flags) (cs : List Char) : Except Fault (OpenClass × List Char) :=
  let (negated, cs) := readNegation f (f.skip cs)
  let (o, cs) := takeDashes f ⟨negated, .empty, [], none⟩ cs.length cs
  takeBracket f o cs

def asciiClasses : List (String × List (Nat × Nat)) := [
  ("alnum", [(48, 57), (65, 90), (97, 122)]), ("alpha", [(65, 90), (97, 122)]),
  ("ascii", [(0, 127)]), ("blank", [(9, 9), (32, 32)]), ("cntrl", [(0, 31), (127, 127)]),
  ("digit", [(48, 57)]), ("graph", [(33, 126)]), ("lower", [(97, 122)]),
  ("print", [(32, 126)]), ("punct", [(33, 47), (58, 64), (91, 96), (123, 126)]),
  ("space", [(9, 13), (32, 32)]), ("upper", [(65, 90)]),
  ("word", [(48, 57), (65, 90), (95, 95), (97, 122)]),
  ("xdigit", [(48, 57), (65, 70), (97, 102)])]

def asciiClass? (name : String) : Option CharSet :=
  (asciiClasses.find? fun e => e.1 == name).map fun e => ⟨e.2⟩

def readAsciiName? (cs : List Char) : Option (CharSet × List Char) :=
  match cs.dropWhile (· ≠ ':') with
  | _ :: ']' :: rest => (asciiClass? (String.ofList (cs.takeWhile (· ≠ ':')))).map (·, rest)
  | _ => none

/-- Reads an ASCII class behind its opening bracket, if one stands there. -/
def readAsciiClass? : List Char → Option (CharSet × List Char)
  | ':' :: '^' :: cs => (readAsciiName? cs).map fun x => (x.1.complement, x.2)
  | ':' :: cs => readAsciiName? cs
  | _ => none

def readClassUnit (f : Flags) : List Char → Except Fault (Atom × List Char)
  | [] => .error .unclosedClass
  | '\\' :: cs => readEscape f cs
  | c :: cs => .ok (.literal c false, cs)

def Atom.members (f : Flags) : Atom → Except Fault CharSet
  | .literal c _ =>
    if !f.unicode && 127 < c.toNat then .error .notText
    else .ok (.single c)
  | .set s => .ok s
  | .look _ => .error .badEscape

def Atom.through (f : Flags) : Atom → Atom → Except Fault CharSet
  | .literal lo _, .literal hi _ =>
    if hi < lo then .error .badRange
    else if !f.unicode && 127 < hi.toNat then .error .notText
    else .ok (.range lo hi)
  | _, _ => .error .badRange

def readRange (f : Flags) (first : Atom) : List Char → Except Fault (CharSet × List Char)
  | [] => .error .unclosedClass
  | '-' :: after =>
    match f.skip after with
    | [] => .error .unclosedClass
    | c :: next =>
      if c == ']' || c == '-' then do return (← first.members f, '-' :: after)
      else do
        let (second, rest) ← readClassUnit f (c :: next)
        return (← first.through f second, rest)
  | c :: rest => do return (← first.members f, c :: rest)

def readClassItem (f : Flags) (cs : List Char) : Except Fault (CharSet × List Char) := do
  let (first, rest) ← readClassUnit f cs
  readRange f first (f.skip rest)

/-- Reads one item inside brackets, an operation, or the start or the end of inner brackets. Those
that are open around them wait on a stack. -/
def readClassStep (f : Flags) (o : OpenClass) (outer : List OpenClass) (c : Char) (cs : List Char) :
    Except Fault ((OpenClass × List OpenClass) × List Char) :=
  if c = '[' then
    match readAsciiClass? cs with
    | some (s, rest) =>
      if f.unicode || s.isAscii then .ok ((o.add s, outer), rest) else .error .notText
    | none => do
      let (inner, rest) ← openClass f cs
      return ((inner, o :: outer), rest)
  else if c = ']' then
    match outer with
    | parent :: outer => .ok ((parent.add (o.close f) (o.depth + 1), outer), cs)
    | [] => .error .unclosedClass
  else
    match operator? c cs with
    | some op => .ok ((o.operate f op, outer), cs.drop 1)
    | none => do
      let (s, rest) ← readClassItem f (c :: cs)
      return ((o.add s, outer), rest)

/-- Reads brackets to their end, and tells how deep they are. Each step takes at least one
character. -/
def readClassFrom (f : Flags) (o : OpenClass) (outer : List OpenClass) :
    Nat → List Char → Except Fault ((CharSet × Nat) × List Char)
  | 0, _ => .error .unclosedClass
  | fuel + 1, cs =>
    match f.skip cs with
    | [] => .error .unclosedClass
    | c :: cs =>
      if c == ']' && outer.isEmpty then
        if f.unicode || (o.close f).isAscii then .ok ((o.close f, o.depth + 1), cs)
        else .error .notText
      else do
        let ((o, outer), rest) ← readClassStep f o outer c cs
        readClassFrom f o outer fuel rest

def readClass (f : Flags) (cs : List Char) : Except Fault ((CharSet × Nat) × List Char) := do
  let (o, rest) ← openClass f cs
  readClassFrom f o [] (rest.length + 1) rest

/-! Single constructs. -/

/-- A construct of a pattern: an expression and how deep it is, a setting of flags, a repetition of
what stands in front, the start of another branch, and the two ends of a group, inside which there
may be other flags. -/
inductive Construct where
  | part (x : Regex) (depth : Nat)
  | flags (f : Flags)
  | again (make : Regex → Regex)
  | branch
  | enter (f : Flags) (name : Option String)
  | leave

def Atom.regex (f : Flags) : Atom → Except Fault Regex
  | .literal c byte =>
    if !f.unicode && byte && 127 < c.toNat then .error .notText
    else if f.unicode || c.toNat < 128 then .ok (.chars (f.fold (.single c)))
    else .ok (.chars (.single c))
  | .set s => .ok (.chars s)
  | .look l => .ok (.look l)

def Flags.dot (f : Flags) : Except Fault Regex :=
  if !f.unicode then .error .notText
  else if f.dotNewline then .ok (.chars ⟨[(0, CharSet.last)]⟩)
  else if f.returns then .ok (.chars (CharSet.complement ⟨[(10, 10), (13, 13)]⟩))
  else .ok (.chars (CharSet.complement ⟨[(10, 10)]⟩))

def Flags.start (f : Flags) : Look :=
  if !f.multiLine then .startText else if f.returns then .startLineReturn else .startLine

def Flags.finish (f : Flags) : Look :=
  if !f.multiLine then .endText else if f.returns then .endLineReturn else .endLine

/-- Reads flags to their end, and whether it is a colon. It is known which were named so far, and
whether a `-` came, and whether it came last. -/
def readFlags (f : Flags) (named : List Char) (negated last : Bool) :
    List Char → Except Fault ((Flags × Bool) × List Char)
  | [] => .error .badFlags
  | c :: cs =>
    if c == ':' || c == ')' then if last then .error .badFlags else .ok ((f, c == ':'), cs)
    else if c == '-' then
      if negated then .error .badFlags else readFlags f named true true cs
    else if named.contains c then .error .badFlags
    else
      match f.set c (!negated) with
      | some f => readFlags f (c :: named) negated false cs
      | none => .error .badFlags

def isGroupName : List Char → Bool
  | [] => false
  | c :: cs =>
    (c == '_' || (CharSet.word.mem c && !CharSet.digit.mem c)) &&
      cs.all fun c => c == '.' || c == '[' || c == ']' || CharSet.word.mem c

def readNamed (f : Flags) (cs : List Char) : Except Fault (Construct × List Char) :=
  match cs.dropWhile (· ≠ '>') with
  | [] => .error .badGroupName
  | _ :: rest =>
    let name := cs.takeWhile (· ≠ '>')
    if isGroupName name then .ok (.enter f (some (String.ofList name)), rest)
    else .error .badGroupName

def Flags.setting (f : Flags) (group named : Bool) : Except Fault Construct :=
  if group then .ok (.enter f none) else if named then .ok (.flags f) else .error .nothingToRepeat

def readSetting (f : Flags) (cs : List Char) : Except Fault (Construct × List Char) := do
  let ((g, group), rest) ← readFlags f [] false false cs
  return (← g.setting group (cs.head? ≠ some ')'), rest)

def readModifier (f : Flags) : List Char → Except Fault (Construct × List Char)
  | 'P' :: '<' :: cs => readNamed f cs
  | '<' :: cs => readNamed f cs
  | cs => readSetting f cs

def readGroup (f : Flags) : List Char → Except Fault (Construct × List Char)
  | '?' :: cs => readModifier f cs
  | cs => .ok (.enter f none, cs)

def readGreed (f : Flags) : List Char → Bool × List Char
  | '?' :: cs => (f.swapGreed, cs)
  | cs => (!f.swapGreed, cs)

def readLoop (f : Flags) (make : Bool → Regex → Regex) (cs : List Char) : Construct × List Char :=
  let (greedy, rest) := readGreed f cs
  (.again (make greedy), rest)

def maxCount : Nat := Nat.pow 2 32 - 1

def countOf (digits : List Char) : Except Fault (Option Nat) :=
  let n := digits.foldl (fun n c => 10 * n + (c.toNat - '0'.toNat)) 0
  if digits.isEmpty then .ok none else if maxCount < n then .error .badCount else .ok (some n)

/-- Whether a character belongs to a count, inside which there may be blanks. -/
def Flags.isDigit (f : Flags) (c : Char) : Bool :=
  c.isDigit || (f.verbose && Text.isBlank c)

/-- Reads a count, with blanks around it; it may be missing. -/
def readCount (f : Flags) (cs : List Char) : Except Fault (Option Nat × List Char) := do
  let cs := Text.dropBlanks cs
  let count ← countOf ((cs.takeWhile f.isDigit).filter Char.isDigit)
  return (count, f.skip (Text.dropBlanks (cs.dropWhile f.isDigit)))

def closeCount (f : Flags) (make : Bool → Regex → Regex) :
    List Char → Except Fault (Construct × List Char)
  | '\x7d' :: cs => .ok (readLoop f make (f.skip cs))
  | _ => .error .badCount

def readUpTo (f : Flags) (least : Nat) (cs : List Char) : Except Fault (Construct × List Char) := do
  let (most, rest) ← readCount f cs
  match most with
  | none => throw .badCount
  | some most =>
    if most < least then throw .badCount
    else closeCount f (fun greedy x => between x least most greedy) rest

/-- Reads a repetition behind the comma, where a second count may be missing. -/
def readMost (f : Flags) (least : Nat) (cs : List Char) : Except Fault (Construct × List Char) :=
  if cs.head? = some '\x7d' then closeCount f (fun greedy x => atLeast x least greedy) cs
  else readUpTo f least cs

def readRepeat (f : Flags) (least : Nat) : List Char → Except Fault (Construct × List Char)
  | ',' :: rest => readMost f least (f.skip rest)
  | cs => closeCount f (fun _ x => .times x least) cs

def readCounted (f : Flags) (cs : List Char) : Except Fault (Construct × List Char) := do
  let (least, rest) ← readCount f cs
  match least with
  | some least => readRepeat f least rest
  | none => throw .badCount

def readConstruct (f : Flags) (c : Char) (cs : List Char) : Except Fault (Construct × List Char) :=
  match c with
  | '(' => readGroup f (f.skip cs)
  | ')' => .ok (.leave, cs)
  | '|' => .ok (.branch, cs)
  | '[' => do
    let (x, rest) ← readClass f cs
    return (.part (.chars x.1) x.2, rest)
  | '?' => .ok (readLoop f (fun greedy x => optional x greedy) cs)
  | '*' => .ok (readLoop f (fun greedy x => atLeast x 0 greedy) cs)
  | '+' => .ok (readLoop f (fun greedy x => atLeast x 1 greedy) cs)
  | '\x7b' => readCounted f (f.skip cs)
  | '\\' => do
    let (u, rest) ← readEscape f cs
    return (.part (← u.regex f) 0, rest)
  | '.' => do return (.part (← f.dot) 0, cs)
  | '^' => .ok (.part (.look f.start) 0, cs)
  | '$' => .ok (.part (.look f.finish) 0, cs)
  | c => do return (.part (← (Atom.literal c false).regex f) 0, cs)

/-! Groups. -/

/-- A part of a branch: its expression, unless it only sets flags, and how deep it is. -/
structure Part where
  regex : Option Regex
  depth : Nat

/-- A group whose end is not reached: finished branches and how deep they are, and the parts of the
present branch, both in reverse. -/
structure Branches where
  done : List (Regex × Nat)
  parts : List Part

def Branches.branch (b : Branches) : Regex :=
  concat (b.parts.reverse.filterMap Part.regex)

def Branches.branchDepth (b : Branches) : Nat :=
  nesting (b.parts.map Part.depth)

def Branches.regex (b : Branches) : Regex :=
  anyOf ((b.done.map Prod.fst).reverse ++ [b.branch])

def Branches.depth (b : Branches) : Nat :=
  nesting (b.branchDepth :: b.done.map Prod.snd)

structure Reader where
  flags : Flags
  current : Branches
  outer : List (Flags × Branches)
  names : List String

def Reader.start : Reader :=
  ⟨.initial, ⟨[], []⟩, [], []⟩

def Reader.push (r : Reader) (p : Part) : Reader :=
  { r with current := { r.current with parts := p :: r.current.parts } }

def Reader.apply (r : Reader) : Construct → Except Fault Reader
  | .part x depth => .ok (r.push ⟨some x, depth⟩)
  | .flags f => .ok ({ r with flags := f }.push ⟨none, 0⟩)
  | .again make =>
    match r.current.parts with
    | ⟨some x, depth⟩ :: parts =>
      .ok { r with current := { r.current with parts := ⟨some (make x), depth + 1⟩ :: parts } }
    | _ => .error .nothingToRepeat
  | .branch =>
    .ok { r with current := ⟨(r.current.branch, r.current.branchDepth) :: r.current.done, []⟩ }
  | .enter f name =>
    if name.any r.names.contains then .error .badGroupName
    else
      .ok {
        flags := f
        current := ⟨[], []⟩
        outer := (r.flags, r.current) :: r.outer
        names := name.toList ++ r.names }
  | .leave =>
    match r.outer with
    | [] => .error .unopenedGroup
    | (f, b) :: outer =>
      .ok ({ r with flags := f, current := b, outer := outer }.push
        ⟨some r.current.regex, r.current.depth + 1⟩)

def Reader.step (r : Reader) (c : Char) (cs : List Char) : Except Fault (Reader × List Char) := do
  let (x, rest) ← readConstruct r.flags c cs
  return (← r.apply x, rest)

/-- Reads a pattern to its end; each step takes at least one character. -/
def Reader.run (r : Reader) : Nat → List Char → Except Fault Reader
  | 0, _ => .ok r
  | fuel + 1, cs =>
    match r.flags.skip cs with
    | [] => .ok r
    | c :: cs =>
      match r.step c cs with
      | .ok (r, rest) => r.run fuel rest
      | .error e => .error e

def read (pattern : List Char) : Except Fault Reader := do
  let r ← Reader.start.run (pattern.length + 1) pattern
  if r.outer.isEmpty then return r else throw .unclosedGroup

def nestLimit : Nat := 250

def parse (pattern : List Char) : Except Fault Regex := do
  let r ← read pattern
  if nestLimit < r.current.depth then throw .tooDeep else return r.current.regex

def escape (cs : List Char) : List Char :=
  cs.flatMap fun c => if metaChars.contains c then ['\\', c] else [c]

end ShellSuite.Regex
