import ShellSuite.Decimal.Rounding
import ShellSuite.Text.Blank
import ShellSuite.Tool.Escape

set_option autoImplicit false
set_option relaxedAutoImplicit false

/-!
Formatted printing.
-/

namespace ShellSuite.Tool.Printf

/-- What can be wrong with an argument or with the format, and arguments that nothing prints. -/
inductive Fault where
  | expectedNumber (arg : String)
  | incomplete (arg : String)
  | outOfRange (arg : String)
  | excess (arg : String)
  | invalid (spec : String)
  | unfinished (spec : String)

/-- How formats are written: the escapes in them and in arguments, whether a quote can be escaped,
and the letters that tell the size of a number, which mean nothing here. -/
structure Dialect where
  format : OctalStyle
  argument : OctalStyle
  quotes : Bool
  sizes : List Char

def Dialect.script : Dialect := ⟨.format, .octal, false, []⟩

def Dialect.tool : Dialect := ⟨.plain, .both, true, ['h', 'l', 'L', 'j', 'z', 't']⟩

/-- The state of printing: the bytes so far in reverse, the arguments to come, whether one was taken
in this round, the faults in reverse, and whether an escape ended it. -/
structure State where
  out : Bytes
  args : List String
  took : Bool
  faults : List Fault
  stopped : Bool

structure Layout where
  left : Bool := false
  plus : Bool := false
  space : Bool := false
  alternate : Bool := false
  zero : Bool := false
  width : Nat := 0
  precision : Option Nat := none

namespace State

def emit (s : State) (bs : Bytes) : State :=
  { s with out := bs.reverse ++ s.out }

def next (s : State) : Option String × State :=
  match s.args with
  | [] => (none, s)
  | a :: rest => (some a, { s with args := rest, took := true })

def fault (s : State) (f : Fault) : State :=
  { s with faults := f :: s.faults }

end State

def leadingDigits (base : Nat) (cs : List Char) : Option Nat × List Char :=
  takeDigits base cs.length cs

def leadingInteger (cs : List Char) : Option Int × List Char :=
  let cs := Text.dropBlanks cs
  let (negative, cs) :=
    match cs with
    | '-' :: rest => (true, rest)
    | '+' :: rest => (false, rest)
    | cs => (false, cs)
  let (value, rest) :=
    match cs with
    | '0' :: 'x' :: ds =>
      match leadingDigits 16 ds with
      | (some v, rest) => (some v, rest)
      | (none, _) => (some 0, 'x' :: ds)
    | '0' :: ds => leadingDigits 8 ('0' :: ds)
    | cs => leadingDigits 10 cs
  (value.map fun v => if negative then -Int.ofNat v else Int.ofNat v, rest)

/-- The number an argument stands for, at most `most`; a quote gives the code of the character behind
it. -/
def integerOf (most : Int) (arg : Option String) (s : State) : Int × State :=
  match arg with
  | none => (0, s)
  | some a =>
    match a.toList with
    | [] => (0, s)
    | '\'' :: c :: _ => (c.toNat, s)
    | '"' :: c :: _ => (c.toNat, s)
    | cs =>
      match leadingInteger cs with
      | (none, _) => (0, s.fault (.expectedNumber a))
      | (some v, rest) =>
        if most < v then (most, s.fault (.outOfRange a))
        else if v < -Int.pow 2 63 then (-Int.pow 2 63, s.fault (.outOfRange a))
        else if rest.isEmpty then (v, s)
        else (v, s.fault (.incomplete a))

def pad (l : Layout) (bs : Bytes) : Bytes :=
  let fill := List.replicate (l.width - bs.length) (32 : UInt8)
  if l.left then bs ++ fill else fill ++ bs

/-- A sign and digits, filled up with zeros in between if asked. -/
def padNumber (l : Layout) (sign digits : List Char) (zeros : Bool) : Bytes :=
  let missing := l.width - (sign.length + digits.length)
  let digits := if zeros && !l.left then List.replicate missing '0' ++ digits else digits
  pad l (Text.encode (String.ofList (sign ++ digits)))

def signOf (l : Layout) (negative : Bool) : List Char :=
  if negative then ['-'] else if l.plus then ['+'] else if l.space then [' '] else []

def formatInteger (l : Layout) (conversion : Char) (v : Int) : Bytes :=
  let signed := conversion = 'd' || conversion = 'i'
  let base :=
    if conversion = 'o' then 8 else if conversion = 'x' || conversion = 'X' then 16 else 10
  let n := if signed then v.natAbs else if v < 0 then (Int.pow 2 64 + v).toNat else v.toNat
  let digits := Nat.toDigits base n
  let digits := if conversion = 'X' then digits.map Char.toUpper else digits
  let digits :=
    match l.precision with
    | some p => List.replicate (p - digits.length) '0' ++ digits
    | none => digits
  let mark :=
    if !l.alternate || n = 0 then []
    else if conversion = 'x' then ['0', 'x']
    else if conversion = 'X' then ['0', 'X']
    else if conversion = 'o' then ['0']
    else []
  padNumber l (if signed then signOf l (v < 0) else mark) digits (l.zero && l.precision.isNone)

/-- A decimal number as a numerator over a power of ten, and whether all of the text was used. -/
def decimalOf (cs : List Char) : Option (Bool × Nat × Nat) × Bool :=
  let cs := Text.dropBlanks cs
  let (negative, cs) :=
    match cs with
    | '-' :: rest => (true, rest)
    | '+' :: rest => (false, rest)
    | cs => (false, cs)
  let whole := cs.takeWhile Char.isDigit
  let rest := cs.drop whole.length
  let (places, rest) :=
    match rest with
    | '.' :: more =>
      let places := more.takeWhile Char.isDigit
      (places, more.drop places.length)
    | rest => ([], rest)
  if whole.isEmpty && places.isEmpty then (none, false)
  else
    let n := (whole ++ places).foldl (fun n c => 10 * n + (c.toNat - 48)) 0
    (some (negative, n, places.length), rest.isEmpty)

def formatDecimal (l : Layout) (arg : Option String) (s : State) : Bytes × State :=
  let places := l.precision.getD 6
  let render (negative : Bool) (n scale : Nat) : Bytes :=
    let text := Decimal.fixed places (Decimal.roundDiv (n * Nat.pow 10 places) (Nat.pow 10 scale))
    padNumber l (signOf l negative) text.toList l.zero
  match arg with
  | none => (render false 0 0, s)
  | some a =>
    match decimalOf a.toList with
    | (none, _) => (render false 0 0, s.fault (.expectedNumber a))
    | (some (negative, n, scale), complete) =>
      (render negative n scale, if complete then s else s.fault (.incomplete a))

def convert (d : Dialect) (l : Layout) (conversion : Char) (s : State) : State :=
  let (arg, s) := s.next
  match conversion with
  | 's' =>
    let bs := Text.encode (arg.getD "")
    s.emit (pad l (match l.precision with | some p => bs.take p | none => bs))
  | 'b' =>
    let (bs, stopped) := unescape d.argument (arg.getD "")
    { s.emit (pad l bs) with stopped := stopped }
  | 'c' => s.emit (pad l [(Text.encode (arg.getD "")).headD 0])
  | 'f' =>
    let (bs, s) := formatDecimal l arg s
    s.emit bs
  | c =>
    let most : Int := if c = 'd' || c = 'i' then Int.pow 2 63 - 1 else Int.pow 2 64 - 1
    let (v, s) := integerOf most arg s
    s.emit (formatInteger l c v)

def conversions : List Char := "sbcfdiuoxX".toList

def readFlags (l : Layout) : List Char → Layout × List Char
  | [] => (l, [])
  | c :: cs =>
    match c with
    | '-' => readFlags { l with left := true } cs
    | '+' => readFlags { l with plus := true } cs
    | ' ' => readFlags { l with space := true } cs
    | '#' => readFlags { l with alternate := true } cs
    | '0' => readFlags { l with zero := true } cs
    | _ => (l, c :: cs)

def readSize (s : State) : List Char → Nat × State × List Char
  | '*' :: cs =>
    let (arg, s) := s.next
    let (v, s) := integerOf (Int.pow 2 31 - 1) arg s
    (v.toNat, s, cs)
  | cs =>
    let (v, rest) := leadingDigits 10 cs
    (v.getD 0, s, rest)

def readConversion (d : Dialect) (s : State) (spec : List Char) : State × List Char :=
  let (l, cs) := readFlags {} spec
  let (width, s, cs) := readSize s cs
  let (precision, s, cs) :=
    match cs with
    | '.' :: cs =>
      let (p, s, cs) := readSize s cs
      (some p, s, cs)
    | cs => (none, s, cs)
  let l := { l with width, precision }
  match cs.dropWhile d.sizes.contains with
  | [] =>
    ({ s.fault (.unfinished (String.ofList ('%' :: spec))) with stopped := true }, [])
  | c :: cs =>
    if conversions.contains c then (convert d l c s, cs)
    else
      let text := String.ofList ('%' :: spec.take (spec.length - cs.length))
      ({ s.fault (.invalid text) with stopped := true }, [])

def round (d : Dialect) : Nat → List Char → State → State
  | 0, _, s => s
  | n + 1, cs, s =>
    if s.stopped then s
    else
      match cs with
      | [] => s
      | '%' :: '%' :: cs => round d n cs (s.emit [37])
      | '%' :: cs =>
        let (s, cs) := readConversion d s cs
        round d n cs s
      | '\\' :: cs =>
        if d.quotes && cs.head? = some '"' then round d n (cs.drop 1) (s.emit [34])
        else
          match readEscape d.format cs with
          | (.stop, _) => { s with stopped := true }
          | (.bytes bs, cs) => round d n cs (s.emit bs)
      | c :: cs => round d n cs (s.emit (Text.encode c.toString))

/-- Rounds as long as arguments are left; a round that takes none is the last one. -/
def rounds (d : Dialect) (format : List Char) : Nat → State → State
  | 0, s => s
  | n + 1, s =>
    let s := round d (format.length + 1) format { s with took := false }
    match s.args with
    | [] => s
    | a :: _ => if s.stopped then s else if s.took then rounds d format n s else s.fault (.excess a)

def run (d : Dialect) (format : String) (args : List String) : Bytes × List Fault :=
  let s := rounds d format.toList (args.length + 1) ⟨[], args, false, [], false⟩
  (s.out.reverse, s.faults.reverse)

end ShellSuite.Tool.Printf
