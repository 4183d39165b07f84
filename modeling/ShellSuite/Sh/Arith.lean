import ShellSuite.RunLine.Token
import ShellSuite.Tool.Printf

set_option autoImplicit false
set_option relaxedAutoImplicit false

/-!
Arithmetic in shell scripts, on numbers of 64 bits.
-/

namespace ShellSuite.Sh.Arith

inductive Token where
  | number (v : Int)
  | name (n : String)
  | op (text : String)
  deriving DecidableEq, Repr

inductive Fault where
  | expectingPrimary
  | expectingEnd
  | divisionByZero
  | illegalNumber (text : String)
  deriving DecidableEq, Repr

def operators : List String :=
  ["<<=", ">>=", "<<", ">>", "<=", ">=", "==", "!=", "&&", "||", "+=", "-=", "*=", "/=", "%=", "&=",
    "|=", "^=", "+", "-", "*", "/", "%", "<", ">", "=", "!", "~", "&", "|", "^", "?", ":", "(", ")"]

def tokens : Nat → List Char → Except Fault (List Token)
  | 0, _ => .ok []
  | _, [] => .ok []
  | n + 1, c :: cs =>
    if c = ' ' || c = '\t' || c = '\n' then tokens n cs
    else if c.isDigit then
      let digits := (c :: cs).takeWhile Char.isAlphanum
      match Tool.Printf.leadingInteger digits with
      | (some v, []) => do return .number v :: (← tokens n ((c :: cs).drop digits.length))
      | _ => .error (.illegalNumber (String.ofList digits))
    else if RunLine.isNameStart c then
      let name := (c :: cs).takeWhile RunLine.isNameChar
      do return .name (String.ofList name) :: (← tokens n ((c :: cs).drop name.length))
    else
      match operators.find? fun o => o.toList.isPrefixOf (c :: cs) with
      | some o => do return .op o :: (← tokens n ((c :: cs).drop o.length))
      | none => .error .expectingEnd

abbrev Names := Dict String

def valueOf (names : Names) (name : String) : Except Fault Int :=
  match names.get? name with
  | none => .ok 0
  | some text =>
    let cs := Text.trimBlanks text.toList
    if cs.isEmpty then .ok 0
    else
      match Tool.Printf.leadingInteger cs with
      | (some v, []) => .ok v
      | _ => .error (.illegalNumber text)

def wrap (v : Int) : Int := Int.bmod v (Nat.pow 2 64)

def truth (b : Bool) : Int := if b then 1 else 0

def onBits (f : UInt64 → UInt64 → UInt64) (a b : Int) : Int :=
  let word (v : Int) : UInt64 := (v.emod (Int.pow 2 64)).toNat.toUInt64
  wrap (f (word a) (word b)).toNat

def apply (op : String) (a b : Int) : Except Fault Int :=
  match op with
  | "+" => .ok (wrap (a + b))
  | "-" => .ok (wrap (a - b))
  | "*" => .ok (wrap (a * b))
  | "/" => if b = 0 then .error .divisionByZero else .ok (wrap (a.tdiv b))
  | "%" => if b = 0 then .error .divisionByZero else .ok (wrap (a.tmod b))
  | "<<" => .ok (onBits (· <<< ·) a b)
  | ">>" => .ok (a.shiftRight (b.emod 64).toNat)
  | "<" => .ok (truth (a < b))
  | "<=" => .ok (truth (a ≤ b))
  | ">" => .ok (truth (a > b))
  | ">=" => .ok (truth (a ≥ b))
  | "==" => .ok (truth (a = b))
  | "!=" => .ok (truth (a ≠ b))
  | "&" => .ok (onBits (· &&& ·) a b)
  | "^" => .ok (onBits (· ^^^ ·) a b)
  | "|" => .ok (onBits (· ||| ·) a b)
  | _ => .error .expectingPrimary

def levels : List (List String) :=
  [["||"], ["&&"], ["|"], ["^"], ["&"], ["==", "!="], ["<", "<=", ">", ">="], ["<<", ">>"],
    ["+", "-"], ["*", "/", "%"]]

def updates (op : String) : Bool :=
  2 ≤ op.length && op.toList.getLast? = some '=' && !(["==", "!=", "<=", ">="].contains op)

def sign (op : String) (v : Int) : Int :=
  match op with
  | "-" => wrap (-v)
  | "!" => truth (v = 0)
  | "~" => -v - 1
  | _ => v

/-- What has been read: a value, the names after its assignments, and the tokens behind it. -/
abbrev Reading := Except Fault (Int × Names × List Token)

mutual

def whole (names : Names) : Nat → List Token → Reading
  | 0, _ => .error .expectingPrimary
  | n + 1, .name x :: .op o :: ts =>
    if o = "=" then do
      let (v, names, ts) ← whole names n ts
      return (v, names.insert x (toString v), ts)
    else if updates o then do
      let (v, names, ts) ← whole names n ts
      let v ← apply (String.ofList o.toList.dropLast) (← valueOf names x) v
      return (v, names.insert x (toString v), ts)
    else choice names n (.name x :: .op o :: ts)
  | n + 1, ts => choice names n ts

def choice (names : Names) : Nat → List Token → Reading
  | 0, _ => .error .expectingPrimary
  | n + 1, ts => do
    let (test, names, ts) ← binary names n levels ts
    match ts with
    | .op "?" :: ts =>
      let (yes, after, ts) ← whole names n ts
      match ts with
      | .op ":" :: ts =>
        let (no, after', ts) ← choice names n ts
        return if test ≠ 0 then (yes, after, ts) else (no, after', ts)
      | _ => .error .expectingEnd
    | ts => return (test, names, ts)

def binary (names : Names) : Nat → List (List String) → List Token → Reading
  | 0, _, _ => .error .expectingPrimary
  | n + 1, [], ts => unary names n ts
  | n + 1, level :: tighter, ts => do
    let (v, names, ts) ← binary names n tighter ts
    more v names n level tighter ts

def more (v : Int) (names : Names) : Nat → List String → List (List String) → List Token → Reading
  | 0, _, _, _ => .error .expectingPrimary
  | n + 1, level, tighter, .op o :: ts =>
    if level.contains o then do
      match binary names n tighter ts with
      | .error f => .error f
      | .ok (w, after, ts) =>
        if o = "&&" then
          if v = 0 then more 0 names n level tighter ts
          else more (truth (w ≠ 0)) after n level tighter ts
        else if o = "||" then
          if v ≠ 0 then more 1 names n level tighter ts
          else more (truth (w ≠ 0)) after n level tighter ts
        else more (← apply o v w) after n level tighter ts
    else .ok (v, names, .op o :: ts)
  | _ + 1, _, _, ts => .ok (v, names, ts)

def unary (names : Names) : Nat → List Token → Reading
  | 0, _ => .error .expectingPrimary
  | _ + 1, .number v :: ts => .ok (v, names, ts)
  | _ + 1, .name x :: ts => do return (← valueOf names x, names, ts)
  | n + 1, .op o :: ts => do
    if o = "(" then
      let (v, names, ts) ← whole names n ts
      match ts with
      | .op ")" :: ts => return (v, names, ts)
      | _ => .error .expectingEnd
    else if ["-", "+", "!", "~"].contains o then
      let (v, names, ts) ← unary names n ts
      return (sign o v, names, ts)
    else .error .expectingPrimary
  | _ + 1, [] => .error .expectingPrimary

end

def evaluate (names : Names) (text : String) : Except Fault (Int × Names) := do
  let ts ← tokens (text.length + 1) text.toList
  if ts.isEmpty then return (0, names)
  let (v, names, rest) ← whole names (16 * ts.length + 32) ts
  if rest.isEmpty then return (v, names) else .error .expectingEnd

def Fault.message (expression : String) : Fault → String
  | .expectingPrimary => "arithmetic expression: expecting primary: \"" ++ expression ++ "\""
  | .expectingEnd => "arithmetic expression: expecting EOF: \"" ++ expression ++ "\""
  | .divisionByZero => "arithmetic expression: division by zero: \"" ++ expression ++ "\""
  | .illegalNumber text => "Illegal number: " ++ text

end ShellSuite.Sh.Arith
