import ShellSuite.Text.CharSet
import ShellSuite.Text.Utf8

set_option autoImplicit false
set_option relaxedAutoImplicit false

/-!
Backslash escapes that tools print.
-/

namespace ShellSuite.Tool

/-- What a backslash stands for: bytes, or an end of all output. -/
inductive Escaped where
  | bytes (bs : Bytes)
  | stop

def letterEscapes : List (Char × UInt8) :=
  [('a', 7), ('b', 8), ('e', 27), ('f', 12), ('n', 10), ('r', 13), ('t', 9), ('v', 11), ('\\', 92)]

/-- The leading digits of a base, at most so many: their value, and what follows. -/
def takeDigits (base : Nat) : Nat → List Char → Option Nat × List Char
  | 0, cs => (none, cs)
  | _, [] => (none, [])
  | n + 1, c :: cs =>
    match (Text.CharSet.hexValue? c).filter (· < base) with
    | none => (none, c :: cs)
    | some d => go n d cs
where
  /-- Takes further digits. -/
  go : Nat → Nat → List Char → Option Nat × List Char
    | 0, value, cs => (some value, cs)
    | _, value, [] => (some value, [])
    | n + 1, value, c :: cs =>
      match (Text.CharSet.hexValue? c).filter (· < base) with
      | none => (some value, c :: cs)
      | some d => go n (base * value + d) cs

/-- How numbers are escaped: in octal with a zero in front of up to three digits, without that zero,
or in both ways, with or without hexadecimal numbers beside them; and without that zero in formats,
whose output cannot be ended. -/
inductive OctalStyle where
  | leadingZero
  | plain
  | both
  | octal
  | format
  deriving DecidableEq

/-- Reads an escape behind its backslash. An unknown one is not changed. -/
def readEscape (style : OctalStyle) : List Char → Escaped × List Char
  | [] => (.bytes [92], [])
  | c :: cs =>
    if c = 'c' && style ≠ .format then (.stop, cs)
    else if c = '0' && style ≠ .plain && style ≠ .format then
      let (value, cs) := takeDigits 8 3 cs
      (.bytes [(value.getD 0).toUInt8], cs)
    else if '0' ≤ c && c ≤ '7' && style ≠ .leadingZero then
      let (value, cs) := takeDigits 8 3 (c :: cs)
      (.bytes [(value.getD 0).toUInt8], cs)
    else if c = 'x' && (style = .plain || style = .both) then
      match takeDigits 16 2 cs with
      | (some value, cs) => (.bytes [value.toUInt8], cs)
      | (none, cs) => (.bytes (Text.encode "\\x"), cs)
    else
      match letterEscapes.find? (·.1 = c) with
      | some (_, b) => (.bytes [b], cs)
      | none => (.bytes (92 :: Text.encode c.toString), cs)

def expandEscapes (style : OctalStyle) (acc : Bytes) : Nat → List Char → Bytes × Bool
  | 0, _ => (acc.reverse, false)
  | _, [] => (acc.reverse, false)
  | n + 1, '\\' :: cs =>
    match readEscape style cs with
    | (.stop, _) => (acc.reverse, true)
    | (.bytes bs, cs) => expandEscapes style (bs.reverse ++ acc) n cs
  | n + 1, c :: cs => expandEscapes style ((Text.encode c.toString).reverse ++ acc) n cs

def unescape (style : OctalStyle) (s : String) : Bytes × Bool :=
  let cs := s.toList
  expandEscapes style [] (cs.length + 1) cs

end ShellSuite.Tool
