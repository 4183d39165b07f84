set_option autoImplicit false
set_option relaxedAutoImplicit false

/-!
Bytes and the text they stand for in UTF-8.
-/

namespace ShellSuite

abbrev Bytes := List UInt8

namespace Text

def encode (s : String) : Bytes :=
  s.toUTF8.data.toList

/-- A character whose last bytes are to come: its bits so far, how many bytes are missing, and
between which bounds the next one lies. -/
structure Unfinished where
  bits : Nat
  missing : Nat
  low : Nat
  high : Nat

/-- What the first byte of a character announces: the character itself, or one to be finished; other
bytes start none. -/
def startByte (b : Nat) : Option (Char ⊕ Unfinished) :=
  if b < 0x80 then some (.inl (Char.ofNat b))
  else if b < 0xC2 then none
  else if b < 0xE0 then some (.inr ⟨b - 0xC0, 1, 0x80, 0xBF⟩)
  else if b = 0xE0 then some (.inr ⟨0, 2, 0xA0, 0xBF⟩)
  else if b = 0xED then some (.inr ⟨0xD, 2, 0x80, 0x9F⟩)
  else if b < 0xF0 then some (.inr ⟨b - 0xE0, 2, 0x80, 0xBF⟩)
  else if b = 0xF0 then some (.inr ⟨0, 3, 0x90, 0xBF⟩)
  else if b < 0xF4 then some (.inr ⟨b - 0xF0, 3, 0x80, 0xBF⟩)
  else if b = 0xF4 then some (.inr ⟨4, 3, 0x80, 0x8F⟩)
  else none

/-- The state of the decoder: the characters so far in reverse, `none` for bytes that are no
character, and an unfinished character. -/
structure Decoder where
  chars : List (Option Char)
  unfinished : Option Unfinished

namespace Decoder

def start (chars : List (Option Char)) (b : Nat) : Decoder :=
  match startByte b with
  | some (.inl c) => ⟨some c :: chars, none⟩
  | some (.inr u) => ⟨chars, some u⟩
  | none => ⟨none :: chars, none⟩

/-- Takes a byte. One that cannot go on a character ends it as bytes that are none. -/
def step (d : Decoder) (byte : UInt8) : Decoder :=
  let b := byte.toNat
  match d.unfinished with
  | none => start d.chars b
  | some u =>
    if u.low ≤ b && b ≤ u.high then
      let bits := 64 * u.bits + (b - 0x80)
      if u.missing = 1 then ⟨some (Char.ofNat bits) :: d.chars, none⟩
      else ⟨d.chars, some ⟨bits, u.missing - 1, 0x80, 0xBF⟩⟩
    else start (none :: d.chars) b

def finish (d : Decoder) : List (Option Char) :=
  if d.unfinished.isSome then none :: d.chars else d.chars

end Decoder

/-- The characters of bytes, `none` for bytes that are none. -/
def decodeChars (bytes : Bytes) : List (Option Char) :=
  (bytes.foldl Decoder.step ⟨[], none⟩).finish.reverse

def decodeLossy (bytes : Bytes) : String :=
  String.ofList ((decodeChars bytes).map fun c => c.getD (Char.ofNat 0xFFFD))

def decode? (bytes : Bytes) : Option String :=
  let chars := decodeChars bytes
  if chars.all Option.isSome then some (String.ofList (chars.filterMap id)) else none

end Text

end ShellSuite
