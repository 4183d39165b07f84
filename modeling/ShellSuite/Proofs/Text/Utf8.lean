import ShellSuite.Proofs.Text.Lines
import ShellSuite.Text.Utf8

set_option autoImplicit false
set_option relaxedAutoImplicit false

/-!
The bytes of a text are read back as that text, so different texts have different bytes.
-/

namespace ShellSuite.Text

open Decoder

variable {b v : Nat} {u : Unfinished} {chars : List (Option Char)}

private theorem toNat_ofNat (h : b < 256) : (UInt8.ofNat b).toNat = b := by
  rw [UInt8.toNat_ofNat']
  exact Nat.mod_eq_of_lt h

/-! One byte -/

private theorem step_first (hb : b < 256) (h : startByte b = some (.inr u)) :
    step ⟨chars, none⟩ (UInt8.ofNat b) = ⟨chars, some u⟩ := by
  simp [step, start, toNat_ofNat hb, h]

private theorem step_next (hb : b < 256) (hlow : u.low ≤ b) (hhigh : b ≤ u.high)
    (hmissing : u.missing ≠ 1) :
    step ⟨chars, some u⟩ (UInt8.ofNat b) =
      ⟨chars, some ⟨64 * u.bits + (b - 0x80), u.missing - 1, 0x80, 0xBF⟩⟩ := by
  simp [step, toNat_ofNat hb, hlow, hhigh, hmissing]

private theorem step_last (hb : b < 256) (hlow : u.low ≤ b) (hhigh : b ≤ u.high)
    (hmissing : u.missing = 1) :
    step ⟨chars, some u⟩ (UInt8.ofNat b) =
      ⟨some (Char.ofNat (64 * u.bits + (b - 0x80))) :: chars, none⟩ := by
  simp [step, toNat_ofNat hb, hlow, hhigh, hmissing]

/-! One character -/

private theorem startByte_two (hlow : 0x80 ≤ v) (hhigh : v ≤ 0x7FF) :
    startByte (v / 64 % 32 + 192) = some (.inr ⟨v / 64, 1, 0x80, 0xBF⟩) := by
  have hlead : v / 64 % 32 = v / 64 := Nat.mod_eq_of_lt (by omega)
  have hpos : 2 ≤ v / 64 := by omega
  rw [startByte, if_neg (by omega), if_neg (by omega), if_pos (by omega), hlead,
    Nat.add_sub_cancel]

private theorem startByte_three (hlow : 0x800 ≤ v) (hhigh : v ≤ 0xFFFF)
    (hchar : v < 0xD800 ∨ 0xDFFF < v) :
    ∃ low high, startByte (v / 4096 % 16 + 224) = some (.inr ⟨v / 4096, 2, low, high⟩) ∧
      low ≤ v / 64 % 64 + 128 ∧ v / 64 % 64 + 128 ≤ high := by
  -- the bounds for the byte behind the first one of three leave out what is shorter, and what is
  -- no character
  have hlead : v / 4096 % 16 = v / 4096 := Nat.mod_eq_of_lt (by omega)
  rw [hlead, startByte, if_neg (by omega), if_neg (by omega), if_neg (by omega)]
  by_cases hshort : v / 4096 = 0
  · rw [if_pos (by omega), hshort]
    exact ⟨_, _, rfl, by omega, by omega⟩
  rw [if_neg (by omega)]
  by_cases hsurrogate : v / 4096 = 0xD
  · rw [if_pos (by omega), hsurrogate]
    exact ⟨_, _, rfl, by omega, by omega⟩
  rw [if_neg (by omega), if_pos (by omega), Nat.add_sub_cancel]
  exact ⟨_, _, rfl, by omega, by omega⟩

private theorem startByte_four (hlow : 0x10000 ≤ v) (hhigh : v < 0x110000) :
    ∃ low high, startByte (v / 262144 % 8 + 240) = some (.inr ⟨v / 262144, 3, low, high⟩) ∧
      low ≤ v / 4096 % 64 + 128 ∧ v / 4096 % 64 + 128 ≤ high := by
  have hlead : v / 262144 % 8 = v / 262144 := Nat.mod_eq_of_lt (by omega)
  rw [hlead, startByte, if_neg (by omega), if_neg (by omega), if_neg (by omega), if_neg (by omega),
    if_neg (by omega), if_neg (by omega)]
  by_cases hshort : v / 262144 = 0
  · rw [if_pos (by omega), hshort]
    exact ⟨_, _, rfl, by omega, by omega⟩
  rw [if_neg (by omega)]
  by_cases hlong : v / 262144 = 4
  · rw [if_neg (by omega), if_pos (by omega), hlong]
    exact ⟨_, _, rfl, by omega, by omega⟩
  rw [if_pos (by omega), Nat.add_sub_cancel]
  exact ⟨_, _, rfl, by omega, by omega⟩

private theorem foldl_step_utf8EncodeChar (c : Char) (chars : List (Option Char)) :
    (String.utf8EncodeChar c).foldl step ⟨chars, none⟩ = ⟨some c :: chars, none⟩ := by
  have hchar : c.val.toNat < 0xD800 ∨ 0xDFFF < c.val.toNat ∧ c.val.toNat < 0x110000 := c.valid
  have hc : Char.ofNat c.val.toNat = c := Char.ofNat_toNat c
  rw [String.utf8EncodeChar.eq_1]
  generalize c.val.toNat = v at hchar hc
  split
  next hone =>
    have hstart : startByte v = some (.inl (Char.ofNat v)) := by rw [startByte, if_pos (by omega)]
    simp [step, start, toNat_ofNat (show v < 256 by omega), hstart, hc]
  split
  next hone htwo =>
    rw [List.foldl_cons, step_first (by omega) (startByte_two (by omega) htwo), List.foldl_cons,
      step_last (by omega) (by simp) (by simp; omega) rfl, List.foldl_nil]
    simp only
    rw [show 64 * (v / 64) + (v % 64 + 128 - 128) = v by omega, hc]
  split
  next hone htwo hthree =>
    obtain ⟨low, high, hfirst, hlow, hhigh⟩ := startByte_three (by omega) hthree (by omega)
    rw [List.foldl_cons, step_first (by omega) hfirst, List.foldl_cons,
      step_next (by omega) hlow hhigh (by simp), List.foldl_cons,
      step_last (by omega) (by simp) (by simp; omega) rfl, List.foldl_nil]
    simp only
    rw [show 64 * (64 * (v / 4096) + (v / 64 % 64 + 128 - 128)) + (v % 64 + 128 - 128) = v by omega,
      hc]
  next hone htwo hthree =>
    obtain ⟨low, high, hfirst, hlow, hhigh⟩ := startByte_four (v := v) (by omega) (by omega)
    rw [List.foldl_cons, step_first (by omega) hfirst, List.foldl_cons,
      step_next (by omega) hlow hhigh (by simp), List.foldl_cons,
      step_next (by omega) (by simp) (by simp; omega) (by simp), List.foldl_cons,
      step_last (by omega) (by simp) (by simp; omega) rfl, List.foldl_nil]
    simp only
    rw [show 64 * (64 * (64 * (v / 262144) + (v / 4096 % 64 + 128 - 128)) +
      (v / 64 % 64 + 128 - 128)) + (v % 64 + 128 - 128) = v by omega, hc]

/-! Texts -/

private theorem encode_eq_flatMap (s : String) :
    encode s = s.toList.flatMap String.utf8EncodeChar := by
  rw [encode, String.toUTF8_eq_toByteArray, ← String.utf8Encode_toList]
  exact List.toList_data_toByteArray

private theorem decodeChars_encode (s : String) : decodeChars (encode s) = s.toList.map some := by
  have hall : ∀ (cs : List Char) chars,
      (cs.flatMap String.utf8EncodeChar).foldl step ⟨chars, none⟩ =
        ⟨(cs.map some).reverse ++ chars, none⟩ := by
    intro cs
    induction cs with
    | nil => intro chars; rfl
    | cons c cs ih =>
      intro chars
      rw [List.flatMap_cons, List.foldl_append, foldl_step_utf8EncodeChar, ih]
      simp
  rw [decodeChars, encode_eq_flatMap, hall]
  simp [finish]

theorem decodeLossy_encode (s : String) : decodeLossy (encode s) = s := by
  rw [decodeLossy, decodeChars_encode, List.map_map]
  simp [Function.comp_def]

theorem encode_injective : Function.Injective encode :=
  Function.LeftInverse.injective decodeLossy_encode

/-! Line feeds -/

private theorem getLast?_utf8EncodeChar (c : Char) :
    (String.utf8EncodeChar c).getLast? = some 10 ↔ c = '\n' := by
  have hfeed : c = '\n' ↔ c.val.toNat = 10 := by
    constructor
    · rintro rfl
      rfl
    · intro h
      exact Char.toNat_inj.mp h
  have hbyte : ∀ b < 256, UInt8.ofNat b = 10 ↔ b = 10 := by
    intro b hb
    rw [← UInt8.toNat_inj, toNat_ofNat hb]
    rfl
  -- the last byte of several has its first bit set
  have hlast : ¬ UInt8.ofNat (c.val.toNat % 64 + 128) = 10 := by
    rw [hbyte _ (by omega)]
    omega
  rw [hfeed, String.utf8EncodeChar.eq_1]
  split
  next hone => simpa using hbyte c.val.toNat (by omega)
  next hmore =>
    have hneither : some (UInt8.ofNat (c.val.toNat % 64 + 128)) = some 10 ↔ c.val.toNat = 10 :=
      iff_of_false (fun h => hlast (Option.some.inj h)) (by omega)
    split
    · exact hneither
    · split
      · exact hneither
      · exact hneither

private theorem encode_eq_nil_iff (s : String) : encode s = [] ↔ s.toList = [] := by
  rw [encode_eq_flatMap, List.flatMap_eq_nil_iff]
  simp only [String.utf8EncodeChar_ne_nil, imp_false]
  exact List.eq_nil_iff_forall_not_mem.symm

private theorem getLast?_encode (s : String) :
    (encode s).getLast? = some 10 ↔ s.toList.getLast? = some '\n' := by
  rw [encode_eq_flatMap]
  cases s.toList.eq_nil_or_concat with
  | inl hnil => simp [hnil]
  | inr hconcat =>
    obtain ⟨cs, c, hcs⟩ := hconcat
    have hlast := List.getLast?_eq_some_getLast (String.utf8EncodeChar_ne_nil (c := c))
    rw [hcs, List.concat_eq_append, List.flatMap_append, List.flatMap_singleton,
      List.getLast?_append, hlast, Option.some_or, ← hlast, getLast?_utf8EncodeChar]
    simp

theorem closed_encode (s : String) :
    closed 10 (encode s) = encode (String.ofList (closed '\n' s.toList)) := by
  simp only [closed, encode_eq_nil_iff, getLast?_encode]
  split
  · rw [String.ofList_toList]
  · simp [encode_eq_flatMap]
    decide

end ShellSuite.Text
