import Mathlib
import Transliteration.Proofs.Text.Encoding

/-!
# Only encodings are decoded

What is read as a character is the encoding of that character, and so bytes are decoded as a text if
and only if they are its encoding (`decode?_eq_some_iff`).  Bytes that are no text are therefore
those that encode none.

The proof goes along the four forms again: the ranges in which the bytes of a form have to lie leave
no room for a second encoding of the same character, nor for a surrogate.
-/

namespace Transliteration.Utf8

/-! ## One character -/

theorem eq_ofNat_of_continuation? {byte : UInt8} {bits : Nat}
    (hbyte : continuation? byte = some bits) : bits < 64 ∧ byte = UInt8.ofNat (bits + 128) := by
  unfold continuation? at hbyte
  split at hbyte
  · rename_i hrange
    obtain ⟨hlow, hhigh⟩ := hrange
    obtain rfl := Option.some.inj hbyte
    rw [UInt8.le_iff_toNat_le] at hlow
    rw [UInt8.lt_iff_toNat_lt] at hhigh
    change 128 ≤ byte.toNat at hlow
    change byte.toNat < 192 at hhigh
    refine ⟨by omega, ?_⟩
    rw [Nat.sub_add_cancel hlow, UInt8.ofNat_toNat]
  · cases hbyte

section

variable {a b c d : Nat}

theorem encodeChar_one (ha : a < 128) :
    String.utf8EncodeChar (Char.ofNat a) = [UInt8.ofNat a] := by
  have hvalid : a.isValidChar := .inl (by omega)
  simp only [String.utf8EncodeChar, Char.toNat_val, Char.toNat_ofNat, if_pos hvalid]
  rw [if_pos (by omega)]

theorem encodeChar_two (hleast : 2 ≤ a) (ha : a < 32) (hb : b < 64) :
    String.utf8EncodeChar (Char.ofNat (a * 64 + b)) =
      [UInt8.ofNat (a + 192), UInt8.ofNat (b + 128)] := by
  have hfirst : (a * 64 + b) / 64 % 32 = a := by omega
  have hsecond : (a * 64 + b) % 64 = b := by omega
  have hvalid : (a * 64 + b).isValidChar := .inl (by omega)
  simp only [String.utf8EncodeChar, Char.toNat_val, Char.toNat_ofNat, if_pos hvalid, hfirst,
    hsecond]
  rw [if_neg (by omega), if_pos (by omega)]

theorem encodeChar_three (ha : a < 16) (hb : b < 64) (hc : c < 64)
    (hleast : 0x800 ≤ a * 4096 + b * 64 + c)
    (hvalid : a * 4096 + b * 64 + c < 0xD800 ∨ 0xE000 ≤ a * 4096 + b * 64 + c) :
    String.utf8EncodeChar (Char.ofNat (a * 4096 + b * 64 + c)) =
      [UInt8.ofNat (a + 224), UInt8.ofNat (b + 128), UInt8.ofNat (c + 128)] := by
  have hfirst : (a * 4096 + b * 64 + c) / 4096 % 16 = a := by omega
  have hsecond : (a * 4096 + b * 64 + c) / 64 % 64 = b := by omega
  have hthird : (a * 4096 + b * 64 + c) % 64 = c := by omega
  have hchar : (a * 4096 + b * 64 + c).isValidChar := by
    unfold Nat.isValidChar
    omega
  simp only [String.utf8EncodeChar, Char.toNat_val, Char.toNat_ofNat, if_pos hchar, hfirst,
    hsecond, hthird]
  rw [if_neg (by omega), if_neg (by omega), if_pos (by omega)]

theorem encodeChar_four (hb : b < 64) (hc : c < 64) (hd : d < 64)
    (hleast : 0x10000 ≤ a * 262144 + b * 4096 + c * 64 + d)
    (hvalid : a * 262144 + b * 4096 + c * 64 + d < 0x110000) :
    String.utf8EncodeChar (Char.ofNat (a * 262144 + b * 4096 + c * 64 + d)) =
      [UInt8.ofNat (a + 240), UInt8.ofNat (b + 128), UInt8.ofNat (c + 128),
        UInt8.ofNat (d + 128)] := by
  have hfirst : (a * 262144 + b * 4096 + c * 64 + d) / 262144 % 8 = a := by omega
  have hsecond : (a * 262144 + b * 4096 + c * 64 + d) / 4096 % 64 = b := by omega
  have hthird : (a * 262144 + b * 4096 + c * 64 + d) / 64 % 64 = c := by omega
  have hfourth : (a * 262144 + b * 4096 + c * 64 + d) % 64 = d := by omega
  have hchar : (a * 262144 + b * 4096 + c * 64 + d).isValidChar := .inr ⟨by omega, hvalid⟩
  simp only [String.utf8EncodeChar, Char.toNat_val, Char.toNat_ofNat, if_pos hchar, hfirst,
    hsecond, hthird, hfourth]
  rw [if_neg (by omega), if_neg (by omega), if_neg (by omega)]

end

/-- A byte in a range, as the first of a longer encoding. -/
theorem ofNat_sub_add {byte : UInt8} {low : Nat} (hlow : low ≤ byte.toNat) :
    UInt8.ofNat (byte.toNat - low + low) = byte := by
  rw [Nat.sub_add_cancel hlow, UInt8.ofNat_toNat]

/-- What is read as a character begins with the encoding of the character. -/
theorem exists_of_decodeChar?_eq_some {bytes : List UInt8} {char : Char} {width : Nat}
    (hdecode : decodeChar? bytes = some (char, width)) :
    ∃ rest, bytes = String.utf8EncodeChar char ++ rest ∧
      width = (String.utf8EncodeChar char).length := by
  unfold decodeChar? at hdecode
  split at hdecode
  · cases hdecode
  rename_i first rest
  -- the bounds are compared as numbers from here on
  simp only [UInt8.lt_iff_toNat_lt] at hdecode
  change (if first.toNat < 128 then _ else if first.toNat < 194 then _ else
    if first.toNat < 224 then _ else if first.toNat < 240 then _ else
    if first.toNat < 245 then _ else _) = _ at hdecode
  split at hdecode
  case isTrue hone =>
    cases hdecode
    rw [encodeChar_one hone, UInt8.ofNat_toNat]
    exact ⟨rest, rfl, rfl⟩
  split at hdecode
  · cases hdecode
  split at hdecode
  case isTrue htwo =>
    split at hdecode
    · rename_i second rest
      simp only [Option.bind_eq_bind, Option.bind_eq_some_iff, Option.pure_def, Option.some.injEq,
        Prod.mk.injEq] at hdecode
      obtain ⟨b, hsecond, rfl, rfl⟩ := hdecode
      obtain ⟨hb, rfl⟩ := eq_ofNat_of_continuation? hsecond
      rw [encodeChar_two (by omega) (by omega) hb, ofNat_sub_add (by omega)]
      exact ⟨rest, rfl, rfl⟩
    · cases hdecode
  split at hdecode
  case isTrue hthree =>
    split at hdecode
    · rename_i second third rest
      simp only [Option.bind_eq_bind, Option.bind_eq_some_iff, Option.ite_none_left_eq_some,
        Option.some.injEq, Prod.mk.injEq] at hdecode
      obtain ⟨b, hsecond, c, hthird, hvalid, rfl, rfl⟩ := hdecode
      obtain ⟨hb, rfl⟩ := eq_ofNat_of_continuation? hsecond
      obtain ⟨hc, rfl⟩ := eq_ofNat_of_continuation? hthird
      rw [encodeChar_three (by omega) hb hc (by omega) (by omega), ofNat_sub_add (by omega)]
      exact ⟨rest, rfl, rfl⟩
    · cases hdecode
  split at hdecode
  case isTrue hfour =>
    split at hdecode
    · rename_i second third fourth rest
      simp only [Option.bind_eq_bind, Option.bind_eq_some_iff, Option.ite_none_left_eq_some,
        Option.some.injEq, Prod.mk.injEq] at hdecode
      obtain ⟨b, hsecond, c, hthird, d, hfourth, hvalid, rfl, rfl⟩ := hdecode
      obtain ⟨hb, rfl⟩ := eq_ofNat_of_continuation? hsecond
      obtain ⟨hc, rfl⟩ := eq_ofNat_of_continuation? hthird
      obtain ⟨hd, rfl⟩ := eq_ofNat_of_continuation? hfourth
      rw [encodeChar_four hb hc hd (by omega) (by omega), ofNat_sub_add (by omega)]
      exact ⟨rest, rfl, rfl⟩
    · cases hdecode
  · cases hdecode

/-! ## A text -/

theorem eq_map_some_of_mapM_id {symbols : List Symbol} {text : List Char}
    (htext : symbols.mapM (id : Symbol → Option Char) = some text) : symbols = text.map some := by
  induction symbols generalizing text with
  | nil =>
      cases htext
      rfl
  | cons symbol symbols ih =>
      rw [List.mapM_cons] at htext
      obtain ⟨c, hsymbol, htext⟩ := Option.bind_eq_some_iff.mp htext
      obtain ⟨rest, hrest, htext⟩ := Option.bind_eq_some_iff.mp htext
      cases htext
      rw [ih hrest, show symbol = some c from hsymbol]
      rfl

/-- Bytes that are read as characters without a gap are the encoding of these characters. -/
theorem eq_encode_of_symbols_eq {bytes : List UInt8} {text : List Char}
    (hsymbols : symbols bytes = text.map some) : bytes = encode text := by
  induction text generalizing bytes with
  | nil =>
      cases bytes with
      | nil => rfl
      | cons byte bytes =>
          rw [symbols, symbolsFrom] at hsymbols
          split at hsymbols <;> cases hsymbols
  | cons c text ih =>
      cases bytes with
      | nil => cases hsymbols
      | cons byte bytes =>
          cases hdecode : decodeChar? (byte :: bytes) with
          -- bytes that cannot be decoded would leave a gap
          | none =>
              rw [symbols, symbolsFrom, hdecode] at hsymbols
              cases hsymbols
          | some found =>
              obtain ⟨c', width⟩ := found
              obtain ⟨rest, hbytes, -⟩ := exists_of_decodeChar?_eq_some hdecode
              rw [hbytes, symbols, symbolsFrom_encodeChar, List.map_cons, List.cons.injEq]
                at hsymbols
              obtain ⟨hchar, hrest⟩ := hsymbols
              rw [hbytes, ih hrest, Option.some.inj hchar]
              rfl

/-- Bytes are decoded as a text if they are its encoding, and not otherwise. -/
theorem decode?_eq_some_iff {bytes : List UInt8} {text : String} :
    decode? bytes = some text ↔ bytes = encode text.toList := by
  constructor
  · intro hdecode
    obtain ⟨chars, hchars, rfl⟩ := Option.map_eq_some_iff.mp hdecode
    rw [String.toList_ofList]
    exact eq_encode_of_symbols_eq (eq_map_some_of_mapM_id hchars)
  · rintro rfl
    rw [decode?_encode, String.ofList_toList]

end Transliteration.Utf8
