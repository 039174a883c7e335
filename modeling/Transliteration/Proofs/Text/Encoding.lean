import Transliteration.Text.Utf8

/-!
# Reading what has been encoded

The encoding of a text is read as the characters of the text, one symbol for each.  A character
takes one to four bytes; what is shown for each of these four forms is that the first byte tells the
form, and that the bits of the character are put together again.
-/

namespace Transliteration.Utf8

/-! ## One character -/

/-- A byte that continues a character keeps six bits. -/
theorem continuation?_ofNat {bits : Nat} (hbits : bits < 64) :
    continuation? (UInt8.ofNat (bits + 128)) = some bits := by
  have hbyte : (UInt8.ofNat (bits + 128)).toNat = bits + 128 :=
    UInt8.toNat_ofNat_of_lt' (show bits + 128 < 256 by omega)
  generalize UInt8.ofNat (bits + 128) = byte at hbyte
  have hlow : 0x80 ≤ byte := by
    rw [UInt8.le_iff_toNat_le, hbyte]
    exact Nat.le_add_left 128 bits
  have hhigh : byte < 0xC0 := by
    rw [UInt8.lt_iff_toNat_lt, hbyte]
    show bits + 128 < 192
    omega
  rw [continuation?, if_pos ⟨hlow, hhigh⟩, hbyte, Nat.add_sub_cancel]

variable {first second third fourth : UInt8} {a b c d : Nat}

theorem decodeChar?_one (hfirst : first.toNat = a) (ha : a < 128) (rest : List UInt8) :
    decodeChar? (first :: rest) = some (Char.ofNat a, 1) := by
  simp [decodeChar?, UInt8.lt_iff_toNat_lt, hfirst, ha]

/-- A byte that is at least some bound is below no smaller one. -/
theorem not_lt_of_toNat_eq {byte : UInt8} {low : Nat} (hbyte : byte.toNat = a + low) (bound : UInt8)
    (hbound : bound.toNat ≤ low) : ¬ byte < bound := by
  rw [UInt8.lt_iff_toNat_lt, hbyte]
  omega

theorem decodeChar?_two (hfirst : first.toNat = a + 192) (hsecond : continuation? second = some b)
    (hleast : 2 ≤ a) (ha : a < 32) (rest : List UInt8) :
    decodeChar? (first :: second :: rest) = some (Char.ofNat (a * 64 + b), 2) := by
  have hlow : ¬ first < 0xC2 := by
    rw [UInt8.lt_iff_toNat_lt, hfirst]
    show ¬ a + 192 < 194
    omega
  have htwo : first < 0xE0 := by
    rw [UInt8.lt_iff_toNat_lt, hfirst]
    show a + 192 < 224
    omega
  rw [decodeChar?, if_neg (not_lt_of_toNat_eq hfirst 0x80 (by decide)), if_neg hlow, if_pos htwo]
  rw [hsecond, hfirst, Nat.add_sub_cancel, Option.bind_eq_bind, Option.bind_some]
  rfl

theorem decodeChar?_three (hfirst : first.toNat = a + 224)
    (hsecond : continuation? second = some b) (hthird : continuation? third = some c)
    (ha : a < 16) (hleast : 0x800 ≤ a * 4096 + b * 64 + c)
    (hvalid : a * 4096 + b * 64 + c < 0xD800 ∨ 0xE000 ≤ a * 4096 + b * 64 + c)
    (rest : List UInt8) :
    decodeChar? (first :: second :: third :: rest) =
      some (Char.ofNat (a * 4096 + b * 64 + c), 3) := by
  have hlow := not_lt_of_toNat_eq hfirst
  have hthree : first < 0xF0 := by
    rw [UInt8.lt_iff_toNat_lt, hfirst]
    show a + 224 < 240
    omega
  have hcode : ¬ (a * 4096 + b * 64 + c < 0x800 ∨
      (0xD800 ≤ a * 4096 + b * 64 + c ∧ a * 4096 + b * 64 + c < 0xE000)) := by omega
  rw [decodeChar?, if_neg (hlow 0x80 (by decide)), if_neg (hlow 0xC2 (by decide)),
    if_neg (hlow 0xE0 (by decide)), if_pos hthree]
  dsimp only
  rw [hsecond, hthird, hfirst, Nat.add_sub_cancel, Option.bind_eq_bind, Option.bind_some,
    Option.bind_some, if_neg hcode]

theorem decodeChar?_four (hfirst : first.toNat = a + 240)
    (hsecond : continuation? second = some b) (hthird : continuation? third = some c)
    (hfourth : continuation? fourth = some d) (ha : a < 5)
    (hleast : 0x10000 ≤ a * 262144 + b * 4096 + c * 64 + d)
    (hvalid : a * 262144 + b * 4096 + c * 64 + d < 0x110000) (rest : List UInt8) :
    decodeChar? (first :: second :: third :: fourth :: rest) =
      some (Char.ofNat (a * 262144 + b * 4096 + c * 64 + d), 4) := by
  have hlow := not_lt_of_toNat_eq hfirst
  have hfour : first < 0xF5 := by
    rw [UInt8.lt_iff_toNat_lt, hfirst]
    show a + 240 < 245
    omega
  have hcode : ¬ (a * 262144 + b * 4096 + c * 64 + d < 0x10000 ∨
      0x110000 ≤ a * 262144 + b * 4096 + c * 64 + d) := by omega
  rw [decodeChar?, if_neg (hlow 0x80 (by decide)), if_neg (hlow 0xC2 (by decide)),
    if_neg (hlow 0xE0 (by decide)), if_neg (hlow 0xF0 (by decide)), if_pos hfour]
  dsimp only
  -- the steps are opened one by one, for the kernel is slow to compare the code with the bounds
  rw [hsecond, hthird, hfourth, hfirst, Nat.add_sub_cancel, Option.bind_eq_bind, Option.bind_some,
    Option.bind_some, Option.bind_some, if_neg hcode]

/-- A character is read off its encoding, whatever comes after it. -/
theorem decodeChar?_encodeChar (c : Char) (rest : List UInt8) :
    decodeChar? (String.utf8EncodeChar c ++ rest) =
      some (c, (String.utf8EncodeChar c).length) := by
  have hvalid : c.toNat < 0xD800 ∨ 0xDFFF < c.toNat ∧ c.toNat < 0x110000 := c.valid
  have hchar : Char.ofNat c.toNat = c := Char.ofNat_toNat c
  have hval : c.val.toNat = c.toNat := rfl
  simp only [String.utf8EncodeChar, hval]
  generalize c.toNat = code at hvalid hchar
  have hfirst : ∀ n < 256, (UInt8.ofNat n).toNat = n := fun _ => UInt8.toNat_ofNat_of_lt'
  have hlow : ∀ n, continuation? (UInt8.ofNat (n % 64 + 128)) = some (n % 64) := fun n =>
    continuation?_ofNat (Nat.mod_lt n (by omega))
  -- one case for each length, in which the digits of the code are put together again
  split
  · rw [List.singleton_append, decodeChar?_one (hfirst _ (by omega)) (by omega), hchar]
    rfl
  split
  · have hcode : code / 64 % 32 * 64 + code % 64 = code := by omega
    rw [List.cons_append, List.singleton_append,
      decodeChar?_two (hfirst _ (by omega)) (hlow code) (by omega) (by omega), hcode,
      hchar]
    rfl
  split
  · have hcode : code / 4096 % 16 * 4096 + code / 64 % 64 * 64 + code % 64 = code := by omega
    rw [List.cons_append, List.cons_append, List.singleton_append,
      decodeChar?_three (hfirst _ (by omega)) (hlow _) (hlow code) (by omega) (by omega)
        (by omega), hcode, hchar]
    rfl
  · have hcode : code / 262144 % 8 * 262144 + code / 4096 % 64 * 4096 + code / 64 % 64 * 64 +
        code % 64 = code := by omega
    rw [List.cons_append, List.cons_append, List.cons_append, List.singleton_append,
      decodeChar?_four (hfirst _ (by omega)) (hlow _) (hlow _) (hlow code) (by omega)
        (by omega) (by omega), hcode, hchar]
    rfl

theorem encodeChar_ne_nil (c : Char) : String.utf8EncodeChar c ≠ [] := by
  unfold String.utf8EncodeChar
  grind

/-! ## A text -/

theorem symbolsFrom_append (skipped rest : List UInt8) :
    symbolsFrom skipped.length (skipped ++ rest) = symbolsFrom 0 rest := by
  induction skipped with
  | nil => rfl
  | cons byte skipped ih => exact ih

theorem symbolsFrom_encodeChar (c : Char) (rest : List UInt8) :
    symbolsFrom 0 (String.utf8EncodeChar c ++ rest) = some c :: symbolsFrom 0 rest := by
  have hdecode := decodeChar?_encodeChar c rest
  cases hbytes : String.utf8EncodeChar c with
  | nil => exact absurd hbytes (encodeChar_ne_nil c)
  | cons byte bytes =>
      rw [hbytes, List.cons_append] at hdecode
      rw [List.cons_append, symbolsFrom, hdecode]
      simp only [List.length_cons, Nat.add_sub_cancel]
      rw [symbolsFrom_append]

/-- An encoding is read as the characters of its text. -/
theorem symbols_encode (text : List Char) : symbols (encode text) = text.map some := by
  induction text with
  | nil => rfl
  | cons c text ih =>
      rw [encode, List.flatMap_cons, symbols, symbolsFrom_encodeChar]
      exact congrArg (some c :: ·) ih

/-- The encoding of a text is decoded as the text. -/
theorem decode?_encode (text : List Char) : decode? (encode text) = some (String.ofList text) := by
  have hsymbols : (text.map some).mapM (id : Symbol → Option Char) = some text := by
    induction text with
    | nil => rfl
    | cons c text ih => simp [List.mapM_cons, ih]
  rw [decode?, symbols_encode, hsymbols]
  rfl

end Transliteration.Utf8
