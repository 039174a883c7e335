import Transliteration.Proofs.Text.Encoding

/-!
# The lines of a text

`Line.Splits` says what the lines of a text are, in terms of its characters.  Every text has lines
and no others (`exists_splits`, `Splits.unique`), and the encoding of a text is split into the
encodings of its lines (`split_encode`).

Bytes may be split before they are decoded because the bytes of the two control characters stand for
nothing else: all bytes of a longer encoding are above them (`toNat_eq_of_mem_encodeChar`).
-/

namespace Transliteration

/-! ## Bytes of an encoding -/

namespace Utf8

/-- An ASCII byte in the encoding of a character is the character itself. -/
theorem toNat_eq_of_mem_encodeChar {c : Char} {byte : UInt8} (hbyte : byte.toNat < 128)
    (hmem : byte ∈ String.utf8EncodeChar c) :
    String.utf8EncodeChar c = [byte] ∧ c.toNat = byte.toNat := by
  -- in the longer forms every byte has its highest bit
  have hhigh : ∀ n, 128 ≤ n → n < 256 → byte ≠ UInt8.ofNat n := by
    rintro n hlow hlarge rfl
    rw [UInt8.toNat_ofNat_of_lt' hlarge] at hbyte
    omega
  simp only [String.utf8EncodeChar] at hmem ⊢
  split at hmem
  · rename_i hone
    obtain rfl := List.mem_singleton.mp hmem
    rw [if_pos hone]
    exact ⟨rfl, (UInt8.toNat_ofNat_of_lt' (Nat.lt_of_le_of_lt hone (by decide))).symm⟩
  split at hmem
  · simp only [List.mem_cons, List.not_mem_nil, or_false] at hmem
    rcases hmem with heq | heq
    all_goals exact absurd heq (hhigh _ (by omega) (by omega))
  split at hmem
  · simp only [List.mem_cons, List.not_mem_nil, or_false] at hmem
    rcases hmem with heq | heq | heq
    all_goals exact absurd heq (hhigh _ (by omega) (by omega))
  · simp only [List.mem_cons, List.not_mem_nil, or_false] at hmem
    rcases hmem with heq | heq | heq | heq
    all_goals exact absurd heq (hhigh _ (by omega) (by omega))

theorem encode_append (first second : List Char) :
    encode (first ++ second) = encode first ++ encode second :=
  List.flatMap_append

theorem encode_injective : Function.Injective encode := by
  intro first second heq
  have hdecode := congrArg decode? heq
  rw [decode?_encode, decode?_encode] at hdecode
  exact String.ofList_injective (Option.some.inj hdecode)

theorem encode_eq_nil_iff {text : List Char} : encode text = [] ↔ text = [] := by
  rw [← encode_injective.eq_iff (b := [])]
  rfl

/-- Where a text has no line feed its encoding has none. -/
theorem not_mem_encode_of_not_mem {text : List Char} (htext : '\n' ∉ text) : 10 ∉ encode text := by
  intro hmem
  obtain ⟨c, hc, hbyte⟩ := List.mem_flatMap.mp hmem
  have hcode := (toNat_eq_of_mem_encodeChar (by decide) hbyte).2
  have hfeed : c = '\n' := Char.ext (UInt32.toNat_inj.mp hcode)
  exact htext (hfeed ▸ hc)

/-- The encoding of a text ends with a carriage return only if the text does. -/
theorem getLast?_encode_ne {text : List Char} (htext : text.getLast? ≠ some '\r') :
    (encode text).getLast? ≠ some 13 := by
  intro hlast
  rcases List.eq_nil_or_concat text with rfl | ⟨front, c, rfl⟩
  · cases hlast
  · rw [List.concat_eq_append] at hlast htext
    have hbyte : (13 : UInt8) ∈ String.utf8EncodeChar c := by
      rw [encode_append, List.getLast?_append, encode, encode, List.flatMap_singleton,
        List.getLast?_eq_some_getLast (encodeChar_ne_nil c), Option.some_or] at hlast
      exact Option.some.inj hlast ▸ List.getLast_mem _
    have hcode := (toNat_eq_of_mem_encodeChar (by decide) hbyte).2
    have hreturn : c = '\r' := Char.ext (UInt32.toNat_inj.mp hcode)
    rw [List.getLast?_concat, hreturn] at htext
    exact htext rfl

end Utf8

/-! ## Lines -/

namespace Line

/-- The lines of a text. -/
inductive Splits : List Char → List (List Char) → Prop where
  | nil : Splits [] []
  /-- What follows the last line feed is a line if it is not empty. -/
  | last {line : List Char} (hline : '\n' ∉ line) (hne : line ≠ []) : Splits line [line]
  /-- A line ends at a line feed, which is not part of it. -/
  | feed {line rest : List Char} {lines : List (List Char)} (hline : '\n' ∉ line)
      (hreturn : line.getLast? ≠ some '\r') (hrest : Splits rest lines) :
      Splits (line ++ '\n' :: rest) (line :: lines)
  /-- A carriage return before the line feed is not part of the line either. -/
  | returnFeed {line rest : List Char} {lines : List (List Char)} (hline : '\n' ∉ line)
      (hrest : Splits rest lines) : Splits (line ++ '\r' :: '\n' :: rest) (line :: lines)

/-- Every text has lines. -/
theorem exists_splits (text : List Char) : ∃ lines, Splits text lines := by
  induction hlength : text.length using Nat.strongRecOn generalizing text with
  | ind length ih =>
      by_cases hfeed : '\n' ∈ text
      · obtain ⟨line, rest, rfl, hline⟩ := List.eq_append_cons_of_mem hfeed
        have hrest : rest.length < length := by
          rw [← hlength, List.length_append, List.length_cons]
          omega
        obtain ⟨lines, hlines⟩ := ih rest.length hrest rest rfl
        by_cases hreturn : line.getLast? = some '\r'
        · obtain ⟨front, rfl⟩ := List.getLast?_eq_some_iff.mp hreturn
          refine ⟨front :: lines, ?_⟩
          rw [List.append_assoc, List.singleton_append]
          exact .returnFeed (fun hmem => hline (List.mem_append_left _ hmem)) hlines
        · exact ⟨line :: lines, .feed hline hreturn hlines⟩
      · cases text with
        | nil => exact ⟨[], .nil⟩
        | cons c text => exact ⟨[c :: text], .last hfeed (List.cons_ne_nil _ _)⟩

/-! ## Splitting bytes -/

theorem splitFrom_append_feed {line : List UInt8} (hline : 10 ∉ line) (current rest : List UInt8) :
    splitFrom current (line ++ 10 :: rest) =
      dropReturn (current.reverse ++ line) :: splitFrom [] rest := by
  induction line generalizing current with
  | nil => rw [List.nil_append, splitFrom, if_pos rfl, List.append_nil]
  | cons byte line ih =>
      rw [List.mem_cons, not_or] at hline
      rw [List.cons_append, splitFrom, if_neg (Ne.symm hline.1), ih hline.2, List.reverse_cons,
        List.append_assoc, List.singleton_append]

theorem splitFrom_last {line : List UInt8} (hline : 10 ∉ line) (current : List UInt8)
    (hne : current.reverse ++ line ≠ []) : splitFrom current line = [current.reverse ++ line] := by
  induction line generalizing current with
  | nil =>
      rw [List.append_nil] at hne ⊢
      rw [splitFrom, if_neg]
      rw [List.isEmpty_iff]
      rintro rfl
      exact hne rfl
  | cons byte line ih =>
      rw [List.mem_cons, not_or] at hline
      rw [splitFrom, if_neg (Ne.symm hline.1), ih hline.2, List.reverse_cons, List.append_assoc,
        List.singleton_append]
      simp

/-- The encoding of a text is split into the encodings of its lines. -/
theorem split_encode {text : List Char} {lines : List (List Char)} (hlines : Splits text lines) :
    split (Utf8.encode text) = lines.map Utf8.encode := by
  unfold split
  induction hlines with
  | nil => rfl
  | @last line hline hne =>
      have hbytes := Utf8.not_mem_encode_of_not_mem hline
      exact splitFrom_last hbytes [] (fun h => hne (Utf8.encode_eq_nil_iff.mp h))
  | @feed line rest lines hline hreturn _ ih =>
      have hbytes := Utf8.not_mem_encode_of_not_mem hline
      -- the return belongs to the end of a line only if a feed follows it
      have hkept : dropReturn (Utf8.encode line) = Utf8.encode line :=
        if_neg (Utf8.getLast?_encode_ne hreturn)
      calc splitFrom [] (Utf8.encode (line ++ '\n' :: rest))
          = splitFrom [] (Utf8.encode line ++ 10 :: Utf8.encode rest) := by
            rw [Utf8.encode_append]; rfl
        _ = dropReturn (Utf8.encode line) :: splitFrom [] (Utf8.encode rest) :=
            splitFrom_append_feed hbytes [] _
        _ = (line :: lines).map Utf8.encode := by rw [hkept, ih, List.map_cons]
  | @returnFeed line rest lines hline _ ih =>
      have hbytes : 10 ∉ Utf8.encode line ++ [13] := by
        rw [List.mem_append, not_or]
        exact ⟨Utf8.not_mem_encode_of_not_mem hline, by decide⟩
      have hdropped : dropReturn (Utf8.encode line ++ [13]) = Utf8.encode line := by
        rw [dropReturn, if_pos List.getLast?_concat, List.dropLast_concat]
      calc splitFrom [] (Utf8.encode (line ++ '\r' :: '\n' :: rest))
          = splitFrom [] ((Utf8.encode line ++ [13]) ++ 10 :: Utf8.encode rest) := by
            rw [Utf8.encode_append, List.append_assoc]; rfl
        _ = dropReturn (Utf8.encode line ++ [13]) :: splitFrom [] (Utf8.encode rest) :=
            splitFrom_append_feed hbytes [] _
        _ = (line :: lines).map Utf8.encode := by rw [hdropped, ih, List.map_cons]

/-- A text has no other lines. -/
theorem Splits.unique {text : List Char} {first second : List (List Char)}
    (hfirst : Splits text first) (hsecond : Splits text second) : first = second := by
  have hencoded : first.map Utf8.encode = second.map Utf8.encode :=
    (split_encode hfirst).symm.trans (split_encode hsecond)
  exact (List.map_inj_right fun _ _ heq => Utf8.encode_injective heq).mp hencoded

end Line

end Transliteration
