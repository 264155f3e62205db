import RelayChat.Proofs.ByteOrder
import RelayChat.Proofs.LineSegments
import RelayChat.Proofs.MessageLines

/-!
# Texts survive as bytes

The bytes of a text are read back as the same text (`decode_encode`), for the reader takes
the bytes of every character as that character and is then between two characters again
(`foldl_encodeChar`). The lead byte tells how many bytes the character has; after four of
the lead bytes the next byte has a range of its own, which the characters that exist do not
leave.

A text of one line has no byte that ends a line (`unbroken_encode`), since all bytes of a
character outside ASCII are greater.
-/

namespace RelayChat

namespace LossyUtf8

variable {low high : UInt8} {owed bits n : Nat} {done : List Char} {c : Char}

/-! ## One character -/

theorem toNat_ofNat_of_lt (hn : n < 256) : (UInt8.ofNat n).toNat = n := by
  rw [UInt8.toNat_ofNat', Nat.mod_eq_of_lt hn]

theorem not_ascii (hlow : 128 ≤ n) (hhigh : n < 256) : ¬UInt8.ofNat n < 0x80 := by
  rw [UInt8.lt_iff_toNat_lt, toNat_ofNat_of_lt hhigh]
  exact Nat.not_lt_of_le hlow

/-- A byte that begins a character of several bytes. -/
theorem step_lead {b : UInt8} {character : Partial} (h : begins? b = some character)
    (hb : ¬b < 0x80) : Decoder.step ⟨none, done⟩ b = ⟨some character, done⟩ := by
  simp only [Decoder.step, Decoder.first, if_neg hb, h]

/-- A byte in its range gives six more bits to the character that has been begun. -/
theorem step_owed (hn : n < 192) (hlow : low.toNat ≤ n) (hhigh : n ≤ high.toNat) :
    Decoder.step ⟨some ⟨low, high, owed + 1, bits⟩, done⟩ (UInt8.ofNat n) =
      ⟨some ⟨0x80, 0xBF, owed, bits * 64 + (n - 128)⟩, done⟩ := by
  have hbyte : (UInt8.ofNat n).toNat = n := toNat_ofNat_of_lt (by omega)
  have hrange : (low ≤ UInt8.ofNat n && UInt8.ofNat n ≤ high) = true := by
    rw [Bool.and_eq_true, decide_eq_true_eq, decide_eq_true_eq, UInt8.le_iff_toNat_le,
      UInt8.le_iff_toNat_le, hbyte]
    exact ⟨hlow, hhigh⟩
  simp only [Decoder.step, hrange, if_true, hbyte]

/-- The last byte completes the character. -/
theorem step_last (hlow : 128 ≤ n) (hhigh : n < 192) :
    Decoder.step ⟨some ⟨0x80, 0xBF, 0, bits⟩, done⟩ (UInt8.ofNat n) =
      ⟨none, Char.ofNat (bits * 64 + (n - 128)) :: done⟩ := by
  have hbyte : (UInt8.ofNat n).toNat = n := toNat_ofNat_of_lt (by omega)
  have hrange : (0x80 ≤ UInt8.ofNat n && UInt8.ofNat n ≤ 0xBF) = true := by
    rw [Bool.and_eq_true, decide_eq_true_eq, decide_eq_true_eq, UInt8.le_iff_toNat_le,
      UInt8.le_iff_toNat_le, hbyte]
    exact ⟨hlow, Nat.le_of_lt_succ hhigh⟩
  simp only [Decoder.step, hrange, if_true, hbyte]

/-- The lead byte of two. -/
theorem begins?_two (hn : 127 < n) (hbound : n ≤ 2047) :
    begins? (UInt8.ofNat (n / 64 % 32 + 192)) = some ⟨0x80, 0xBF, 0, n / 64 % 32⟩ := by
  have hlead : ∀ k < 32, 2 ≤ k → begins? (UInt8.ofNat (k + 192)) = some ⟨0x80, 0xBF, 0, k⟩ := by
    decide
  exact hlead (n / 64 % 32) (by omega) (by omega)

/-- The lead byte of three. The range of the next byte leaves out what has a shorter form, and
surrogates. -/
theorem begins?_three (hn : 2047 < n) (hbound : n ≤ 65535) (hvalid : n < 0xD800 ∨ 0xDFFF < n) :
    ∃ low high, begins? (UInt8.ofNat (n / 4096 % 16 + 224)) =
        some ⟨low, high, 1, n / 4096 % 16⟩ ∧
      low.toNat ≤ n / 64 % 64 + 128 ∧ n / 64 % 64 + 128 ≤ high.toNat := by
  have hlead : ∀ k < 16, begins? (UInt8.ofNat (k + 224)) =
      some ⟨if k = 0 then 0xA0 else 0x80, if k = 13 then 0x9F else 0xBF, 1, k⟩ := by
    decide
  refine ⟨_, _, hlead (n / 4096 % 16) (by omega), ?_, ?_⟩
  · split
    · change 160 ≤ _
      omega
    · change 128 ≤ _
      omega
  · split
    · change _ ≤ 159
      omega
    · change _ ≤ 191
      omega

/-- The lead byte of four. The range of the next byte leaves out what has a shorter form, and
what is greater than every character. -/
theorem begins?_four (hn : 65535 < n) (hbound : n < 0x110000) :
    ∃ low high, begins? (UInt8.ofNat (n / 262144 % 8 + 240)) =
        some ⟨low, high, 2, n / 262144 % 8⟩ ∧
      low.toNat ≤ n / 4096 % 64 + 128 ∧ n / 4096 % 64 + 128 ≤ high.toNat := by
  have hlead : ∀ k < 5, begins? (UInt8.ofNat (k + 240)) =
      some ⟨if k = 0 then 0x90 else 0x80, if k = 4 then 0x8F else 0xBF, 2, k⟩ := by
    decide
  refine ⟨_, _, hlead (n / 262144 % 8) (by omega), ?_, ?_⟩
  · split
    · change 144 ≤ _
      omega
    · change 128 ≤ _
      omega
  · split
    · change _ ≤ 143
      omega
    · change _ ≤ 191
      omega

/-- The reader takes the bytes of a character as that character. -/
theorem foldl_encodeChar (c : Char) (done : List Char) :
    (String.utf8EncodeChar c).foldl Decoder.step ⟨none, done⟩ = ⟨none, c :: done⟩ := by
  have hc : Char.ofNat c.val.toNat = c := Char.ofNat_toNat c
  have hvalid : c.val.toNat < 0xD800 ∨ 0xDFFF < c.val.toNat ∧ c.val.toNat < 0x110000 := c.valid
  unfold String.utf8EncodeChar
  generalize c.val.toNat = v at hc hvalid ⊢
  dsimp only
  split_ifs with hone htwo hthree
  · have hascii : UInt8.ofNat v < 0x80 := by
      rw [UInt8.lt_iff_toNat_lt, toNat_ofNat_of_lt (by omega)]
      exact Nat.lt_succ_of_le hone
    simp only [List.foldl_cons, List.foldl_nil, Decoder.step, Decoder.first, if_pos hascii]
    rw [toNat_ofNat_of_lt (by omega), hc]
  · have hlead := begins?_two (Nat.lt_of_not_le hone) htwo
    have hbits : v / 64 % 32 * 64 + (v % 64 + 128 - 128) = v := by omega
    rw [List.foldl_cons, step_lead hlead (not_ascii (by omega) (by omega)), List.foldl_cons,
      step_last (by omega) (by omega), hbits, hc, List.foldl_nil]
  · obtain ⟨low, high, hlead, hlow, hhigh⟩ :=
      begins?_three (Nat.lt_of_not_le htwo) hthree (hvalid.imp_right And.left)
    have hbits : (v / 4096 % 16 * 64 + (v / 64 % 64 + 128 - 128)) * 64 +
        (v % 64 + 128 - 128) = v := by omega
    rw [List.foldl_cons, step_lead hlead (not_ascii (by omega) (by omega)), List.foldl_cons,
      step_owed (by omega) hlow hhigh, List.foldl_cons, step_last (by omega) (by omega), hbits, hc,
      List.foldl_nil]
  · obtain ⟨low, high, hlead, hlow, hhigh⟩ :=
      begins?_four (Nat.lt_of_not_le hthree) (by omega)
    have hmiddle : (0x80 : UInt8).toNat ≤ v / 64 % 64 + 128 := Nat.le_add_left 128 _
    have hmiddle' : v / 64 % 64 + 128 ≤ (0xBF : UInt8).toNat := by
      change _ ≤ 191
      omega
    have hbits : ((v / 262144 % 8 * 64 + (v / 4096 % 64 + 128 - 128)) * 64 +
        (v / 64 % 64 + 128 - 128)) * 64 + (v % 64 + 128 - 128) = v := by omega
    rw [List.foldl_cons, step_lead hlead (not_ascii (by omega) (by omega)), List.foldl_cons,
      step_owed (by omega) hlow hhigh, List.foldl_cons, step_owed (by omega) hmiddle hmiddle',
      List.foldl_cons, step_last (by omega) (by omega), hbits, hc, List.foldl_nil]

/-! ## Whole texts -/

/-- The reader takes the bytes of a text as that text. -/
theorem decode_encode (s : String) : decode (encode s) = s := by
  have hfold : ∀ (cs done : List Char), (cs.flatMap String.utf8EncodeChar).foldl Decoder.step
      ⟨none, done⟩ = ⟨none, cs.reverse ++ done⟩ := by
    intro cs
    induction cs with
    | nil => exact fun done => rfl
    | cons c cs ih =>
      intro done
      rw [List.flatMap_cons, List.foldl_append, foldl_encodeChar, ih, List.reverse_cons,
        List.append_assoc, List.singleton_append]
  rw [decode, encode_eq_flatMap, Decoder.start, hfold, List.append_nil, Decoder.finish]
  dsimp only
  rw [List.reverse_reverse, String.ofList_toList]

theorem encode_append (s t : String) : encode (s ++ t) = encode s ++ encode t := by
  rw [encode_eq_flatMap, encode_eq_flatMap, encode_eq_flatMap, String.toList_append,
    List.flatMap_append]

/-- A byte in the ASCII range is the only one of its character. -/
theorem eq_of_mem_encodeChar {b : UInt8} (h : b ∈ String.utf8EncodeChar c) (hb : b.toNat < 128) :
    c.toNat = b.toNat := by
  have hvalue : c.toNat = c.val.toNat := rfl
  unfold String.utf8EncodeChar at h
  dsimp only at h
  split_ifs at h <;> simp only [List.mem_cons, List.not_mem_nil, or_false] at h
  · rw [h, toNat_ofNat_of_lt (by omega), hvalue]
  · rcases h with rfl | rfl <;> rw [toNat_ofNat_of_lt (by omega)] at hb <;> omega
  · rcases h with rfl | rfl | rfl <;> rw [toNat_ofNat_of_lt (by omega)] at hb <;> omega
  · rcases h with rfl | rfl | rfl | rfl <;> rw [toNat_ofNat_of_lt (by omega)] at hb <;> omega

end LossyUtf8

/-- A text of one line has no byte that ends a line. -/
theorem OneLine.unbroken_encode {s : String} (h : OneLine s) :
    Framer.Unbroken (LossyUtf8.encode s) := by
  intro b hb
  rw [LossyUtf8.encode_eq_flatMap] at hb
  obtain ⟨c, hc, hbyte⟩ := List.mem_flatMap.mp hb
  obtain ⟨hreturn, hfeed⟩ := h c hc
  have hne : b ≠ 13 ∧ b ≠ 10 := by
    constructor
    · rintro rfl
      exact hreturn (Char.toNat_inj.mp (LossyUtf8.eq_of_mem_encodeChar hbyte (by decide)))
    · rintro rfl
      exact hfeed (Char.toNat_inj.mp (LossyUtf8.eq_of_mem_encodeChar hbyte (by decide)))
  simp [Framer.isTerminator, hne]

end RelayChat
