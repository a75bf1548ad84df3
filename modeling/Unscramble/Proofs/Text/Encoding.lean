import Unscramble.Proofs.Text.Octets

/-! What a text is written as in UTF-8 is read back as this text. The reader takes one character off
the octets in each step, told by its first octet how many there are. -/
namespace Unscramble.Utf8
variable {a b b' b'' : Nat}

theorem decode_one (h : a < 0x80) (bs : Octets) : decode (a :: bs) = Char.ofNat a :: decode bs := by
  rw [decode.eq_def]
  exact if_pos h

theorem decode_two (h : 0xC2 ≤ a ∧ a ≤ 0xDF) (hb : isTail b) (bs : Octets) :
    decode (a :: b :: bs) = Char.ofNat ((a - 0xC0) * 64 + (b - 0x80)) :: decode bs := by
  rw [decode.eq_def]
  simp only [if_neg (show ¬a < 0x80 by omega), if_pos h, if_pos hb]

theorem decode_three (h : 0xE0 ≤ a ∧ a ≤ 0xEF) (hb : isSecondOfThree a b) (hb' : isTail b')
    (bs : Octets) : decode (a :: b :: b' :: bs) =
      Char.ofNat ((a - 0xE0) * 4096 + (b - 0x80) * 64 + (b' - 0x80)) :: decode bs := by
  rw [decode.eq_def]
  simp only [if_neg (show ¬a < 0x80 by omega), if_neg (show ¬(0xC2 ≤ a ∧ a ≤ 0xDF) by omega),
    if_pos h, if_pos hb, if_pos hb']

theorem decode_four (h : 0xF0 ≤ a ∧ a ≤ 0xF4) (hb : isSecondOfFour a b) (hb' : isTail b')
    (hb'' : isTail b'') (bs : Octets) : decode (a :: b :: b' :: b'' :: bs) =
      Char.ofNat ((a - 0xF0) * 262144 + (b - 0x80) * 4096 + (b' - 0x80) * 64 + (b'' - 0x80)) ::
        decode bs := by
  rw [decode.eq_def]
  simp only [if_neg (show ¬a < 0x80 by omega), if_neg (show ¬(0xC2 ≤ a ∧ a ≤ 0xDF) by omega),
    if_neg (show ¬(0xE0 ≤ a ∧ a ≤ 0xEF) by omega), if_pos h, if_pos hb, if_pos hb', if_pos hb'']

theorem isTail_iff : isTail b ↔ 0x80 ≤ b ∧ b ≤ 0xBF := by simp [isTail]

/-- The least numbers of three octets are for characters of fewer, the numbers behind `0xED 0x9F` for
no character. -/
theorem isSecondOfThree_iff : isSecondOfThree a b ↔
    (0x80 ≤ b ∧ b ≤ 0xBF) ∧ (a = 0xE0 → 0xA0 ≤ b) ∧ (a = 0xED → b ≤ 0x9F) := by
  rw [isSecondOfThree]
  split_ifs <;> simp [isTail] <;> omega

theorem isSecondOfFour_iff : isSecondOfFour a b ↔
    (0x80 ≤ b ∧ b ≤ 0xBF) ∧ (a = 0xF0 → 0x90 ≤ b) ∧ (a = 0xF4 → b ≤ 0x8F) := by
  rw [isSecondOfFour]
  split_ifs <;> simp [isTail] <;> omega

theorem decode_encodeChar (c : Char) (bs : Octets) :
    decode (encodeChar c ++ bs) = c :: decode bs := by
  have hvalid : c.toNat < 0xD800 ∨ 0xDFFF < c.toNat ∧ c.toNat < 0x110000 := c.valid
  have hc {n : Nat} (hn : n = c.toNat) : Char.ofNat n = c := by rw [hn, Char.ofNat_toNat]
  simp only [encodeChar]
  split_ifs with h1 h2 h3 <;> simp only [List.cons_append, List.nil_append]
  · rw [decode_one h1, Char.ofNat_toNat]
  · rw [decode_two (by omega) (isTail_iff.2 (by omega)), hc (by omega)]
  · rw [decode_three (by omega) (isSecondOfThree_iff.2 (by omega)) (isTail_iff.2 (by omega)),
      hc (by omega)]
  · rw [decode_four (by omega) (isSecondOfFour_iff.2 (by omega)) (isTail_iff.2 (by omega))
      (isTail_iff.2 (by omega)), hc (by omega)]

theorem decode_encode (t : Text) : decode (encode t) = t := by
  induction t with
  | nil => rfl
  | cons c t ih => rw [encode_cons, decode_encodeChar, ih]

theorem lt_of_mem_encodeChar {c : Char} (h : b ∈ encodeChar c) : b < 256 := by
  have hvalid : c.toNat < 0xD800 ∨ 0xDFFF < c.toNat ∧ c.toNat < 0x110000 := c.valid
  simp only [encodeChar] at h
  split_ifs at h <;>
  · simp only [List.mem_cons, List.not_mem_nil, or_false] at h
    omega

theorem lt_of_mem_encode {t : Text} (h : b ∈ encode t) : b < 256 := by
  obtain ⟨c, -, hb⟩ := List.mem_flatMap.1 h
  exact lt_of_mem_encodeChar hb

end Unscramble.Utf8
