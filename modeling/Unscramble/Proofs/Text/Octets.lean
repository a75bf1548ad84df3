import Mathlib.Tactic.SplitIfs
import Unscramble.Proofs.Text.Offsets
import Unscramble.Text.Utf8

/-! Texts and the octets of their UTF-8 form: how long they are and what is cut from them. An octet
below 128 stands at an offset where the character of this number begins, and nowhere else. -/
namespace Unscramble.Utf8
variable {c d : Char} {t x : Text} {b n : Nat}

theorem encode_cons (c : Char) (t : Text) : encode (c :: t) = encodeChar c ++ encode t := rfl

theorem length_encodeChar (c : Char) : (encodeChar c).length = c.utf8Size := by
  have hsize : c.utf8Size = if c.toNat ≤ 127 then 1 else if c.toNat ≤ 2047 then 2 else
      if c.toNat ≤ 65535 then 3 else 4 := by
    simp only [Char.utf8Size, UInt32.le_iff_toNat_le]
    rfl
  rw [encodeChar, hsize]
  split_ifs <;> first | rfl | omega

theorem encodeChar_of_lt (h : c.toNat < 128) : encodeChar c = [c.toNat] := if_pos h

theorem le_of_mem_encodeChar (h : 128 ≤ c.toNat) (hb : b ∈ encodeChar c) : 128 ≤ b := by
  simp only [encodeChar] at hb
  split_ifs at hb <;>
  · simp only [List.mem_cons, List.not_mem_nil, or_false] at hb
    omega

theorem encode_append (t u : Text) : encode (t ++ u) = encode t ++ encode u := List.flatMap_append

theorem length_encode (t : Text) : (encode t).length = t.byteLength := by
  induction t with
  | nil => rfl
  | cons c t ih => rw [encode_cons, List.length_append, length_encodeChar, ih, Text.byteLength_cons]

theorem drop_encode (h : t.dropBytes? n = some x) : (encode t).drop n = encode x := by
  obtain ⟨u, rfl, rfl⟩ := Text.dropBytes?_eq_some_iff.1 h
  rw [encode_append, ← length_encode, List.drop_left]

theorem utf8Size_of_lt (h : c.toNat < 128) : c.utf8Size = 1 := by
  rw [← length_encodeChar, encodeChar_of_lt h, List.length_singleton]

/-- Behind its first octet a character has octets from 128 on only. -/
theorem exists_tail_encodeChar (c : Char) : ∃ b bs, encodeChar c = b :: bs ∧
    bs.length + 1 = c.utf8Size ∧ ∀ x ∈ bs, 128 ≤ x := by
  have hlength := length_encodeChar c
  cases he : encodeChar c with
  | nil =>
    have hc := c.utf8Size_pos
    rw [he] at hlength
    exact absurd hlength (Nat.ne_of_lt hc)
  | cons b bs =>
    refine ⟨b, bs, rfl, by rw [← hlength, he, List.length_cons], fun x hx => ?_⟩
    by_cases hc : c.toNat < 128
    · rw [encodeChar_of_lt hc] at he
      rw [← (List.cons.inj he).2] at hx
      cases hx
    · exact le_of_mem_encodeChar (Nat.le_of_not_lt hc) (he ▸ .tail b hx)

theorem getElem?_encode_eq_iff (hc : c.toNat < 128) :
    (encode t)[n]? = some c.toNat ↔ ∃ r, t.dropBytes? n = some (c :: r) := by
  induction t generalizing n with
  | nil => cases n <;> simp [encode, Text.dropBytes?]
  | cons d t ih =>
    rw [encode_cons]
    by_cases hn : d.utf8Size ≤ n
    · rw [List.getElem?_append_right (length_encodeChar d ▸ hn), length_encodeChar, ih,
        Text.dropBytes?_cons hn]
    · rw [List.getElem?_append_left (length_encodeChar d ▸ Nat.lt_of_not_le hn)]
      cases n with
      | zero =>
        by_cases hd : d.toNat < 128
        · simp [encodeChar_of_lt hd, Text.dropBytes?, Char.toNat_inj]
        · have hne : d ≠ c := fun h => hd (h ▸ hc)
          have hno : (encodeChar d)[0]? ≠ some c.toNat := fun h => by
            have hle := le_of_mem_encodeChar (Nat.le_of_not_lt hd) (List.mem_of_getElem? h)
            omega
          simp [Text.dropBytes?, hno, hne]
      | succ n =>
        have hd : ¬d.toNat < 128 := fun h => by
          have hlen := length_encodeChar d
          rw [encodeChar_of_lt h, List.length_singleton] at hlen
          omega
        have hno : (encodeChar d)[n + 1]? ≠ some c.toNat := fun h => by
          have hle := le_of_mem_encodeChar (Nat.le_of_not_lt hd) (List.mem_of_getElem? h)
          omega
        simp [Text.dropBytes?_inside (Nat.succ_pos n) (Nat.lt_of_not_le hn), hno]

end Unscramble.Utf8
