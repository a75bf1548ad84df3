import Unscramble.Proofs.Text.Cutting
import Unscramble.Proofs.Text.Encoding
import Unscramble.Url.Form

/-! Pairs that have been form-encoded are read back as they were: each octet of a name or a value
comes back from what it is written as, and what is written has none of the separators. -/
namespace Unscramble

namespace Percent
open Utf8
variable {b h l x y : Nat}

theorem decode_cons (hb : b ≠ 0x25) (bs : Octets) : decode (b :: bs) = b :: decode bs := by
  rw [decode.eq_def]
  exact if_neg hb

theorem decode_escape (hh : hexValue? h = some x) (hl : hexValue? l = some y) (bs : Octets) :
    decode (0x25 :: h :: l :: bs) = (x * 16 + y) :: decode bs := by
  rw [decode.eq_def]
  simp only [if_true, hh, hl]

end Percent

namespace Form
open Utf8
variable {b : Nat} {c : Char} {t : Text}

theorem isPlain_iff : isPlain b ↔ (0x30 ≤ b ∧ b ≤ 0x39) ∨ (0x41 ≤ b ∧ b ≤ 0x5A) ∨
    (0x61 ≤ b ∧ b ≤ 0x7A) ∨ b = 0x2A ∨ b = 0x2D ∨ b = 0x2E ∨ b = 0x5F := by
  simp [isPlain, or_assoc]

theorem toNat_ofNat_of_isPlain (h : isPlain b) : (Char.ofNat b).toNat = b := by
  have hb := isPlain_iff.1 h
  rw [Char.ofNat, dif_pos (.inl (by omega))]
  rfl

theorem hexDigit_spec : ∀ n < 16, isPlain (Percent.hexDigit n).toNat ∧
    Percent.hexValue? (Percent.hexDigit n).toNat = some n := by decide

def spaced (b : Nat) : Nat := if b = 0x2B then 0x20 else b

def octets (t : Text) : Octets := Percent.decode ((Utf8.encode t).map spaced)

theorem decode_eq (t : Text) : decode t = Utf8.decode (octets t) := rfl

theorem spaced_encodeChar (h : isPlain c.toNat) : (encodeChar c).map spaced = [c.toNat] := by
  have hc := isPlain_iff.1 h
  rw [encodeChar_of_lt (by omega), List.map_singleton, spaced, if_neg (by omega)]

theorem octets_plain (h : isPlain c.toNat) (t : Text) : octets (c :: t) = c.toNat :: octets t := by
  have hc := isPlain_iff.1 h
  rw [octets, encode_cons, List.map_append, spaced_encodeChar h]
  exact Percent.decode_cons (by omega) _

theorem octets_plus (t : Text) : octets ('+' :: t) = 0x20 :: octets t :=
  Percent.decode_cons (by decide) _

theorem octets_escape (h : b < 256) (t : Text) :
    octets (Percent.encodeOctet b ++ t) = b :: octets t := by
  obtain ⟨hhigh, hhigh'⟩ := hexDigit_spec (b / 16) (by omega)
  obtain ⟨hlow, hlow'⟩ := hexDigit_spec (b % 16) (by omega)
  have hb : b / 16 * 16 + b % 16 = b := by omega
  have hpercent : (encodeChar '%').map spaced = [0x25] := rfl
  rw [octets, Percent.encodeOctet]
  simp only [List.cons_append, List.nil_append, encode_cons, List.map_append, hpercent,
    spaced_encodeChar hhigh, spaced_encodeChar hlow]
  rw [Percent.decode_escape hhigh' hlow', hb, octets]

/-- What an octet is written as is read back as this octet, whatever follows. -/
theorem octets_encodeOctet (h : b < 256) (t : Text) :
    octets (encodeOctet b ++ t) = b :: octets t := by
  rw [encodeOctet]
  split_ifs with hplain hspace
  · have hb := toNat_ofNat_of_isPlain hplain
    rw [List.singleton_append, octets_plain (hb.symm ▸ hplain), hb]
  · rw [hspace, List.singleton_append, octets_plus]
  · exact octets_escape h t

theorem octets_flatMap {bs : Octets} (h : ∀ b ∈ bs, b < 256) :
    octets (bs.flatMap encodeOctet) = bs := by
  induction bs with
  | nil => rfl
  | cons b bs ih =>
    obtain ⟨hb, hbs⟩ := List.forall_mem_cons.1 h
    rw [List.flatMap_cons, octets_encodeOctet hb, ih hbs]

theorem decode_encode (t : Text) : decode (encode t) = t := by
  have hoctets : octets (encode t) = Utf8.encode t := octets_flatMap fun _ => lt_of_mem_encode
  rw [decode_eq, hoctets, Utf8.decode_encode]

theorem plain_of_mem_escape (hb : b < 256) (h : c ∈ Percent.encodeOctet b) :
    isPlain c.toNat ∨ c = '%' := by
  simp only [Percent.encodeOctet, List.mem_cons, List.not_mem_nil, or_false] at h
  obtain rfl | rfl | rfl := h
  · exact .inr rfl
  · exact .inl (hexDigit_spec (b / 16) (by omega)).1
  · exact .inl (hexDigit_spec (b % 16) (by omega)).1

theorem plain_of_mem_encode (h : c ∈ encode t) : isPlain c.toNat ∨ c = '+' ∨ c = '%' := by
  obtain ⟨b, hb, hc⟩ := List.mem_flatMap.1 h
  rw [encodeOctet] at hc
  split_ifs at hc with hplain hspace
  · obtain rfl := List.mem_singleton.1 hc
    exact .inl ((toNat_ofNat_of_isPlain hplain).symm ▸ hplain)
  · exact .inr (.inl (List.mem_singleton.1 hc))
  · exact (plain_of_mem_escape (lt_of_mem_encode hb) hc).imp_right .inr

theorem not_mem_encode (hc : ¬(isPlain c.toNat ∨ c = '+' ∨ c = '%')) (t : Text) : c ∉ encode t :=
  fun h => hc (plain_of_mem_encode h)

theorem pairOf_renderPair (p : Text × Text) : pairOf (renderPair p) = p := by
  have hsplit : Text.splitOnce? '=' (renderPair p) = some (encode p.1, encode p.2) :=
    Text.splitOnce?_append (not_mem_encode (by decide) p.1) (encode p.2)
  rw [pairOf, hsplit]
  simp only [decode_encode]

theorem not_mem_renderPair (hc : ¬(isPlain c.toNat ∨ c = '+' ∨ c = '%')) (hne : c ≠ '=')
    (p : Text × Text) : c ∉ renderPair p := by
  rw [renderPair, List.mem_append, List.mem_cons]
  rintro (h | rfl | h)
  · exact not_mem_encode hc _ h
  · exact hne rfl
  · exact not_mem_encode hc _ h

theorem not_mem_render (hc : ¬(isPlain c.toNat ∨ c = '+' ∨ c = '%')) (hequals : c ≠ '=')
    (hamp : c ≠ '&') (ps : Pairs) : c ∉ render ps := by
  refine Text.not_mem_intercalate (List.mem_singleton.not.2 hamp) ?_
  rw [List.forall_mem_map]
  exact fun p _ => not_mem_renderPair hc hequals p

theorem isEmpty_renderPair (p : Text × Text) : (renderPair p).isEmpty = false := by
  rw [renderPair]
  cases encode p.1 <;> rfl

/-- The pairs come back in their order, whatever they are: names and values may be empty and may have
separators in them, and a name may come more than once. -/
theorem parse_render (ps : Pairs) : parse (render ps) = ps := by
  cases ps with
  | nil => rfl
  | cons p ps =>
    have hpieces : Text.pieces '&' (render (p :: ps)) = (p :: ps).map renderPair := by
      rw [Text.pieces_eq_splitOn]
      refine List.splitOn_intercalate '&' ?_ (by simp)
      rw [List.forall_mem_map]
      exact fun q _ => not_mem_renderPair (by decide) (by decide) q
    have hfilter : ((p :: ps).map renderPair).filter (fun q => !q.isEmpty) =
        (p :: ps).map renderPair := by
      rw [List.filter_eq_self, List.forall_mem_map]
      exact fun q _ => by rw [isEmpty_renderPair, Bool.not_false]
    have hpair : pairOf ∘ renderPair = id := funext pairOf_renderPair
    rw [parse, hpieces, hfilter, List.map_map, hpair, List.map_id]

end Form
end Unscramble
