import Unscramble.Pattern.Catalogue
import Unscramble.Proofs.Regex.Reads
import Unscramble.Proofs.Script.Commas
import Unscramble.Proofs.Script.Literal
import Unscramble.Proofs.Text.Number

/-! The characters of names. -/
namespace Unscramble.Catalogue
open Regex
variable {d : Char} {x : Text}

theorem contains_range {lo hi : Char} :
    (CharClass.range lo hi).contains d = true ↔ lo.toNat ≤ d.toNat ∧ d.toNat ≤ hi.toNat := by
  simp only [CharClass.contains, Bool.and_eq_true, decide_eq_true_eq]
  rfl

theorem nameChar_iff : nameChar.contains d = true ↔
    (97 ≤ d.toNat ∧ d.toNat ≤ 122) ∨ (65 ≤ d.toNat ∧ d.toNat ≤ 90) ∨
      (48 ≤ d.toNat ∧ d.toNat ≤ 57) ∨ d.toNat = 36 ∨ d.toNat = 95 := by
  have hor (a b : CharClass) : (CharClass.either a b).contains d = true ↔
      a.contains d = true ∨ b.contains d = true := by
    rw [CharClass.contains, Bool.or_eq_true]
  simp only [nameChar, CharClass.union, CharClass.single, hor, contains_range, ← Nat.le_antisymm_iff]
  have h1 : 'a'.toNat = 97 := rfl
  have h2 : 'z'.toNat = 122 := rfl
  have h3 : 'A'.toNat = 65 := rfl
  have h4 : 'Z'.toNat = 90 := rfl
  have h5 : '0'.toNat = 48 := rfl
  have h6 : '9'.toNat = 57 := rfl
  have h7 : '$'.toNat = 36 := rfl
  have h8 : '_'.toNat = 95 := rfl
  simp only [h1, h2, h3, h4, h5, h6, h7, h8, eq_comm]

theorem ne_of_nameChar {c : Char} (hd : nameChar.contains d = true)
    (hc : nameChar.contains c = false) : d ≠ c := by
  rintro rfl
  rw [hd] at hc
  cases hc

theorem not_blank_of_nameChar (hd : nameChar.contains d = true) :
    CharClass.blank.contains d = false := by
  rw [nameChar_iff] at hd
  rw [Bool.eq_false_iff]
  intro hb
  simp only [CharClass.contains, Text.isBlank, Bool.or_eq_true, Bool.and_eq_true,
    decide_eq_true_eq, beq_iff_eq] at hb
  omega

theorem ownerChar_of_nameChar (hd : nameChar.contains d = true) : ownerChar.contains d = true := by
  have he : ownerChar.contains d = (nameChar.contains d || (CharClass.single '.').contains d) := by
    simp only [ownerChar, nameChar, CharClass.union, CharClass.contains, Bool.or_assoc]
  rw [he, hd, Bool.true_or]

theorem nameChar_of_plainNameChar (hd : plainNameChar.contains d = true) :
    nameChar.contains d = true := by
  have he : nameChar.contains d = (plainNameChar.contains d || (CharClass.single '_').contains d) := by
    simp only [plainNameChar, nameChar, CharClass.union, CharClass.contains, Bool.or_assoc]
  rw [he, hd, Bool.true_or]

def IsName (x : Text) : Prop := x ≠ [] ∧ ∀ d ∈ x, nameChar.contains d = true

instance (x : Text) : Decidable (IsName x) :=
  decidable_of_iff (x ≠ [] ∧ x.all nameChar.contains = true)
    (and_congr_right fun _ => List.all_eq_true)

namespace IsName

theorem isRun (h : IsName x) : IsRun nameChar 1 x := ⟨List.length_pos_iff.2 h.1, h.2⟩

theorem not_mem {c : Char} (h : IsName x) (hc : nameChar.contains c = false) : c ∉ x :=
  fun hm => ne_of_nameChar (h.2 c hm) hc rfl

theorem head_not_blank (h : IsName x) {v : Text} :
    (x ++ v).head?.any CharClass.blank.contains = false := by
  obtain ⟨hne, hx⟩ := h
  cases x with
  | nil => exact absurd rfl hne
  | cons c x => exact not_blank_of_nameChar (hx c (.head x))

theorem no_quote (h : IsName x) : ∀ d ∈ x, d ≠ '"' ∧ d ≠ '\\' := fun d hd =>
  ⟨ne_of_nameChar (h.2 d hd) (by decide), ne_of_nameChar (h.2 d hd) (by decide)⟩

theorem closed (h : IsName x) : Literal.Closed x := by
  have hm : ∀ c ∈ Literal.marks, nameChar.contains c = false :=
    List.all_iff_forall_prop.1 (by decide)
  exact Literal.closed_of_plain fun d hd hc => ne_of_nameChar (h.2 d hd) (hm d hc) rfl

theorem whole (h : IsName x) : Commas.Whole x := by
  have hm : ∀ c ∈ Commas.marks, nameChar.contains c = false :=
    List.all_iff_forall_prop.1 (by decide)
  exact Commas.whole_of_plain fun d hd hc => ne_of_nameChar (h.2 d hd) (hm d hc) rfl

end IsName

theorem isRun_render (n : Nat) : IsRun .digit 1 (Number.render n) := by
  refine ⟨List.length_pos_iff.2 (Number.render_ne_nil n), fun d hd => ?_⟩
  have h := Number.isDigit_of_mem_render hd
  have hlt : d.toNat < 128 := by
    simp only [Char.isDigit, Bool.and_eq_true, decide_eq_true_eq, ge_iff_le,
      UInt32.le_iff_toNat_le] at h
    exact Nat.lt_of_le_of_lt h.2 (by decide)
  rw [CharClass.contains, Text.isDigit, if_pos hlt, h]

theorem nameChar_of_isDigit (h : d.isDigit = true) : nameChar.contains d = true := by
  simp only [Char.isDigit, Bool.and_eq_true, decide_eq_true_eq, ge_iff_le,
    UInt32.le_iff_toNat_le] at h
  exact nameChar_iff.2 (.inr (.inr (.inl h)))

theorem isName_render (n : Nat) : IsName (Number.render n) :=
  ⟨Number.render_ne_nil n, fun _ hd => nameChar_of_isDigit (Number.isDigit_of_mem_render hd)⟩

theorem isName_of_spells {u : Text} (h : Spells identifier u) : IsName u :=
  ⟨List.length_pos_iff.1 (spells_plus.1 h).1, (spells_plus.1 h).2⟩

theorem eq_nil_of_spells_gap {u v : Text} (h : Spells gap u) (ht : Text.trim (u ++ v) = u ++ v) :
    u = [] := by
  have hhead := (Text.trimBy_eq_self_iff.1 ht).1
  cases u with
  | nil => rfl
  | cons c u =>
    have hc : Text.isBlank c = true := spells_star.1 h c (.head u)
    exact absurd hc (Bool.eq_false_iff.1 hhead)

section
variable {rs : List Regex} {u : Text} {ms : List Mark}

theorem reads_text (s : String) (h : Reads rs x u ms) :
    Reads (text s :: rs) (s.toList ++ x) (s.toList ++ u) (ms.map (.behind s.toList)) :=
  .literal s.toList h

theorem reads_gap (hx : x.head?.any CharClass.blank.contains = false) (h : Reads rs x u ms) :
    Reads (gap :: rs) x u ms := .star hx h

theorem bars_text {s : String} (h : s.toList.head?.map (· == d) = some false) :
    Bars (text s :: rs) (d :: x) := by
  refine .literal (fun he => ?_) fun he => ?_
  · simp [he] at h
  · simp [he] at h

theorem bars_gap (hx : x.head?.any CharClass.blank.contains = false) (h : Bars rs x) :
    Bars (gap :: rs) x := .star hx h

variable {c : CharClass} {s : String} {v g z : Text}

theorem bars_text_of_contains (hd : c.contains d = true)
    (hs : s.toList.head?.map c.contains = some false) : Bars (text s :: rs) (d :: x) := by
  obtain ⟨e, he, hc⟩ := Option.map_eq_some_iff.1 hs
  have hne : e ≠ d := by
    rintro rfl
    rw [hd] at hc
    cases hc
  exact bars_text (by simp [he, hne])

theorem bars_inside {least : Nat} {y w : Text} (hx : IsRun c least x)
    (hs : s.toList.head?.map c.contains = some false) (hw : x = y ++ d :: w) :
    Bars (text s :: rs) (d :: z) :=
  bars_text_of_contains (hx.2 d (hw ▸ List.mem_append_right y (.head w))) hs

theorem reads_run (hx : IsRun c 1 x) (hs : s.toList.head?.map c.contains = some false)
    (hv : v.head?.any c.contains = false)
    (h : Reads (text s :: rs) v u ms) :
    Reads (plus true (char c) :: text s :: rs) (x ++ v) (x ++ u) (ms.map (.behind x)) :=
  .run hx hv (fun _ _ _ hw _ => bars_inside hx hs hw) h

theorem reads_captured (hx : IsRun c 1 x) (hs : s.toList.head?.map c.contains = some false)
    (hv : v.head?.any c.contains = false)
    (h : Reads (text s :: rs) v u ms) :
    Reads (named g (plus true (char c)) :: text s :: rs) (x ++ v) (x ++ u)
      (ms.map (.behind x) ++ [⟨.named g, [], x⟩]) :=
  .namedRun hx hv (fun _ _ _ hw _ => bars_inside hx hs hw) h

theorem bars_captured (hx : IsRun c 1 x) (hs : s.toList.head?.map c.contains = some false)
    (hv : v.head?.any c.contains = false) (h : Bars (text s :: rs) v) :
    Bars (named g (plus true (char c)) :: text s :: rs) (x ++ v) := by
  refine .namedRun hv fun y w hw _ => ?_
  cases w with
  | nil => exact h
  | cons d w => exact bars_inside hx hs hw

end
end Unscramble.Catalogue
