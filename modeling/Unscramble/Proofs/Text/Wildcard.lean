import Mathlib.Data.List.Forall2
import Unscramble.Text.Blank
import Unscramble.Text.Digit
import Unscramble.Text.Word

/-! Forms of texts: in a form, `_` stands for any word character. -/
namespace Unscramble.Text

def Stands (f c : Char) : Prop := if f = '_' then isWord c = true else f = c

instance (f c : Char) : Decidable (Stands f c) := inferInstanceAs (Decidable (ite _ _ _))

def Fits (f t : Text) : Prop := List.Forall₂ Stands f t

instance (f t : Text) : Decidable (Fits f t) := inferInstanceAs (Decidable (List.Forall₂ _ _ _))

theorem Stands.eq_iff {f c d : Char} (h : Stands f c) (hd : isWord d = false) : f = d ↔ c = d := by
  unfold Stands at h
  split at h
  next hf =>
    have hw : isWord '_' = true := by decide
    constructor <;> rintro rfl
    · rw [hf, hw] at hd
      cases hd
    · rw [h] at hd
      cases hd
  next => rw [h]

theorem Fits.mem_iff {f t : Text} {d : Char} (h : Fits f t) (hd : isWord d = false) :
    d ∈ f ↔ d ∈ t := by
  induction h with
  | nil => simp
  | cons hs _ ih =>
    rw [List.mem_cons, List.mem_cons, ih, eq_comm, hs.eq_iff hd, eq_comm]

theorem Fits.split {f g t : Text} (h : Fits (f ++ g) t) :
    ∃ u v, t = u ++ v ∧ Fits f u ∧ Fits g v := by
  induction f generalizing t with
  | nil => exact ⟨[], t, rfl, .nil, h⟩
  | cons s f ih =>
    cases h with
    | cons hs h =>
      obtain ⟨u, v, rfl, hu, hv⟩ := ih h
      exact ⟨_ :: u, v, rfl, .cons hs hu, hv⟩

theorem Fits.append {f g t u : Text} (hf : Fits f t) (hg : Fits g u) : Fits (f ++ g) (t ++ u) :=
  List.rel_append hf hg

theorem Stands.refl (c : Char) : Stands c c := by
  unfold Stands
  split
  next h => rw [h]; decide
  next => rfl

theorem Fits.refl (f : Text) : Fits f f := List.forall₂_same.2 fun c _ => .refl c

theorem Fits.eq {f t : Text} (h : Fits f t) (hf : '_' ∉ f) : t = f := by
  induction h with
  | nil => rfl
  | cons hs _ ih =>
    obtain ⟨hs', hf'⟩ := not_or.1 (List.mem_cons.not.1 hf)
    rw [Stands, if_neg (Ne.symm hs')] at hs
    rw [hs, ih hf']

def blankPoints : List Nat :=
  [9, 10, 11, 12, 13, 0x20, 0x85, 0xA0, 0x1680, 0x2000, 0x2001, 0x2002, 0x2003, 0x2004, 0x2005, 0x2006,
    0x2007, 0x2008, 0x2009, 0x200A, 0x2028, 0x2029, 0x202F, 0x205F, 0x3000]

theorem exists_of_isBlank {c : Char} (h : isBlank c = true) : ∃ n ∈ blankPoints, c = Char.ofNat n := by
  refine ⟨c.toNat, ?_, (Char.ofNat_toNat c).symm⟩
  simp only [isBlank, Bool.or_eq_true, Bool.and_eq_true, decide_eq_true_eq, beq_iff_eq] at h
  generalize c.toNat = n at h ⊢
  simp only [blankPoints, List.mem_cons, List.not_mem_nil, or_false]
  omega

theorem isWord_of_isBlank {c : Char} (h : isBlank c = true) : isWord c = false := by
  obtain ⟨n, hn, rfl⟩ := exists_of_isBlank h
  revert n
  decide +kernel

theorem isDigit_of_isBlank {c : Char} (h : isBlank c = true) : isDigit c = false := by
  obtain ⟨n, hn, rfl⟩ := exists_of_isBlank h
  revert n
  decide +kernel

end Unscramble.Text
