import Mathlib.Data.List.Pairwise
import Unscramble.Regex.CharClass

/-! Sets of characters that are given by ranges. -/
namespace Unscramble

namespace Text

/-- The ranges increase, so that a number is in one of them or in none. -/
theorem inRanges_eq_any {rs : Ranges} (h : rs.Pairwise fun r s => r.2 < s.1)
    (hle : ∀ r ∈ rs, r.1 ≤ r.2) (n : Nat) :
    inRanges rs n = rs.any fun r => decide (r.1 ≤ n) && decide (n ≤ r.2) := by
  induction rs with
  | nil => rfl
  | cons r rs ih =>
    obtain ⟨lo, hi⟩ := r
    obtain ⟨hlater, hrs⟩ := List.pairwise_cons.1 h
    obtain ⟨hr, hle'⟩ := List.forall_mem_cons.1 hle
    rw [inRanges, List.any_cons, ← ih hrs hle']
    by_cases hlo : n < lo
    · have hnone : inRanges rs n = false := by
        rw [ih hrs hle', List.any_eq_false]
        intro s hs hin
        have hs' := hlater s hs
        simp only [Bool.and_eq_true, decide_eq_true_eq] at hin hr hs'
        omega
      rw [if_pos hlo, hnone, decide_eq_false (Nat.not_le_of_lt hlo)]
      rfl
    · rw [if_neg hlo, decide_eq_true (Nat.le_of_not_lt hlo)]
      by_cases hhi : n ≤ hi
      · rw [if_pos hhi, decide_eq_true hhi]
        rfl
      · rw [if_neg hhi, decide_eq_false hhi]
        rfl

/-- Ranges with different lower ends are sorted in one way only. -/
theorem Ranges.normal_eq {rs : Ranges} (ss : Ranges) (h : rs.Perm ss)
    (hs : ss.Pairwise fun r s => r.1 < s.1) : normal rs = coalesce ss := by
  have hsorted : (rs.mergeSort fun r s => r.1 ≤ s.1).Pairwise fun r s => r.1 ≤ s.1 := by
    have hle : (rs.mergeSort fun r s => r.1 ≤ s.1).Pairwise fun r s => decide (r.1 ≤ s.1) = true :=
      List.pairwise_mergeSort (fun r s u => by simp; omega) (fun r s => by simp; omega) rs
    exact hle.imp of_decide_eq_true
  have hperm := (List.mergeSort_perm rs fun r s => r.1 ≤ s.1).trans h
  have hends : ss.Pairwise fun r s => r.1 ≠ s.1 := hs.imp Nat.ne_of_lt
  have : Std.Symm fun r s : Nat × Nat => r.1 ≠ s.1 := ⟨fun _ _ => Ne.symm⟩
  rw [normal, hperm.eq_of_pairwise ?_ hsorted (hs.imp Nat.le_of_lt)]
  intro r s hr hs hrs hsr
  by_contra hne
  exact hends.forall (hperm.mem_iff.1 hr) hs hne (Nat.le_antisymm hrs hsr)

end Text

theorem CharClass.contains_ofRanges {rs : Text.Ranges} (h : rs.Pairwise fun r s => r.2 < s.1)
    (hle : ∀ r ∈ rs, r.1 ≤ r.2) (hmany : 1 < rs.length) (c : Char) : (ofRanges rs).contains c =
      rs.any fun r => decide (r.1 ≤ c.toNat) && decide (c.toNat ≤ r.2) := by
  rw [ofRanges.eq_2, contains, Text.inRanges_eq_any h hle]
  rintro lo hi rfl
  exact absurd hmany (Nat.lt_irrefl 1)

end Unscramble
