import Mathlib.Data.List.Perm.Subperm
import Mathlib.Data.List.Nodup
import Unscramble.Run.Signature

/-! Mutations of a sequence do not look at its elements: each commutes with every map of them, and
none gives an element twice. -/
namespace Unscramble
variable {α β : Type}

theorem defined_map (f : α → β) (x : Option α) :
    defined (x.map f) = (defined x).map f := by
  cases x <;> rfl

theorem defined_eq_ok {x : Option α} {a : α} : defined x = .ok a ↔ x = some a := by
  cases x <;> simp [defined]

namespace Sequence

theorem wrap?_natCast (n : Nat) {length : Nat} (h : 0 < length) :
    wrap? n length = some (n % length) := by
  rw [wrap?, if_neg (Nat.ne_of_gt h)]
  rfl

theorem dropFront?_min (n : Nat) (xs : List α) :
    dropFront? (min n xs.length) xs = some (xs.drop n) := by
  rw [dropFront?, if_pos (Nat.min_le_right n xs.length)]
  by_cases h : n ≤ xs.length
  · rw [Nat.min_eq_left h]
  · rw [Nat.min_eq_right (by omega), List.drop_length, List.drop_of_length_le (by omega)]

theorem swapFront?_of_lt {n : Nat} {xs : List α} (h0 : 0 < xs.length) (h : n < xs.length) :
    swapFront? n xs = some ((xs.set 0 xs[n]).set n xs[0]) := by
  simp [swapFront?, h, h0]

theorem swapFront?_map (f : α → β) (n : Nat) (xs : List α) :
    swapFront? n (xs.map f) = (swapFront? n xs).map (List.map f) := by
  cases h : xs[0]? with
  | none => simp [swapFront?, h]
  | some a => cases hn : xs[n]? <;> simp [swapFront?, h, hn, List.map_set]

theorem rotateRight?_map (f : α → β) (n : Nat) (xs : List α) :
    rotateRight? n (xs.map f) = (rotateRight? n xs).map (List.map f) := by
  by_cases h : n ≤ xs.length <;> simp [rotateRight?, h, List.map_drop, List.map_take]

theorem removeAt?_map (f : α → β) (n : Nat) (xs : List α) :
    removeAt? n (xs.map f) = (removeAt? n xs).map (List.map f) := by
  by_cases h : n < xs.length <;> simp [removeAt?, h, List.eraseIdx_map]

theorem dropFront?_map (f : α → β) (n : Nat) (xs : List α) :
    dropFront? n (xs.map f) = (dropFront? n xs).map (List.map f) := by
  by_cases h : n ≤ xs.length <;> simp [dropFront?, h, List.map_drop]

theorem swapFront?_perm {n : Nat} {xs ys : List α} (h : swapFront? n xs = some ys) :
    ys.Perm xs := by
  cases xs with
  | nil => simp [swapFront?] at h
  | cons a xs =>
    cases n with
    | zero =>
      have he : ys = a :: xs := by simpa [swapFront?] using h.symm
      rw [he]
    | succ n =>
      cases hb : xs[n]? with
      | none => simp [swapFront?, hb] at h
      | some b =>
        have he : ys = b :: xs.set n a := by simpa [swapFront?, hb] using h.symm
        obtain ⟨hn, rfl⟩ := List.getElem?_eq_some_iff.1 hb
        -- `xs` is split at `n`, so that both sides show the same parts
        have hs : xs = xs.take n ++ xs[n] :: xs.drop (n + 1) := by simp
        rw [he, List.set_eq_take_append_cons_drop, if_pos hn]
        conv_rhs => rw [hs]
        calc
          (xs[n] :: (xs.take n ++ a :: xs.drop (n + 1))).Perm
              (xs[n] :: a :: (xs.take n ++ xs.drop (n + 1))) := .cons _ List.perm_middle
          _ |>.Perm (a :: xs[n] :: (xs.take n ++ xs.drop (n + 1))) := .swap _ _ _
          _ |>.Perm (a :: (xs.take n ++ xs[n] :: xs.drop (n + 1))) :=
            .cons _ List.perm_middle.symm

theorem rotateRight?_perm {n : Nat} {xs ys : List α} (h : rotateRight? n xs = some ys) :
    ys.Perm xs := by
  by_cases hn : n ≤ xs.length
  · have he : ys = xs.drop (xs.length - n) ++ xs.take (xs.length - n) := by
      simpa [rotateRight?, hn] using h.symm
    rw [he]
    exact List.perm_append_comm.trans (.of_eq (List.take_append_drop _ xs))
  · simp [rotateRight?, hn] at h

theorem removeAt?_sublist {n : Nat} {xs ys : List α} (h : removeAt? n xs = some ys) :
    ys.Sublist xs := by
  by_cases hn : n < xs.length
  · have he : ys = xs.eraseIdx n := by simpa [removeAt?, hn] using h.symm
    rw [he]
    exact List.eraseIdx_sublist xs n
  · simp [removeAt?, hn] at h

theorem dropFront?_sublist {n : Nat} {xs ys : List α} (h : dropFront? n xs = some ys) :
    ys.Sublist xs := by
  by_cases hn : n ≤ xs.length
  · have he : ys = xs.drop n := by simpa [dropFront?, hn] using h.symm
    rw [he]
    exact List.drop_sublist n xs
  · simp [dropFront?, hn] at h

end Sequence
end Unscramble
