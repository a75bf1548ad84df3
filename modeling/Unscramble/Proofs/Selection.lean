import Mathlib.Data.List.FinRange
import Mathlib.Data.List.OfFn
import Unscramble.Proofs.Outcome
import Unscramble.Proofs.Sequence

/-! A signature plan is a selection of places. Run on the places below `n` in place of characters,
it lists the places whose characters it keeps, in their new order; and so it does to every text of
`n` characters. -/
namespace Unscramble.SignaturePlan
open Outcome
variable {α β : Type}

theorem apply_map (f : α → β) (op : Operation) (call : Call) (xs : List α) :
    apply op call (xs.map f) = (apply op call xs).map (List.map f) := by
  cases op with
  | reverse => simp [apply]
  | splice => simp only [apply, List.length_map, Sequence.dropFront?_map, defined_map]
  | swap =>
    cases xs with
    | nil => rfl
    | cons x xs =>
      have hm (i : Nat) := Sequence.swapFront?_map f i (x :: xs)
      simp only [List.map_cons] at hm
      cases hw : Sequence.wrap? call.argument (x :: xs).length with
      | none => simp_all [apply, defined]
      | some i => simp_all [apply, ← defined_map]
  | unshift | push | prepend | nestedSplice | cipherDispatch => rfl

theorem runStatement_map (f : α → β) (operations : OperationTable) (xs : List α) (s : Text) :
    runStatement operations (xs.map f) s = (runStatement operations xs s).map (List.map f) := by
  unfold runStatement
  rw [map_bind]
  congr 1
  funext call
  cases operations.find? call.name with
  | none => rfl
  | some op => exact apply_map f op call xs

/-- What a plan does to the elements of a sequence does not depend on what they are. -/
theorem runStatements_map (f : α → β) (operations : OperationTable) (ss : List Text)
    (xs : List α) :
    runStatements operations ss (xs.map f) =
      (runStatements operations ss xs).map (List.map f) := by
  induction ss generalizing xs with
  | nil => rfl
  | cons s ss ih => simp only [runStatements, runStatement_map, bind_map, map_bind, ih]

theorem runStatements_append (operations : OperationTable) (ss ts : List Text) (xs : List α) :
    runStatements operations (ss ++ ts) xs =
      runStatements operations ss xs >>= runStatements operations ts := by
  induction ss generalizing xs with
  | nil => rfl
  | cons s ss ih => simp only [List.cons_append, runStatements, bind_assoc, ih]

theorem apply_subperm {op : Operation} {call : Call} {xs ys : List α}
    (h : apply op call xs = .ok ys) : ys.Subperm xs := by
  cases op with
  | reverse =>
    have he : xs.reverse = ys := by simpa [apply] using h
    exact he ▸ (List.reverse_perm xs).subperm
  | splice => exact (Sequence.dropFront?_sublist (defined_eq_ok.1 h)).subperm
  | swap =>
    cases hx : xs.isEmpty with
    | true => simp [apply, hx] at h
    | false =>
      simp only [apply, hx, Bool.false_eq_true, if_false, defined_eq_ok] at h
      obtain ⟨i, -, hi⟩ := Option.bind_eq_some_iff.1 h
      exact (Sequence.swapFront?_perm hi).subperm
  | unshift | push | prepend | nestedSplice | cipherDispatch => simp [apply] at h

theorem runStatement_subperm {operations : OperationTable} {s : Text} {xs ys : List α}
    (h : runStatement operations xs s = .ok ys) : ys.Subperm xs := by
  obtain ⟨call, -, h⟩ := bind_eq_ok.1 h
  cases ho : operations.find? call.name with
  | none => simp [ho] at h
  | some op => exact apply_subperm (by simpa only [ho] using h)

/-- No element comes twice out of a plan unless it went in twice. -/
theorem runStatements_subperm {operations : OperationTable} {ss : List Text} {xs ys : List α}
    (h : runStatements operations ss xs = .ok ys) : ys.Subperm xs := by
  induction ss generalizing xs with
  | nil =>
    have he : xs = ys := by simpa [runStatements] using h
    exact he ▸ List.Subperm.refl xs
  | cons s ss ih =>
    obtain ⟨zs, hs, ht⟩ := bind_eq_ok.1 h
    exact (ih ht).trans (runStatement_subperm hs)

/-- The places, of those below `n`, whose characters statements keep, in their new order. -/
def positions (operations : OperationTable) (ss : List Text) (n : Nat) :
    Except Failure (List (Fin n)) :=
  runStatements operations ss (List.finRange n)

theorem run_ofFn (operations : OperationTable) (ss : List Text) {n : Nat} (x : Fin n → Char) :
    run ⟨ss, operations⟩ (List.ofFn x) = (positions operations ss n).map (List.map x) := by
  rw [run, List.ofFn_eq_map, runStatements_map, positions]

theorem nodup_positions {operations : OperationTable} {ss : List Text} {n : Nat}
    {is : List (Fin n)} (h : positions operations ss n = .ok is) : is.Nodup := by
  obtain ⟨js, hp, hs⟩ := runStatements_subperm h
  exact hp.nodup_iff.1 (hs.nodup (List.nodup_finRange n))

theorem positions_append {operations : OperationTable} {ss : List Text} {n : Nat}
    {is : List (Fin n)} (h : positions operations ss n = .ok is) (ts : List Text) :
    positions operations (ss ++ ts) n =
      (positions operations ts is.length).map (List.map is.get) := by
  calc
    positions operations (ss ++ ts) n = runStatements operations ts is := by
      rw [positions, runStatements_append, ← positions, h, ok_bind]
    _ = runStatements operations ts ((List.finRange is.length).map is.get) := by simp
    _ = (positions operations ts is.length).map (List.map is.get) := by
      rw [runStatements_map, positions]

/-- A plan either fails on every text of `n` characters, and always in the same way, or keeps the
characters at its positions, which are distinct. When it does not fail, the statements after it see
a text of as many characters, and their positions are taken among those it keeps. -/
theorem run_selects (operations : OperationTable) (ss : List Text) (n : Nat) :
    match positions operations ss n with
    | .error e => ∀ x : Fin n → Char, run ⟨ss, operations⟩ (List.ofFn x) = .error e
    | .ok is =>
      is.Nodup ∧ (∀ x : Fin n → Char, run ⟨ss, operations⟩ (List.ofFn x) = .ok (is.map x)) ∧
        ∀ ts, positions operations (ss ++ ts) n =
          (positions operations ts is.length).map (List.map is.get) := by
  cases h : positions operations ss n with
  | error e => exact fun x => by rw [run_ofFn, h, map_error]
  | ok is =>
    refine ⟨nodup_positions h, fun x => ?_, positions_append h⟩
    rw [run_ofFn, h, map_ok]

end Unscramble.SignaturePlan
