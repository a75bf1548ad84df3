import Mathlib.Algebra.Group.Nat.Even
import Mathlib.Data.List.Rotate
import Unscramble.Proofs.Body.Operations
import Unscramble.Proofs.Run.Refusal

/-! Steps that can be undone: turning the input round, exchanging two of its characters and rotating
it. A plan of them, followed by what undoes them from the last to the first, leaves every input as
it was. -/
namespace Unscramble
open Outcome
variable {α : Type}

namespace Sequence
variable {n m : Nat} {xs ys : List α} {e : Int}

theorem length_swapFront? (h : swapFront? n xs = some ys) : ys.length = xs.length :=
  (swapFront?_perm h).length_eq

theorem length_rotateRight? (h : rotateRight? n xs = some ys) : ys.length = xs.length :=
  (rotateRight?_perm h).length_eq

theorem swapFront?_undo (h : swapFront? n xs = some ys) : swapFront? n ys = some xs := by
  obtain ⟨a, ha, h⟩ := Option.bind_eq_some_iff.1 h
  obtain ⟨b, hb, h⟩ := Option.bind_eq_some_iff.1 h
  obtain rfl := Option.some.inj h
  obtain ⟨h0, rfl⟩ := List.getElem?_eq_some_iff.1 ha
  obtain ⟨hn, rfl⟩ := List.getElem?_eq_some_iff.1 hb
  rw [swapFront?_of_lt (by simpa using h0) (by simpa using hn)]
  refine congrArg some (List.ext_getElem (by simp) fun i hi hi' => ?_)
  simp only [List.getElem_set]
  grind

theorem rotateRight?_eq_rotate (h : n ≤ xs.length) :
    rotateRight? n xs = some (xs.rotate (xs.length - n)) := by
  rw [rotateRight?, if_pos h, List.rotate_eq_drop_append_take (Nat.sub_le _ _)]

theorem wrap?_neg {length : Nat} (h : wrap? e length = some n) (h' : wrap? (-e) length = some m) :
    n + m = 0 ∨ n + m = length := by
  have hl : length ≠ 0 := Nat.ne_of_gt (Nat.zero_lt_of_lt (wrap?_lt h))
  have hlt := wrap?_lt h
  have hlt' := wrap?_lt h'
  rw [wrap?, if_neg hl] at h h'
  have hn := Option.some.inj h
  have hm := Option.some.inj h'
  have he := Int.emod_nonneg e (b := (length : Int)) (by omega)
  have he' := Int.emod_nonneg (-e) (b := (length : Int)) (by omega)
  have hsum : (length : Int) ∣ (n + m : Nat) := by
    have hsub : ((n + m : Nat) : Int) = e % length + -e % length := by omega
    rw [hsub, Int.dvd_iff_emod_eq_zero, Int.emod_add_emod, Int.add_emod_emod, Int.add_right_neg,
      Int.zero_emod]
  obtain ⟨k, hk⟩ := Int.natCast_dvd_natCast.1 hsum
  obtain _ | _ | k := k
  · exact .inl hk
  · exact .inr (by omega)
  · have hmul : length * 2 ≤ length * (k + 1 + 1) := Nat.mul_le_mul_left _ (by omega)
    omega

/-- A rotation is undone by the rotation as far in the other direction. -/
theorem rotateRight?_undo (hn : wrap? e xs.length = some n) (hm : wrap? (-e) xs.length = some m)
    (h : rotateRight? n xs = some ys) : rotateRight? m ys = some xs := by
  have hlt := wrap?_lt hn
  have hlt' := wrap?_lt hm
  have hlen := length_rotateRight? h
  rw [rotateRight?_eq_rotate hlt.le] at h
  obtain rfl := Option.some.inj h
  rw [rotateRight?_eq_rotate (by omega), hlen, List.rotate_rotate, ← List.rotate_mod]
  have hturns : (xs.length - n + (xs.length - m)) % xs.length = 0 := by
    obtain hz | hz := wrap?_neg hn hm
    · obtain ⟨rfl, rfl⟩ : n = 0 ∧ m = 0 := by omega
      simp
    · have : xs.length - n + (xs.length - m) = xs.length := by omega
      rw [this, Nat.mod_self]
  rw [hturns, List.rotate_zero]

end Sequence

namespace ThrottlingProgram

/-- The step applies an operation to the input, with an operand as argument or with none. -/
structure IsOnInput (operands : List Operand) (op : Operation) (argument : Option Operand)
    (s : Step) : Prop where
  operation : operands[s.operation]? = some (.operation op)
  first : operands[s.first]? = some (.text inputName)
  second : s.second.mapM (operands[·]?) = some argument

/-- Of two steps on the input, the second undoes the first. -/
inductive Undoes (operands : List Operand) (s t : Step) : Prop
  | reverse {argument argument' : Option Operand} (hs : IsOnInput operands .reverse argument s)
      (ht : IsOnInput operands .reverse argument' t)
  | exchange {op : Operation} {e : Int} (hop : op = .swap ∨ op = .nestedSplice)
      (hs : IsOnInput operands op (some (.integer e)) s)
      (ht : IsOnInput operands op (some (.integer e)) t)
  | rotate {op : Operation} {e : Int} (hop : op = .unshift ∨ op = .prepend)
      (hs : IsOnInput operands op (some (.integer e)) s)
      (ht : IsOnInput operands op (some (.integer (-e))) t)

variable {hold : Value → α} {op : Operation} {argument : Option Operand} {e : Int} {xs : List α}
  {operands : List Operand} {s t : Step} {ss ts : List Step}

theorem runSteps_append (hold : Value → α) (ss ts : List Step) (a : Arena α) :
    runSteps hold (ss ++ ts) a = runSteps hold ss a >>= runSteps hold ts := by
  induction ss generalizing a with
  | nil => rfl
  | cons s ss ih =>
    rw [List.cons_append, runSteps, runSteps]
    cases runStep hold a s with
    | error f => rfl
    | ok b => exact ih b

def onInput (operands : List Operand) (xs : List α) : Arena α := ⟨operands.map Operand.value, xs⟩

theorem operand_onInput {i : Nat} {o : Operand} (h : operands[i]? = some o) :
    (onInput operands xs).operand i = .ok o.value := by
  simp [onInput, Arena.operand, h]

theorem second_onInput {i : Option Nat} (h : i.mapM (operands[·]?) = some argument) :
    i.mapM (onInput operands xs).operand = .ok (argument.map Operand.value) := by
  cases i with
  | none => exact Option.some.inj h ▸ rfl
  | some i =>
    obtain ⟨o, ho, rfl⟩ := Option.map_eq_some_iff.1 ((Option.mapM_some _ _).symm.trans h)
    rw [Option.mapM_some, operand_onInput ho]
    rfl

theorem runStep_onInput (hs : IsOnInput operands op argument s) : runStep hold (onInput operands xs) s =
    (apply hold op (argument.map Operand.value) xs).map (onInput operands) := by
  have hinput : (Operand.text inputName).value = .sequence .input := rfl
  rw [runStep, operand_onInput hs.operation, ok_bind]
  simp only [Operand.value]
  rw [operand_onInput hs.first, ok_bind, hinput]
  simp only [second_onInput hs.second, ok_bind, applyAt]
  rfl

theorem apply_exchange {n : Nat} (hop : op = .swap ∨ op = .nestedSplice)
    (hw : Sequence.wrap? e xs.length = some n) :
    apply hold op (some (.integer e)) xs = defined (Sequence.swapFront? n xs) := by
  obtain rfl | rfl := hop <;> rw [apply, wrappedIndex_of_wrap hw, ok_bind]

theorem apply_rotate {n : Nat} (hop : op = .unshift ∨ op = .prepend)
    (hw : Sequence.wrap? e xs.length = some n) :
    apply hold op (some (.integer e)) xs = defined (Sequence.rotateRight? n xs) := by
  obtain rfl | rfl := hop <;> rw [apply, wrappedIndex_of_wrap hw, ok_bind]

/-- A step that can be undone runs to its end, with as many characters in the input, and the other
step brings the input back. -/
theorem Undoes.runStep (hold : Value → α) (h : Undoes operands s t) (hx : xs ≠ []) :
    ∃ ys : List α, ys.length = xs.length ∧
      ThrottlingProgram.runStep hold (onInput operands xs) s = .ok (onInput operands ys) ∧
      ThrottlingProgram.runStep hold (onInput operands ys) t = .ok (onInput operands xs) := by
  have hpos : 0 < xs.length := List.length_pos_iff.2 hx
  cases h with
  | reverse hs ht =>
    refine ⟨xs.reverse, List.length_reverse, runStep_onInput hs, ?_⟩
    rw [runStep_onInput ht, apply, List.reverse_reverse]
    rfl
  | @exchange op e hop hs ht =>
    obtain ⟨n, hn, hw⟩ := Sequence.exists_wrap? e hpos
    have hy := Sequence.swapFront?_of_lt hpos hn
    have hlen := Sequence.length_swapFront? hy
    refine ⟨_, hlen, ?_, ?_⟩
    · rw [runStep_onInput hs, Option.map_some, Operand.value, apply_exchange hop hw, hy]
      rfl
    · rw [runStep_onInput ht, Option.map_some, Operand.value, apply_exchange hop (hlen ▸ hw),
        Sequence.swapFront?_undo hy]
      rfl
  | @rotate op e hop hs ht =>
    obtain ⟨n, hn, hw⟩ := Sequence.exists_wrap? e hpos
    obtain ⟨m, -, hw'⟩ := Sequence.exists_wrap? (-e) hpos
    have hy := Sequence.rotateRight?_of_lt hn
    have hlen := Sequence.length_rotateRight? hy
    refine ⟨_, hlen, ?_, ?_⟩
    · rw [runStep_onInput hs, Option.map_some, Operand.value, apply_rotate hop hw, hy]
      rfl
    · rw [runStep_onInput ht, Option.map_some, Operand.value, apply_rotate hop (hlen ▸ hw'),
        Sequence.rotateRight?_undo hw hw' hy]
      rfl

/-- The steps run to their end, and those that undo them, last one first, bring the input back. -/
theorem runSteps_undo (hold : Value → α) (h : List.Forall₂ (Undoes operands) ss ts) (hx : xs ≠ []) :
    ∃ ys : List α, ys.length = xs.length ∧
      runSteps hold ss (onInput operands xs) = .ok (onInput operands ys) ∧
      runSteps hold ts.reverse (onInput operands ys) = .ok (onInput operands xs) := by
  induction h generalizing xs with
  | nil => exact ⟨xs, rfl, rfl, rfl⟩
  | @cons s t ss ts hst _ ih =>
    obtain ⟨ys, hlen, hs, ht⟩ := hst.runStep hold hx
    have hy : ys ≠ [] := List.length_pos_iff.1 (hlen ▸ List.length_pos_iff.2 hx)
    obtain ⟨zs, hlen', hss, hts⟩ := ih hy
    refine ⟨zs, hlen'.trans hlen, ?_, ?_⟩
    · rw [runSteps, hs, ok_bind, hss]
    · rw [List.reverse_cons, runSteps_append, hts, ok_bind, runSteps, ht]
      rfl

theorem runSteps_reverse (h : ∀ s ∈ ss, ∃ argument, IsOnInput operands .reverse argument s) :
    runSteps hold ss (onInput operands xs) =
      .ok (onInput operands (if Even ss.length then xs else xs.reverse)) := by
  induction ss generalizing xs with
  | nil => rfl
  | cons s ss ih =>
    obtain ⟨⟨argument, hs⟩, hss⟩ := List.forall_mem_cons.1 h
    rw [runSteps, runStep_onInput hs, apply, map_ok, ok_bind, ih hss]
    by_cases heven : Even ss.length <;> simp [heven, Nat.even_add_one]

theorem join_chars (t : Text) : join (t.map fun c => .text [c]) = .ok t := by
  induction t with
  | nil => rfl
  | cons c t ih =>
    rw [List.map_cons, join, ih]
    rfl

theorem run_of_runSteps {input : Text}
    (h : runSteps id ss (start operands input) = .ok (start operands input)) :
    run ⟨ss, operands⟩ input = .ok input := by
  rw [run, h]
  exact join_chars input

/-- Steps that keep the length of the input, followed by those that undo them, last one first, give
back every input with characters. An even number of turns gives back every input. -/
theorem run_undone (operands : List Operand) (input : Text) :
    (∀ ss ts, List.Forall₂ (Undoes operands) ss ts → input ≠ [] →
      run ⟨ss ++ ts.reverse, operands⟩ input = .ok input) ∧
    ∀ ss : List Step, (∀ s ∈ ss, ∃ argument, IsOnInput operands .reverse argument s) →
      Even ss.length → run ⟨ss, operands⟩ input = .ok input := by
  refine ⟨fun ss ts h hinput => run_of_runSteps ?_, fun ss h heven => run_of_runSteps ?_⟩
  · have hx : (input.map fun c => Value.text [c]) ≠ [] := fun he => hinput (List.map_eq_nil_iff.1 he)
    obtain ⟨ys, -, hss, hts⟩ := runSteps_undo id h hx
    rw [runSteps_append]
    exact (congrArg (· >>= _) hss).trans hts
  · exact (runSteps_reverse h).trans (by rw [if_pos heven]; rfl)

def undoable : List Operand :=
  [.text inputName, .integer 3, .integer (-7), .integer 7, .operation .reverse, .operation .swap,
    .operation .nestedSplice, .operation .unshift, .operation .prepend]

theorem run_undone_sample :
    run ⟨[⟨4, 0, none⟩, ⟨5, 0, some 1⟩, ⟨7, 0, some 2⟩, ⟨6, 0, some 2⟩, ⟨8, 0, some 3⟩], undoable⟩
      "décode".toList = .ok "dcoeéd".toList ∧
    run ⟨[⟨4, 0, none⟩, ⟨5, 0, some 1⟩, ⟨7, 0, some 2⟩, ⟨6, 0, some 2⟩, ⟨8, 0, some 3⟩] ++
      [⟨8, 0, some 2⟩, ⟨6, 0, some 2⟩, ⟨7, 0, some 3⟩, ⟨5, 0, some 1⟩, ⟨4, 0, none⟩], undoable⟩
      "décode".toList = .ok "décode".toList ∧
    run ⟨[⟨4, 0, none⟩, ⟨4, 0, some 1⟩], undoable⟩ "décode".toList = .ok "décode".toList := by
  have hundoes : List.Forall₂ (Undoes undoable)
      [⟨4, 0, none⟩, ⟨5, 0, some 1⟩, ⟨7, 0, some 2⟩, ⟨6, 0, some 2⟩, ⟨8, 0, some 3⟩]
      [⟨4, 0, none⟩, ⟨5, 0, some 1⟩, ⟨7, 0, some 3⟩, ⟨6, 0, some 2⟩, ⟨8, 0, some 2⟩] :=
    .cons (.reverse ⟨rfl, rfl, rfl⟩ ⟨rfl, rfl, rfl⟩)
      (.cons (.exchange (.inl rfl) ⟨rfl, rfl, rfl⟩ ⟨rfl, rfl, rfl⟩)
      (.cons (.rotate (.inl rfl) ⟨rfl, rfl, rfl⟩ ⟨rfl, rfl, rfl⟩)
      (.cons (.exchange (.inr rfl) ⟨rfl, rfl, rfl⟩ ⟨rfl, rfl, rfl⟩)
      (.cons (.rotate (.inr rfl) ⟨rfl, rfl, rfl⟩ ⟨rfl, rfl, rfl⟩) .nil))))
  have hturns : ∀ s ∈ [⟨4, 0, none⟩, ⟨4, 0, some 1⟩],
      ∃ argument, IsOnInput undoable .reverse argument s :=
    List.forall_mem_cons.2 ⟨⟨none, rfl, rfl, rfl⟩,
      List.forall_mem_singleton.2 ⟨some (.integer 3), rfl, rfl, rfl⟩⟩
  obtain ⟨hundone, heven⟩ := run_undone undoable "décode".toList
  exact ⟨by decide +kernel, hundone _ _ hundoes nofun, heven _ hturns (by decide)⟩

end ThrottlingProgram
end Unscramble
