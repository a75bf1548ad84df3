import Unscramble.Proofs.Definedness
import Unscramble.Proofs.Plan.Resolution
import Unscramble.Proofs.Sequence
import Unscramble.Run.Throttling

/-! What an operation refuses: arguments and sequences that it does not work on. There is no other
way for it to fail, as it stays within the sequence. -/
namespace Unscramble
open Outcome
variable {α : Type}

namespace Sequence
variable {n : Nat} {xs : List α}

theorem exists_wrap? (e : Int) {length : Nat} (h : 0 < length) :
    ∃ n < length, wrap? e length = some n := by
  have hn := Int.emod_nonneg e (b := length) (by omega)
  have hu := Int.emod_lt_of_pos e (b := length) (by omega)
  exact ⟨(e % length).toNat, by omega, if_neg (Nat.ne_of_gt h)⟩

theorem wrap?_lt {e : Int} {length : Nat} (h : wrap? e length = some n) : n < length := by
  have hl : 0 < length := by
    refine Nat.pos_of_ne_zero fun hz => ?_
    rw [wrap?, if_pos hz] at h
    cases h
  obtain ⟨m, hm, hw⟩ := exists_wrap? e hl
  exact Option.some.inj (h.symm.trans hw) ▸ hm

theorem rotateRight?_of_lt (h : n < xs.length) :
    rotateRight? n xs = some (xs.drop (xs.length - n) ++ xs.take (xs.length - n)) :=
  if_pos (Nat.le_of_lt h)

theorem removeAt?_of_lt (h : n < xs.length) : removeAt? n xs = some (xs.eraseIdx n) := if_pos h

end Sequence

namespace ThrottlingProgram
variable {hold : Value → α} {op : Operation} {argument : Option Value} {xs : List α} {f : Failure}
  {a : Arena α} {n length : Nat}

inductive Refuses (op : Operation) : Failure → Prop
  | noArgument : Refuses op (.invalidOperand (.noArgument op))
  | noInteger (v : Value) : Refuses op (.invalidOperand (.noInteger op v))
  | emptySequence : Refuses op (.invalidOperand (.emptySequence op))
  | dispatch : Refuses op (.unsupported .dispatch)

theorem refuses_of_required (h : required op argument = .error f) : Refuses op f := by
  cases argument with
  | none => exact Except.error.inj h ▸ .noArgument
  | some v => cases h

theorem wrappedIndex_cases (op : Operation) (length : Nat) (argument : Option Value) :
    (∃ n < length, wrappedIndex op length argument = .ok n) ∨
      ∃ f, wrappedIndex op length argument = .error f ∧ Refuses op f := by
  cases hv : required op argument with
  | error f => exact .inr ⟨f, by rw [wrappedIndex, hv, error_bind], refuses_of_required hv⟩
  | ok v =>
    rw [wrappedIndex, hv, ok_bind]
    cases v with
    | text | operation | sequence => exact .inr ⟨_, rfl, .noInteger _⟩
    | integer e =>
      by_cases hl : length = 0
      · exact .inr ⟨_, by simp only [if_pos hl]; rfl, .emptySequence⟩
      · obtain ⟨n, hn, hw⟩ := Sequence.exists_wrap? e (Nat.pos_of_ne_zero hl)
        exact .inl ⟨n, hn, by simp only [if_neg hl, hw]; rfl⟩

theorem wrappedIndex_lt (h : wrappedIndex op length argument = .ok n) : n < length := by
  obtain ⟨m, hm, he⟩ | ⟨f, he, -⟩ := wrappedIndex_cases op length argument
  · exact Except.ok.inj (h.symm.trans he) ▸ hm
  · cases h.symm.trans he

/-- What is defined at every index of the sequence does not fail behind the index. -/
theorem refuses_of_wrapped {g : Nat → Option (List α)} (hg : ∀ n < xs.length, (g n).isSome)
    (h : (wrappedIndex op xs.length argument >>= fun n => defined (g n)) = .error f) :
    Refuses op f := by
  obtain ⟨n, hn, he⟩ | ⟨f', he, hr⟩ := wrappedIndex_cases op xs.length argument
  · obtain ⟨ys, hy⟩ := Option.isSome_iff_exists.1 (hg n hn)
    rw [he, ok_bind, hy] at h
    cases h
  · rw [he, error_bind] at h
    exact Except.error.inj h ▸ hr

theorem refuses_of_apply (h : apply hold op argument xs = .error f) : Refuses op f := by
  cases op with
  | reverse => cases h
  | cipherDispatch => exact Except.error.inj h ▸ .dispatch
  | push =>
    obtain h | ⟨v, -, h⟩ := bind_eq_error.1 h
    · exact refuses_of_required h
    · cases h
  | unshift | prepend =>
    refine refuses_of_wrapped (fun n hn => ?_) h
    rw [Sequence.rotateRight?_of_lt hn, Option.isSome_some]
  | swap | nestedSplice =>
    refine refuses_of_wrapped (fun n hn => ?_) h
    rw [Sequence.swapFront?_of_lt (Nat.zero_lt_of_lt hn) hn, Option.isSome_some]
  | splice =>
    refine refuses_of_wrapped (fun n hn => ?_) h
    rw [Sequence.removeAt?_of_lt hn, Option.isSome_some]

theorem refuses_of_applyAt {slot : Slot} (h : applyAt hold op argument a slot = .error f) :
    Refuses op f := by
  cases slot with
  | operands | input =>
    obtain h | ⟨xs, -, h⟩ := bind_eq_error.1 h
    · exact refuses_of_apply h
    · cases h

theorem unjoinable_of_join {vs : List Value} (h : join vs = .error f) :
    ∃ v, f = .unsupported (.unjoinable v) := by
  induction vs with
  | nil => cases h
  | cons v vs ih =>
    cases v with
    | text | integer =>
      obtain h | ⟨t, -, h⟩ := bind_eq_error.1 h
      · exact ih h
      · cases h
    | operation | sequence => exact ⟨_, (Except.error.inj h).symm⟩

end ThrottlingProgram

namespace SignaturePlan
variable {operations : OperationTable}

theorem isDefined_apply (op : Operation) (call : Call) (xs : List α) :
    IsDefined (apply op call xs) := by
  cases op with
  | reverse => exact .ok _
  | splice => exact .of_some (Sequence.dropFront?_min _ _)
  | swap =>
    rw [apply]
    split
    · exact .error (by simp)
    next hne =>
      have h0 : 0 < xs.length := List.length_pos_iff.2 fun h => hne (List.isEmpty_iff.2 h)
      have hn := Nat.mod_lt call.argument h0
      rw [Sequence.wrap?_natCast _ h0, Option.bind_some]
      exact .of_some (Sequence.swapFront?_of_lt h0 hn)
  | unshift | push | prepend | nestedSplice | cipherDispatch => exact .error (by simp)

theorem isDefined_ofStatement (s : Text) : IsDefined (Call.ofStatement s) := by
  obtain ⟨f, -, hs⟩ | ⟨hit, name, -, ⟨fault, hs⟩ | ⟨n, hs⟩⟩ := ofStatement_cases s
  · exact hs ▸ .error (by simp)
  · exact hs ▸ .error (by simp)
  · exact hs ▸ .ok _

theorem isDefined_runStatement (xs : List α) (s : Text) :
    IsDefined (runStatement operations xs s) := by
  refine (isDefined_ofStatement s).bind fun call _ => ?_
  cases operations.find? call.name with
  | none => exact .error (by simp)
  | some op => exact isDefined_apply op call xs

theorem isDefined_runStatements (ss : List Text) (xs : List α) :
    IsDefined (runStatements operations ss xs) := by
  induction ss generalizing xs with
  | nil => exact .ok xs
  | cons s ss ih => exact (isDefined_runStatement xs s).bind fun ys _ => ih ys

theorem isDefined_run (p : SignaturePlan) (input : Text) : IsDefined (p.run input) :=
  isDefined_runStatements p.statements input

end SignaturePlan
end Unscramble
