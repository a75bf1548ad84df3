import Unscramble.Proofs.Plan.WellFormed
import Unscramble.Proofs.Run.Refusal
import Unscramble.Proofs.Template

/-! Indices that go stale while a program runs. All of them are indices of operands when a program
is built, and no step makes the operand array shorter but one that removes an operand. -/
namespace Unscramble.ThrottlingProgram
open Outcome
variable {α : Type} {hold : Value → α} {a b : Arena α} {s : Step} {ss : List Step} {i n : Nat}

/-- The step removes an element of the operand array. -/
def RemovesOperand (a : Arena α) (s : Step) : Prop :=
  a.operand s.operation = .ok (.operation .splice) ∧ a.operand s.first = .ok (.sequence .operands)

theorem operand_cases (a : Arena α) (i : Nat) : (∃ v, a.operand i = .ok v) ∨
    a.operands.length ≤ i ∧ a.operand i = .error (.invalidOperand (.outOfRange i a.operands.length)) := by
  unfold Arena.operand
  cases h : a.operands[i]? with
  | some v => exact .inl ⟨v, rfl⟩
  | none => exact .inr ⟨List.getElem?_eq_none_iff.1 h, rfl⟩

theorem second_cases (a : Arena α) (s : Step) :
    (∃ argument, s.second.mapM a.operand = .ok argument) ∨
    ∃ i ∈ s.indices, a.operands.length ≤ i ∧
      s.second.mapM a.operand = .error (.invalidOperand (.outOfRange i a.operands.length)) := by
  cases hs : s.second with
  | none => exact .inl ⟨none, rfl⟩
  | some i =>
    have hi : i ∈ s.indices := by simp [Step.indices, hs]
    rw [Option.mapM_some]
    obtain ⟨v, hv⟩ | ⟨hlen, he⟩ := operand_cases a i
    · exact .inl ⟨some v, by rw [hv]; rfl⟩
    · exact .inr ⟨i, hi, hlen, by rw [he]; rfl⟩

/-- A step applies an operation to a sequence, or it fails: an index of it is out of range, or it
finds something else than an operation or a sequence. -/
theorem runStep_cases (hold : Value → α) (a : Arena α) (s : Step) :
    (∃ op slot argument, a.operand s.operation = .ok (.operation op) ∧
      a.operand s.first = .ok (.sequence slot) ∧ s.second.mapM a.operand = .ok argument ∧
      runStep hold a s = applyAt hold op argument a slot) ∨
    (∃ i ∈ s.indices, a.operands.length ≤ i ∧
      runStep hold a s = .error (.invalidOperand (.outOfRange i a.operands.length))) ∨
    (∃ v, runStep hold a s = .error (.notCallable s.operation v)) ∨
    ∃ op v, runStep hold a s = .error (.invalidOperand (.noSequence op v)) := by
  unfold runStep
  obtain ⟨v, hv⟩ | ⟨hi, he⟩ := operand_cases a s.operation
  swap
  · exact .inr (.inl ⟨s.operation, .head _, hi, by rw [he, error_bind]⟩)
  rw [hv, ok_bind]
  cases v with
  | integer | text | sequence => exact .inr (.inr (.inl ⟨_, rfl⟩))
  | operation op =>
    obtain ⟨w, hw⟩ | ⟨hi, he⟩ := operand_cases a s.first
    swap
    · exact .inr (.inl ⟨s.first, .tail _ (.head _), hi, by simp only [he, error_bind]⟩)
    simp only [hw, ok_bind]
    cases w with
    | integer | text | operation => exact .inr (.inr (.inr ⟨op, _, rfl⟩))
    | sequence slot =>
      obtain ⟨argument, hs⟩ | ⟨i, hmem, hi, he⟩ := second_cases a s
      · exact .inl ⟨op, slot, argument, rfl, rfl, hs, by simp only [hs, ok_bind]⟩
      · exact .inr (.inl ⟨i, hmem, hi, by simp only [he, error_bind]⟩)

theorem length_le_of_apply {op : Operation} {argument : Option Value} {xs ys : List α}
    (hop : op ≠ .splice) (h : apply hold op argument xs = .ok ys) : xs.length ≤ ys.length := by
  obtain hperm | ⟨v, rfl⟩ := apply_perm hop h
  · exact hperm.length_eq.ge
  · exact List.length_append ▸ Nat.le_add_right _ _

theorem length_le_of_applyAt {op : Operation} {argument : Option Value} {slot : Slot}
    (hop : op = .splice → slot ≠ .operands) (h : applyAt hold op argument a slot = .ok b) :
    a.operands.length ≤ b.operands.length := by
  cases slot with
  | operands =>
    obtain ⟨os, hos, hb⟩ := bind_eq_ok.1 h
    obtain rfl := Except.ok.inj hb
    exact length_le_of_apply (fun he => hop he rfl) hos
  | input =>
    obtain ⟨xs, -, hb⟩ := bind_eq_ok.1 h
    obtain rfl := Except.ok.inj hb
    exact Nat.le_refl _

/-- A step makes the operand array no shorter unless it removes an operand. -/
theorem length_le_or_removes (h : runStep hold a s = .ok b) :
    a.operands.length ≤ b.operands.length ∨ RemovesOperand a s := by
  obtain ⟨op, slot, argument, ho, hf, -, hr⟩ | ⟨i, -, -, he⟩ | ⟨v, he⟩ | ⟨op, v, he⟩ :=
    runStep_cases hold a s
  · by_cases hop : op = .splice ∧ slot = .operands
    · obtain ⟨rfl, rfl⟩ := hop
      exact .inr ⟨ho, hf⟩
    · exact .inl (length_le_of_applyAt (fun h h' => hop ⟨h, h'⟩) (hr.symm.trans h))
  all_goals cases he.symm.trans h

theorem applyAt_ne_outOfRange (op : Operation) (argument : Option Value) (slot : Slot) :
    applyAt hold op argument a slot ≠ .error (.invalidOperand (.outOfRange i n)) := fun h => by
  cases refuses_of_applyAt h

theorem join_ne_outOfRange (vs : List Value) :
    join vs ≠ .error (.invalidOperand (.outOfRange i n)) := fun h => by
  obtain ⟨v, hv⟩ := unjoinable_of_join h
  cases hv

theorem index_of_outOfRange (h : runStep hold a s = .error (.invalidOperand (.outOfRange i n))) :
    i ∈ s.indices ∧ n = a.operands.length ∧ n ≤ i := by
  obtain ⟨op, slot, argument, -, -, -, hr⟩ | ⟨j, hj, hlen, he⟩ | ⟨v, he⟩ | ⟨op, v, he⟩ :=
    runStep_cases hold a s
  · exact absurd (hr.symm.trans h) (applyAt_ne_outOfRange op argument slot)
  · cases he.symm.trans h
    exact ⟨hj, rfl, hlen⟩
  all_goals cases he.symm.trans h

theorem exists_index_of_outOfRange
    (h : runSteps hold ss a = .error (.invalidOperand (.outOfRange i n))) :
    ∃ s ∈ ss, i ∈ s.indices ∧ n ≤ i := by
  induction ss generalizing a with
  | nil => cases h
  | cons s ss ih =>
    obtain h | ⟨b, -, h⟩ := bind_eq_error.1 h
    · obtain ⟨hi, -, hn⟩ := index_of_outOfRange h
      exact ⟨s, .head ss, hi, hn⟩
    · obtain ⟨s', hs', hi⟩ := ih h
      exact ⟨s', .tail s hs', hi⟩

/-- As long as no operand is removed there are `count` of them, so an index below that is out of
range behind a removal only. -/
theorem removes_before_outOfRange {count : Nat} (hindices : ∀ s ∈ ss, ∀ i ∈ s.indices, i < count)
    (ha : count ≤ a.operands.length)
    (h : runSteps hold ss a = .error (.invalidOperand (.outOfRange i n))) :
    ∃ before s after a₁ a₂, ss = before ++ s :: after ∧ runSteps hold before a = .ok a₁ ∧
      RemovesOperand a₁ s ∧ runStep hold a₁ s = .ok a₂ ∧
      runSteps hold after a₂ = .error (.invalidOperand (.outOfRange i n)) := by
  induction ss generalizing a with
  | nil => cases h
  | cons s ss ih =>
    obtain ⟨hs, hss⟩ := List.forall_mem_cons.1 hindices
    obtain h | ⟨b, hb, h⟩ := bind_eq_error.1 h
    · obtain ⟨hi, hn, hle⟩ := index_of_outOfRange h
      have hlt := hs i hi
      omega
    · obtain hlen | hremoves := length_le_or_removes hb
      · obtain ⟨before, t, after, a₁, a₂, rfl, hbefore, ht⟩ := ih hss (ha.trans hlen) h
        exact ⟨s :: before, t, after, a₁, a₂, rfl, by rw [runSteps, hb, ok_bind, hbefore], ht⟩
      · exact ⟨[], s, ss, a, b, rfl, rfl, hremoves, hb, h⟩

/-- When a program that is built from a script runs, an index is out of range only behind a step
that has removed an operand. The index has been one of an operand before. -/
theorem outOfRange_behind_removal {script : Text} {p : ThrottlingProgram}
    (hp : ofScript script = .ok p) (input : Text) :
    (∀ i n, p.run input = .error (.invalidOperand (.outOfRange i n)) →
      n ≤ i ∧ i < p.operands.length ∧
      ∃ before s after a b, p.plan = before ++ s :: after ∧
        runSteps id before (start p.operands input) = .ok a ∧ RemovesOperand a s ∧
        runStep id a s = .ok b ∧
        runSteps id after b = .error (.invalidOperand (.outOfRange i n))) ∧
    ((∀ before s after a b, p.plan = before ++ s :: after →
        runSteps id before (start p.operands input) = .ok a → runStep id a s = .ok b →
        ¬RemovesOperand a s) →
      ∀ i n, p.run input ≠ .error (.invalidOperand (.outOfRange i n))) := by
  have hindices := (isWellFormed_of_ofScript hp).indices
  have hcount : p.operands.length ≤ (start p.operands input).operands.length :=
    (List.length_map _).ge
  have hsteps (i n : Nat) (h : p.run input = .error (.invalidOperand (.outOfRange i n))) :
      runSteps id p.plan (start p.operands input) = .error (.invalidOperand (.outOfRange i n)) := by
    obtain h | ⟨a, -, h⟩ := bind_eq_error.1 h
    · exact h
    · exact absurd h (join_ne_outOfRange a.input)
  refine ⟨fun i n h => ?_, fun hno i n h => ?_⟩
  · obtain ⟨s, hs, hi, hn⟩ := exists_index_of_outOfRange (hsteps i n h)
    exact ⟨hn, hindices s hs i hi, removes_before_outOfRange hindices hcount (hsteps i n h)⟩
  · obtain ⟨before, s, after, a, b, hplan, hbefore, hremoves, hstep, -⟩ :=
      removes_before_outOfRange hindices hcount (hsteps i n h)
    exact hno before s after a b hplan hbefore hstep hremoves

def removesLast : Text :=
  "N=function(a)\x7bvar b=[],c=[function(d,e)\x7bd.splice(0,e)\x7d,null,2];try\x7b".toList ++
    "c[0](c[1],c[2]),c[0](c[1],c[2])\x7dcatch(f)\x7b\x7d\x7d;a.D&&(b=a.get(\"n\"))&&(b=N(b))".toList

theorem removesLast_outOfRange : ∃ p, ofScript removesLast = .ok p ∧
    p.run "ab".toList = .error (.invalidOperand (.outOfRange 2 2)) ∧ p.operands.length = 3 ∧
    ∃ before s after a b, p.plan = before ++ s :: after ∧
      runSteps id before (start p.operands "ab".toList) = .ok a ∧ RemovesOperand a s ∧
      runStep id a s = .ok b ∧ runSteps id after b = .error (.invalidOperand (.outOfRange 2 2)) := by
  have hp : ofScript removesLast = .ok ⟨[⟨0, 1, some 2⟩, ⟨0, 1, some 2⟩],
      [.operation .splice, .itself, .integer 2]⟩ := by decide +kernel
  have hrun : run ⟨[⟨0, 1, some 2⟩, ⟨0, 1, some 2⟩], [.operation .splice, .itself, .integer 2]⟩
      "ab".toList = .error (.invalidOperand (.outOfRange 2 2)) := by decide
  exact ⟨_, hp, hrun, rfl, ((outOfRange_behind_removal hp _).1 2 2 hrun).2.2⟩

end Unscramble.ThrottlingProgram
