import Mathlib.Data.List.Forall2
import Unscramble.Proofs.Plan.Steps

/-! The steps of a program against the call heads of its block. A head whose call has another form
than a step is passed over, so the program has one step for each head where every head begins a
call of that form, and there only. -/
namespace Unscramble

theorem Outcome.forall_of_forall₂ {α β : Type} {R : α → β → Prop} {P : β → Prop} {xs : List α} {ys : List β}
    (h : List.Forall₂ R xs ys) (hP : ∀ x y, R x y → P y) : ∀ y ∈ ys, P y := by
  induction h with
  | nil => nofun
  | cons hx _ ih => exact List.forall_mem_cons.2 ⟨hP _ _ hx, ih⟩

namespace WrittenStep
variable {t : Text}

/-- Every head in the text begins a call that has the form of a step. -/
def HeadsAreCalls (t : Text) : Prop := ∀ x ∈ t.tails, (head? x).isSome → (read? x).isSome

theorem headsIn_of_headsAreCalls (h : HeadsAreCalls t) :
    headsIn t = (callsIn t).map (·.operation) := by
  rw [headsIn, callsIn, List.map_filterMap]
  refine List.filterMap_congr fun x hx => ?_
  cases hs : read? x with
  | none =>
    cases hh : head? x with
    | none => rfl
    | some found =>
      have hr := h x hx (by simp [hh])
      simp [hs] at hr
  | some s => rw [head?_of_read? hs]; rfl

theorem headsIn_cons (c : Char) (t : Text) :
    headsIn (c :: t) = ((head? (c :: t)).map (·.1)).toList ++ headsIn t := filterMap_tails_cons c t

theorem callsIn_cons (c : Char) (t : Text) :
    callsIn (c :: t) = (read? (c :: t)).toList ++ callsIn t := filterMap_tails_cons c t

theorem length_callsIn_le (t : Text) : (callsIn t).length ≤ (headsIn t).length := by
  induction t with
  | nil => exact Nat.le_refl 0
  | cons c t ih =>
    rw [headsIn_cons, callsIn_cons, List.length_append, List.length_append]
    cases hs : read? (c :: t) with
    | none => exact Nat.add_le_add (Nat.zero_le _) ih
    | some s =>
      rw [head?_of_read? hs]
      exact Nat.add_le_add_left ih 1

/-- A head whose call has another form makes the heads more than the calls. -/
theorem headsAreCalls_cons {c : Char} :
    HeadsAreCalls (c :: t) ↔
      ((head? (c :: t)).isSome → (read? (c :: t)).isSome) ∧ HeadsAreCalls t := by
  rw [HeadsAreCalls, List.tails_cons, List.forall_mem_cons]
  rfl

theorem headsAreCalls_of_length (h : (headsIn t).length ≤ (callsIn t).length) :
    HeadsAreCalls t := by
  induction t with
  | nil => exact List.forall_mem_singleton.2 fun h => absurd h (by decide)
  | cons c t ih =>
    have hle := length_callsIn_le t
    rw [headsIn_cons, callsIn_cons, List.length_append, List.length_append] at h
    rw [headsAreCalls_cons]
    cases hs : read? (c :: t) with
    | some s =>
      rw [hs, head?_of_read? hs] at h
      exact ⟨fun _ => rfl, ih (Nat.le_of_add_le_add_left h)⟩
    | none =>
      -- a head that begins no call would be one more than the calls can make up for
      cases hh : head? (c :: t) with
      | some found =>
        simp only [hs, hh, Option.map_some, Option.toList_some, Option.toList_none,
          List.length_singleton, List.length_nil] at h
        omega
      | none =>
        simp only [hs, hh, Option.map_none, Option.toList_none, List.length_nil,
          Nat.zero_add] at h
        exact ⟨fun h => h, ih h⟩

end WrittenStep

namespace ThrottlingProgram
open WrittenStep

def parts (script : Text) : Except Failure (Text × List Operand) := do
  let name ← functionName script
  let definition ← Definition.find script name
  let source := withoutLineBreaks definition.whole.text
  match Text.offsetOf? arrayMarker source with
  | none => throw (.extraction (.noOperandArray name))
  | some marker =>
    let array ← Literal.at? source (marker + 3)
    let operands := (← Elements.ofLiteral array.text).map operandOf
    match source.dropBytes? array.span.stop with
    | none => throw .undefinedAccess
    | some after =>
      let opening ← Catalogue.tryBlock.firstMatch after
      let block ← Literal.at? after opening.span.start
      return (block.text, operands)

theorem ofScript_eq (script : Text) : ofScript script = do
    let (block, operands) ← parts script
    return ⟨← stepsOf block operands.length, operands⟩ := by
  simp only [ofScript, parts, bind_assoc]
  refine bind_congr fun name => bind_congr fun definition => ?_
  cases Text.offsetOf? arrayMarker (withoutLineBreaks definition.whole.text) with
  | none => rfl
  | some marker =>
    simp only [bind_assoc]
    refine bind_congr fun array => bind_congr fun elements => ?_
    cases (withoutLineBreaks definition.whole.text).dropBytes? array.span.stop with
    | none => rfl
    | some after => simp only [bind_assoc, pure_bind]

variable {script block : Text} {count : Nat} {steps : List Step} {p : ThrottlingProgram}

theorem forall₂_calls (h : stepsOf block count = .ok steps) :
    List.Forall₂ (fun s step => s.step count = .ok step) (callsIn block) steps := by
  rw [stepsOf_eq] at h
  obtain ⟨ss, hss, h⟩ := Outcome.bind_eq_ok.1 h
  cases ss with
  | nil => cases h
  | cons s ss => exact Outcome.mapM_eq_ok.1 (Except.ok.inj h ▸ hss)

theorem read_of_indexOf {m : Match} {i : Nat} (h : indexOf count m = .ok i) :
    Number.read Number.maxWord m.text = .ok i := by
  simp only [indexOf] at h
  split at h
  · cases h
  next hr =>
    split at h
    · rw [hr, Except.ok.inj h]
    · cases h

theorem forall₂_indices {s : WrittenStep} {step : Step} (h : s.step count = .ok step) :
    List.Forall₂ (fun d i => indexOf count ⟨d, ⟨0, 0⟩⟩ = .ok i) s.indices step.indices := by
  obtain ⟨operation, first, second⟩ := s
  obtain ⟨i, hi, h⟩ := Outcome.bind_eq_ok.1 h
  obtain ⟨j, hj, h⟩ := Outcome.bind_eq_ok.1 h
  cases second with
  | none =>
    obtain rfl := Except.ok.inj h
    exact .cons hi (.cons hj .nil)
  | some d =>
    obtain ⟨k, hk, h⟩ := Outcome.bind_eq_ok.1 h
    obtain rfl := Except.ok.inj h
    exact .cons hi (.cons hj (.cons hk .nil))

theorem operation_of_step {s : WrittenStep} {step : Step} (h : s.step count = .ok step) :
    Number.read Number.maxWord s.operation = .ok step.operation := by
  cases forall₂_indices h with
  | cons hi _ => exact read_of_indexOf hi

/-- The steps of a program are the calls of its block in their order. They have one step for each
call head of the block, with its index as the operation, where every head begins a call of the form
of a step; where one does not, the program is shorter. -/
theorem plan_of_heads (h : ofScript script = .ok p) : ∃ block,
    parts script = .ok (block, p.operands) ∧
    List.Forall₂ (fun s step => s.step p.operands.length = .ok step) (callsIn block) p.plan ∧
    (List.Forall₂ (fun d step => Number.read Number.maxWord d = .ok step.operation)
      (headsIn block) p.plan ↔ HeadsAreCalls block) := by
  rw [ofScript_eq] at h
  obtain ⟨⟨block, operands⟩, hparts, h⟩ := Outcome.bind_eq_ok.1 h
  obtain ⟨steps, hsteps, h⟩ := Outcome.bind_eq_ok.1 h
  obtain rfl := Except.ok.inj h
  have hcalls := forall₂_calls hsteps
  refine ⟨block, hparts, hcalls, fun hheads => ?_, fun hall => ?_⟩
  · have hl := hheads.length_eq.trans hcalls.length_eq.symm
    exact headsAreCalls_of_length hl.le
  · rw [headsIn_of_headsAreCalls hall, List.forall₂_map_left_iff]
    exact hcalls.imp fun _ _ => operation_of_step

def holding (calls : String) : Text :=
  "N=function(a)\x7bvar b=[],c=[function(d)\x7bd.reverse()\x7d,b,1,2];try\x7b".toList ++
    (calls.toList ++ "\x7dcatch(f)\x7b\x7d\x7d;a.D&&(b=a.get(\"n\"))&&(b=N(b))".toList)

def heldOperands : List Operand := [.operation .reverse, .text "b".toList, .integer 1, .integer 2]

theorem plan_of_heads_two :
    ofScript (holding "c[0](c[1]),c[0](c[1],c[2])") =
      .ok ⟨[⟨0, 1, none⟩, ⟨0, 1, some 2⟩], heldOperands⟩ ∧
    ∃ block, parts (holding "c[0](c[1]),c[0](c[1],c[2])") = .ok (block, heldOperands) ∧
      List.Forall₂ (fun s step => s.step 4 = .ok step) (callsIn block)
        [⟨0, 1, none⟩, ⟨0, 1, some 2⟩] ∧
      (List.Forall₂ (fun d (step : Step) => Number.read Number.maxWord d = .ok step.operation)
        (headsIn block) [⟨0, 1, none⟩, ⟨0, 1, some 2⟩] ↔ HeadsAreCalls block) := by
  have h : ofScript (holding "c[0](c[1]),c[0](c[1],c[2])") =
      .ok ⟨[⟨0, 1, none⟩, ⟨0, 1, some 2⟩], heldOperands⟩ :=
    by decide +kernel
  exact ⟨h, plan_of_heads h⟩

def widerBlock : Text := "\x7bc[0](c[1]),c[0](c[1],c[2],c[3])\x7d".toList

/-- Of two calls, one with a third argument, the program has one step. -/
theorem third_argument_passed_over :
    ofScript (holding "c[0](c[1]),c[0](c[1],c[2],c[3])") =
      .ok ⟨[⟨0, 1, none⟩], heldOperands⟩ ∧
    ∃ block, parts (holding "c[0](c[1]),c[0](c[1],c[2],c[3])") = .ok (block, heldOperands) ∧
      ¬List.Forall₂ (fun d (step : Step) => Number.read Number.maxWord d = .ok step.operation)
        (headsIn block) [⟨0, 1, none⟩] := by
  have hparts : parts (holding "c[0](c[1]),c[0](c[1],c[2],c[3])") =
      .ok (widerBlock, heldOperands) := by decide +kernel
  have hsteps : stepsOf widerBlock heldOperands.length = .ok [⟨0, 1, none⟩] := by decide +kernel
  refine ⟨?_, widerBlock, hparts, fun h => ?_⟩
  · simp only [ofScript_eq, hparts, Outcome.ok_bind, hsteps, Outcome.pure_eq]
  · have hl : (headsIn widerBlock).length = 1 := h.length_eq
    exact absurd hl (by decide)

end ThrottlingProgram
end Unscramble
