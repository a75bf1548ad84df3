import Unscramble.Plan.SignatureScript
import Unscramble.Proofs.Selection

/-! What the statements of a signature plan call. That a name stands for no operation shows when a
plan is run, and only if the statements before it have run. -/
namespace Unscramble.SignaturePlan
open Outcome
variable {operations : OperationTable} {s x : Text} {ss : List Text} {α : Type} {xs ys : List α}

/-- The statement has the form of a call, and the name it calls stands for an operation. -/
def Resolves (operations : OperationTable) (s : Text) : Prop :=
  ∃ hit name op, Catalogue.transformCall.first s = .ok (hit, name) ∧
    operations.find? name.text = some op

/-- The statement has no form of a call, or calls a name that stands for no operation. -/
def IsUnknown (operations : OperationTable) (s : Text) : Prop :=
  (∃ f, Catalogue.transformCall.first s = .error f) ∨
    ∃ call, Call.ofStatement s = .ok call ∧ operations.find? call.name = none

/-- The statement calls an operation that works on signatures. -/
def Runs (operations : OperationTable) (s : Text) : Prop :=
  ∃ call op, Call.ofStatement s = .ok call ∧ operations.find? call.name = some op ∧
    op ∈ [Operation.reverse, .splice, .swap]

theorem ofStatement_cases (s : Text) :
    (∃ f, Catalogue.transformCall.first s = .error f ∧
      Call.ofStatement s = .error (.unknownOperation s)) ∨
    ∃ hit name, Catalogue.transformCall.first s = .ok (hit, name) ∧
      ((∃ fault, Call.ofStatement s = .error (.invalidOperand (.badArgument fault s))) ∨
        ∃ n, Call.ofStatement s = .ok ⟨name.text, n⟩) := by
  unfold Call.ofStatement
  cases hf : Catalogue.transformCall.first s with
  | error f => exact .inl ⟨f, rfl, rfl⟩
  | ok found =>
    obtain ⟨hit, name⟩ := found
    refine .inr ⟨hit, name, rfl, ?_⟩
    cases ha : hit.group? Catalogue.argumentGroup with
    | none => exact .inr ⟨0, by simp only [ha]⟩
    | some m =>
      cases hr : Number.read Number.maxWord m.text with
      | error fault => exact .inl ⟨fault, by simp only [ha, hr]⟩
      | ok n => exact .inr ⟨n, by simp only [ha, hr]⟩

theorem not_isUnknown_of_resolves (h : Resolves operations s) : ¬IsUnknown operations s := by
  obtain ⟨hit, name, op, hf, ho⟩ := h
  intro hu
  obtain ⟨f, he⟩ | ⟨call, hc, hn⟩ := hu
  · cases hf.symm.trans he
  · obtain ⟨f, he, -⟩ | ⟨hit', name', hf', ⟨fault, he⟩ | ⟨n, he⟩⟩ := ofStatement_cases s
    · cases hf.symm.trans he
    · cases hc.symm.trans he
    · obtain ⟨-, rfl⟩ := Prod.mk.inj (Except.ok.inj (hf.symm.trans hf'))
      obtain rfl := Except.ok.inj (hc.symm.trans he)
      cases ho.symm.trans hn

theorem runStatement_of_isUnknown (h : IsUnknown operations s) (xs : List α) :
    ∃ x, runStatement operations xs s = .error (.unknownOperation x) := by
  obtain ⟨f, he⟩ | ⟨call, hc, hn⟩ := h
  · obtain ⟨-, -, hs⟩ | ⟨hit, name, hf, -⟩ := ofStatement_cases s
    · exact ⟨s, by rw [runStatement, hs, error_bind]⟩
    · cases hf.symm.trans he
  · exact ⟨call.name, by simp only [runStatement, hc, ok_bind, hn, throw_eq]⟩

theorem apply_ne_unknownOperation (op : Operation) (call : Call) (xs : List α) :
    apply op call xs ≠ .error (.unknownOperation x) := by
  have hd {y : Option (List α)} : defined y ≠ .error (.unknownOperation x) := by
    cases y <;> simp [defined]
  cases op with
  | reverse => simp [apply]
  | splice => exact hd
  | swap =>
    cases hx : xs.isEmpty with
    | true => simp [apply, hx]
    | false => simpa [apply, hx] using hd
  | unshift | push | prepend | nestedSplice | cipherDispatch => simp [apply]

theorem isUnknown_of_runStatement
    (h : runStatement operations xs s = .error (.unknownOperation x)) : IsUnknown operations s := by
  obtain ⟨f, hf, -⟩ | ⟨hit, name, -, ⟨fault, he⟩ | ⟨n, he⟩⟩ := ofStatement_cases s
  · exact .inl ⟨f, hf⟩
  · simp [runStatement, he] at h
  · cases ho : operations.find? name.text with
    | none => exact .inr ⟨_, he, ho⟩
    | some op =>
      simp only [runStatement, he, ok_bind, ho] at h
      exact absurd h (apply_ne_unknownOperation op _ xs)

theorem runs_of_runStatement (h : runStatement operations xs s = .ok ys) : Runs operations s := by
  obtain ⟨call, hc, h⟩ := bind_eq_ok.1 h
  cases ho : operations.find? call.name with
  | none => simp [ho] at h
  | some op =>
    refine ⟨call, op, hc, ho, ?_⟩
    simp only [ho] at h
    cases op with
    | reverse | splice | swap => simp
    | unshift | push | prepend | nestedSplice | cipherDispatch => simp [apply] at h

theorem apply_of_lt {op : Operation} {call : Call} (hop : op ∈ [Operation.reverse, .splice, .swap])
    (h : call.argument < xs.length) :
    ∃ ys, apply op call xs = .ok ys ∧ xs.length ≤ ys.length + call.argument := by
  have hne : xs.isEmpty = false := by
    rw [List.isEmpty_eq_false_iff, ← List.length_pos_iff]
    omega
  simp only [List.mem_cons, List.not_mem_nil, or_false] at hop
  obtain rfl | rfl | rfl := hop
  · exact ⟨xs.reverse, rfl, by simp⟩
  · refine ⟨xs.drop call.argument, by simp [apply, Sequence.dropFront?_min, defined], ?_⟩
    rw [List.length_drop]
    omega
  · have h0 : 0 < xs.length := by omega
    have hn := Nat.mod_lt call.argument h0
    refine ⟨(xs.set 0 xs[call.argument % xs.length]).set (call.argument % xs.length) xs[0], ?_, ?_⟩
    · simp only [apply, hne, Bool.false_eq_true, if_false, Sequence.wrap?_natCast _ h0,
        Option.bind_some, Sequence.swapFront?_of_lt h0 hn, defined]
    · simp

theorem runStatement_of_runs (h : Runs operations s) :
    ∃ n, ∀ xs : List α, n < xs.length →
      ∃ ys, runStatement operations xs s = .ok ys ∧ xs.length ≤ ys.length + n := by
  obtain ⟨call, op, hc, ho, hop⟩ := h
  refine ⟨call.argument, fun xs hx => ?_⟩
  obtain ⟨ys, hy, hl⟩ := apply_of_lt hop hx
  exact ⟨ys, by simp only [runStatement, hc, ok_bind, ho, hy], hl⟩

/-- Statements that run one by one run in a row, on a signature that is long enough. -/
theorem runStatements_of_runs (h : ∀ r ∈ ss, Runs operations r) :
    ∃ n, ∀ xs : List α, n < xs.length → ∃ ys, runStatements operations ss xs = .ok ys := by
  induction ss with
  | nil => exact ⟨0, fun xs _ => ⟨xs, rfl⟩⟩
  | cons s ss ih =>
    obtain ⟨m, hm⟩ := runStatement_of_runs (α := α) (h s (.head ss))
    obtain ⟨n, hn⟩ := ih fun r hr => h r (.tail s hr)
    refine ⟨m + n, fun xs hx => ?_⟩
    obtain ⟨ys, hy, hl⟩ := hm xs (by omega)
    obtain ⟨zs, hz⟩ := hn ys (by omega)
    exact ⟨zs, by rw [runStatements, hy, ok_bind, hz]⟩

theorem exists_isUnknown_of_runStatements
    (h : runStatements operations ss xs = .error (.unknownOperation x)) :
    ∃ before s after, ss = before ++ s :: after ∧ (∀ r ∈ before, Runs operations r) ∧
      IsUnknown operations s := by
  induction ss generalizing xs with
  | nil => cases h
  | cons s ss ih =>
    cases hs : runStatement operations xs s with
    | error e =>
      rw [runStatements, hs, error_bind] at h
      obtain rfl := Except.error.inj h
      exact ⟨[], s, ss, rfl, fun r hr => absurd hr List.not_mem_nil, isUnknown_of_runStatement hs⟩
    | ok ys =>
      rw [runStatements, hs, ok_bind] at h
      obtain ⟨before, t, after, rfl, hb, ht⟩ := ih h
      exact ⟨s :: before, t, after, rfl,
        List.forall_mem_cons.2 ⟨runs_of_runStatement hs, hb⟩, ht⟩

/-- The plan of a script meets no unknown operation on any signature, if and only if no statement
behind statements that run is unknown; and so it is if every statement resolves. -/
theorem runs_known_iff (script : Text) :
    ((∀ p, ofScript script = .ok p → ∀ input x, p.run input ≠ .error (.unknownOperation x)) ↔
      ∀ p, ofScript script = .ok p → ∀ before s after, p.statements = before ++ s :: after →
        (∀ r ∈ before, Runs p.operations r) → ¬IsUnknown p.operations s) ∧
    ((∀ p, ofScript script = .ok p → ∀ s ∈ p.statements, Resolves p.operations s) →
      ∀ p, ofScript script = .ok p → ∀ input x, p.run input ≠ .error (.unknownOperation x)) := by
  refine ⟨⟨fun h p hp before s after he hb hu => ?_, fun h p hp input x hx => ?_⟩,
    fun h p hp input x hx => ?_⟩
  · obtain ⟨n, hn⟩ := runStatements_of_runs (α := Char) hb
    obtain ⟨ys, hy⟩ := hn (List.replicate (n + 1) 'a') (by simp)
    obtain ⟨x, hx⟩ := runStatement_of_isUnknown hu ys
    refine h p hp (List.replicate (n + 1) 'a') x ?_
    rw [run, he, runStatements_append, hy, ok_bind, runStatements, hx, error_bind]
  · obtain ⟨before, s, after, he, hb, hu⟩ := exists_isUnknown_of_runStatements hx
    exact h p hp before s after he hb hu
  · obtain ⟨before, s, after, he, -, hu⟩ := exists_isUnknown_of_runStatements hx
    have hm : s ∈ p.statements := he ▸ List.mem_append_right before (.head after)
    exact not_isUnknown_of_resolves (h p hp s hm) hu

def lackingEntry : Text :=
  "var O=\x7br:function(a)\x7ba.reverse()\x7d\x7d;".toList ++
    ("N=function(a)\x7ba=a.split(\"\");O.r(a);O.q(a,1);return a.join(\"\")\x7d;".toList ++
    ("c&&a.set(b,encodeURIComponent(N(c)));".toList ++
    ("M=function(a)\x7bvar b=[],c=[function(d)\x7bd.reverse()\x7d,b];try\x7b".toList ++
      "c[0](c[1])\x7dcatch(f)\x7b\x7d\x7d;a.D&&(b=a.get(\"n\"))&&(b=M(b))".toList)))

/-- Its plan is built, and fails on a signature. -/
theorem lackingEntry_unknown : ∃ p, ofScript lackingEntry = .ok p ∧
    p.run "abc".toList = .error (.unknownOperation "q".toList) ∧
    ∃ s ∈ p.statements, ¬Resolves p.operations s := by
  have hrun : run ⟨["O.r(a)".toList, "O.q(a,1)".toList], .ofList [("r".toList, .reverse)]⟩
      "abc".toList = .error (.unknownOperation "q".toList) := by decide +kernel
  refine ⟨_, ?_, hrun, ?_⟩
  · decide +kernel
  · obtain ⟨before, s, after, he, -, hu⟩ := exists_isUnknown_of_runStatements hrun
    exact ⟨s, he ▸ List.mem_append_right before (.head after), fun h =>
      not_isUnknown_of_resolves h hu⟩

end Unscramble.SignaturePlan
