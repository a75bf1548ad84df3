import Unscramble.Plan.SignatureScript
import Unscramble.Proofs.Outcome
import Unscramble.Proofs.Pattern.Call
import Unscramble.Proofs.Pattern.Signature
import Unscramble.Run.Signature

/-! The statements of a signature plan: what each is read as when the plan runs, and which object a script
that begins with it is said to call. -/
namespace Unscramble
open Regex Catalogue

namespace WrittenNumber

def value? (n : WrittenNumber) : Option Nat :=
  let value := Nat.ofDigitChars 10 n.digits 0
  if n.digits.all Char.isDigit = true ∧ value ≤ Number.maxWord then some value else none

theorem read_digits (n : WrittenNumber) :
    (∃ v, n.value? = some v ∧ Number.read Number.maxWord n.digits = .ok v) ∨
      (n.value? = none ∧ ∃ fault, Number.read Number.maxWord n.digits = .error fault) := by
  have hsign : ∀ d ∈ n.digits.head?, d ≠ '+' := by
    rintro d hd rfl
    exact absurd (n.isDigit _ (List.mem_of_head? hd)) (by decide)
  have hiff (v : Nat) := Number.readDigits_eq_ok_iff (t := n.digits) (n := v)
    (Nat.zero_le Number.maxWord)
  rw [Number.read_eq_readDigits hsign n.ne_nil]
  cases hr : Number.readDigits Number.maxWord 0 n.digits with
  | ok v =>
    obtain ⟨hd, rfl, hv⟩ := (hiff v).1 hr
    exact .inl ⟨_, if_pos ⟨List.all_eq_true.2 hd, hv⟩, rfl⟩
  | error fault =>
    refine .inr ⟨if_neg fun h => ?_, fault, rfl⟩
    cases hr.symm.trans ((hiff _).2 ⟨List.all_eq_true.1 h.1, rfl, h.2⟩)

end WrittenNumber

namespace WrittenCall

/-- Without a number the argument is zero. -/
def argument? (c : WrittenCall) : Option Nat :=
  match c.number with
  | none => some 0
  | some n => n.value?

theorem ofStatement_text (c : WrittenCall) :
    (∃ v, c.argument? = some v ∧ Call.ofStatement c.text = .ok ⟨c.name, v⟩) ∨
      (c.argument? = none ∧
        ∃ fault, Call.ofStatement c.text = .error (.invalidOperand (.badArgument fault c.text))) := by
  obtain ⟨m, hm, hname⟩ := c.first_text
  cases hn : c.number with
  | none =>
    have hg : (Hit.reading 0 c.text c.marks).group? argumentGroup = none := by
      rw [marks, hn]
      exact PatternSet.group?_reading_of_ne (by decide)
    exact .inl ⟨0, by rw [argument?, hn], by simp only [Call.ofStatement, hm, hg, hname]⟩
  | some n =>
    have hg : ∃ m, (Hit.reading 0 c.text c.marks).group? argumentGroup = some m ∧ m.text = n.digits := by
      rw [marks, hn]
      exact ⟨_, PatternSet.group?_reading .., rfl⟩
    obtain ⟨m', hg, hdigits⟩ := hg
    obtain ⟨v, hv, hr⟩ | ⟨hv, fault, hr⟩ := n.read_digits
    · refine .inl ⟨v, by rw [argument?, hn]; exact hv, ?_⟩
      simp only [Call.ofStatement, hm, hg, hname, hdigits, hr]
    · refine .inr ⟨by rw [argument?, hn]; exact hv, fault, ?_⟩
      simp only [Call.ofStatement, hm, hg, hdigits, hr]

end WrittenCall

/-- One grammar says which statements are calls, and what each is read as: its name, with the value of
its number or zero. A text that is no call is reported whole. -/
theorem Call.ofStatement_by_grammar (s : Text) :
    (Call.ofStatement s = .error (.unknownOperation s) ↔ ∀ c : WrittenCall, c.text ≠ s) ∧
      ∀ c : WrittenCall, c.text = s → (∀ d : WrittenCall, d.text = s → d = c) ∧
        (∀ v, c.argument? = some v → Call.ofStatement s = .ok ⟨c.name, v⟩) ∧
        (c.argument? = none →
          ∃ fault, Call.ofStatement s = .error (.invalidOperand (.badArgument fault s))) := by
  constructor
  · constructor
    · rintro h c rfl
      obtain ⟨v, -, ho⟩ | ⟨-, fault, ho⟩ := c.ofStatement_text
      · cases ho.symm.trans h
      · cases ho.symm.trans h
    · intro h
      cases hf : transformCall.first s with
      | error f => simp only [Call.ofStatement, hf]
      | ok found =>
        obtain ⟨c, hc⟩ := WrittenCall.exists_of_first hf
        exact absurd hc (h c)
  · rintro c rfl
    refine ⟨fun d hd => WrittenCall.text_injective hd, fun v hv => ?_, fun hv => ?_⟩
    · obtain ⟨v', hv', ho⟩ | ⟨hnone, -⟩ := c.ofStatement_text
      · obtain rfl : v' = v := Option.some.inj (hv'.symm.trans hv)
        exact ho
      · cases hv.symm.trans hnone
    · obtain ⟨v', hv', -⟩ | ⟨-, ho⟩ := c.ofStatement_text
      · cases hv.symm.trans hv'
      · exact ho

def sampleIndexed : WrittenCall where
  object := "DE".toList
  access := .indexed .double .single
  name := "kT".toList
  parameter := "a".toList
  number := some ⟨" ".toList, "31".toList, List.all_eq_true.1 (by decide), by decide,
    List.all_eq_true.1 (by decide)⟩
  isName_object := by decide
  isName_name := by decide
  isName_parameter := by decide

def sampleForeign : WrittenCall where
  object := "x".toList
  access := .member
  name := "w$".toList
  parameter := "a".toList
  number := some ⟨[], "4\u0663".toList, List.forall_mem_nil _, by decide, List.all_eq_true.1 (by decide)⟩
  isName_object := by decide
  isName_name := by decide
  isName_parameter := by decide

theorem Call.ofStatement_samples :
    Call.ofStatement "DE[\"kT'](a, 31)".toList = .ok ⟨"kT".toList, 31⟩ ∧
      ∃ fault, Call.ofStatement "x.w$(a,4\u0663)".toList =
        .error (.invalidOperand (.badArgument fault "x.w$(a,4\u0663)".toList)) :=
  ⟨((ofStatement_by_grammar _).2 sampleIndexed rfl).2.1 31 (by decide),
    ((ofStatement_by_grammar _).2 sampleForeign rfl).2.2 (by decide)⟩

def Access.opensSingly : Access → Bool
  | member => false
  | indexed q _ => q == .single

namespace WrittenCall

theorem transformObject_text (c : WrittenCall) : transformObject.firstMatch c.text =
    if c.access.opensSingly then .error (.noMatch .transformObject) else .ok (objectMatch c.object) := by
  obtain ⟨object, access, name, parameter, number, ho, hn, -⟩ := c
  cases access with
  | member => exact transformObject_member ho hn _
  | indexed q q' =>
    cases q with
    | double => exact transformObject_indexed ho _
    | single => exact transformObject_indexed_eq_error ho (by decide) _

end WrittenCall

namespace SignaturePlan
variable {script : Text}

def callsOf (script : Text) : Except Failure (List Text) := do
  let name ← signatureFunction.firstMatch script
  let definition ← Definition.find script name.text
  let statements := statementsOf (← Literal.inside definition.body.text)
  if statements.length < 3 then
    throw (.extraction (.fewStatements name.text statements.length))
  return (statements.drop 1).dropLast

def operationsNamed (script object : Text) : Except Failure OperationTable := do
  let opening ← (← finder .object object).firstMatch script
  let literal ← Literal.at? script opening.span.start
  operationsOf (← Literal.inside literal.text)

/-- A plan is the calls with the operations of the object that the first of them is found to call. -/
theorem ofScript_of_callsOf {call : Text} {calls : List Text} (h : callsOf script = .ok (call :: calls)) :
    ofScript script = transformObject.firstMatch call >>= fun object =>
      (operationsNamed script object.text).map (⟨call :: calls, ·⟩) := by
  obtain ⟨name, hname, h⟩ := Outcome.bind_eq_ok.1 h
  obtain ⟨definition, hdefinition, h⟩ := Outcome.bind_eq_ok.1 h
  obtain ⟨body, hbody, h⟩ := Outcome.bind_eq_ok.1 h
  rw [ofScript, hname, Outcome.ok_bind, hdefinition, Outcome.ok_bind, hbody, Outcome.ok_bind]
  simp only at h ⊢
  split at h
  · cases h
  next hmany =>
    obtain hcalls : ((statementsOf body).drop 1).dropLast = call :: calls := Except.ok.inj h
    simp only [if_neg hmany, hcalls, operationsNamed, Outcome.map_bind]
    rfl

/-- A statement that is a call has the object found in front of its dot or bracket, and a script whose calls
begin with it gives the operations of that object. Brackets that a single quote follows are passed over
when the object is looked for, so no script whose calls begin so has a plan. -/
theorem ofScript_of_transformCall {s : Text} {found : Hit × Match} (h : transformCall.first s = .ok found) :
    ∃ c : WrittenCall, c.text = s ∧
      (c.access.opensSingly = false →
        transformObject.firstMatch s = .ok ⟨c.object, ⟨0, c.object.byteLength⟩⟩ ∧
        ∀ script calls, callsOf script = .ok (s :: calls) →
          ofScript script = (operationsNamed script c.object).map (⟨s :: calls, ·⟩)) ∧
      (c.access.opensSingly = true →
        transformObject.firstMatch s = .error (.noMatch .transformObject) ∧
        ∀ script calls, callsOf script = .ok (s :: calls) →
          ofScript script = .error (.noMatch .transformObject)) := by
  obtain ⟨c, rfl⟩ := WrittenCall.exists_of_first h
  have hobject := c.transformObject_text
  refine ⟨c, rfl, fun hq => ?_, fun hq => ?_⟩
  · rw [if_neg (Bool.eq_false_iff.1 hq)] at hobject
    refine ⟨hobject, fun script calls hcalls => ?_⟩
    rw [ofScript_of_callsOf hcalls, hobject, Outcome.ok_bind, objectMatch]
  · rw [if_pos hq] at hobject
    refine ⟨hobject, fun script calls hcalls => ?_⟩
    rw [ofScript_of_callsOf hcalls, hobject, Outcome.error_bind]

/-- `DE["kT'](a, 31)` has its object found. -/
theorem transformObject_sampleIndexed :
    transformObject.firstMatch "DE[\"kT'](a, 31)".toList = .ok ⟨"DE".toList, ⟨0, 2⟩⟩ := by
  obtain ⟨m, hm, -⟩ := sampleIndexed.first_text
  obtain ⟨c, hc, hfound, -⟩ := ofScript_of_transformCall hm
  obtain rfl := WrittenCall.text_injective hc
  exact (hfound rfl).1

def singlyQuoted : Text :=
  "var O=\x7br:function(a)\x7ba.reverse()\x7d\x7d;".toList ++
    ("N=function(a)\x7ba=a.split(\"\");O['r'](a);return a.join(\"\")\x7d;".toList ++
      "c&&a.set(b,encodeURIComponent(N(c)))".toList)

/-- The call is one that runs, and its object is not found. -/
theorem singlyQuoted_unfound :
    callsOf singlyQuoted = .ok ["O['r'](a)".toList] ∧
      (transformCall.first "O['r'](a)".toList).isOk = true ∧
      runStatement (.ofList [("r".toList, .reverse)]) "abc".toList "O['r'](a)".toList =
        .ok "cba".toList ∧
      transformObject.firstMatch "O['r'](a)".toList = .error (.noMatch .transformObject) ∧
      ofScript singlyQuoted = .error (.noMatch .transformObject) := by
  refine ⟨?_, ?_, ?_, ?_, ?_⟩
  all_goals decide +kernel

end SignaturePlan
end Unscramble
