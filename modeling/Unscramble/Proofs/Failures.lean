import Unscramble.Cipher
import Unscramble.Proofs.Pattern.Sources
import Unscramble.Proofs.Plan.Slices
import Unscramble.Proofs.Plan.Statements
import Unscramble.Proofs.Run.Memory

/-! Which failures tell of a script that no cipher can be made of, and which of a plan that cannot be
run. Only the former can go away with a newer script. -/
namespace Unscramble
open Outcome Regex Catalogue
variable {α β : Type}

namespace Failure

def isOfBuilding : Failure → Bool
  | scriptTooLarge _ _ | noMatch _ | extraction _ | malformed _ | unterminated _ => true
  | _ => false

def isOfSignature : Failure → Bool
  | unknownOperation _ | invalidOperand _ | unsupported _ => true
  | _ => false

def isOfThrottling : Failure → Bool
  | notCallable _ _ | invalidOperand _ | unsupported _ => true
  | _ => false

theorem isStale_of_running {f : Failure} (h : f.isOfSignature = true ∨ f.isOfThrottling = true) :
    f.isStale = false := by
  cases f with
  | noMatch | extraction => obtain h | h := h <;> cases h
  | _ => rfl

end Failure

/-- A failure is of a kind, but for an access outside of a text or a sequence. -/
def FailsIn (kind : Failure → Bool) (x : Except Failure α) : Prop :=
  Throws (fun f => f = .undefinedAccess ∨ kind f = true) x

namespace FailsIn
variable {kind : Failure → Bool} {x : Except Failure α}

theorem ok (a : α) : FailsIn kind (.ok a : Except Failure α) := Throws.ok a

theorem error {f : Failure} (h : kind f = true) : FailsIn kind (.error f : Except Failure α) :=
  Throws.error (.inr h)

theorem outside : FailsIn kind (.error .undefinedAccess : Except Failure α) := Throws.error (.inl rfl)

theorem defined (o : Option α) : FailsIn kind (defined o) := by
  cases o with
  | none => exact outside
  | some a => exact ok a

theorem bind {g : α → Except Failure β} (hx : FailsIn kind x) (hg : ∀ a, FailsIn kind (g a)) :
    FailsIn kind (x >>= g) := Throws.bind hx hg

theorem bind_of_ok {g : α → Except Failure β} (hx : FailsIn kind x)
    (hg : ∀ a, x = .ok a → FailsIn kind (g a)) : FailsIn kind (x >>= g) := by
  intro f hf
  obtain h | ⟨a, ha, h⟩ := bind_eq_error.1 hf
  · exact hx f h
  · exact hg a ha f h

theorem throws (h : FailsIn kind x) (hx : IsDefined x) : Throws (kind · = true) x :=
  fun f hf => (h f hf).resolve_left fun hu => hx (hu ▸ hf)

end FailsIn

abbrev Builds (x : Except Failure α) : Prop := FailsIn Failure.isOfBuilding x

theorem PatternSet.builds_firstMatch (s : PatternSet) (t : Text) : Builds (s.firstMatch t) := by
  obtain he | ⟨m, he⟩ := s.firstMatch_cases t
  · exact he ▸ .error rfl
  · exact he ▸ .ok m

namespace Literal

theorem builds_span (text : Text) (start : Nat) : Builds (span text start) := by
  rw [span]
  split
  · split
    · exact .error rfl
    · split
      · exact .error rfl
      · exact .ok _
  · exact .error rfl

theorem builds_covered (text : Text) (s : Span) : Builds (covered text s) := by
  rw [covered]
  split
  · exact .outside
  · exact .ok _

theorem builds_at? (text : Text) (start : Nat) : Builds (at? text start) :=
  (builds_span text start).bind fun s => builds_covered text s

theorem builds_inside (literal : Text) : Builds (inside literal) := by
  rw [inside]
  split
  · split
    · exact .outside
    · exact .ok _
  · exact .ok _

end Literal

namespace Definition

theorem builds_isPresent {script name : Text}
    (hr : finder .function name = .ok (functionDefinition name)) : Builds (isPresent script name) := by
  rw [isPresent, hr, ok_bind]
  exact .ok _

theorem builds_find {script name : Text} (hr : finder .function name = .ok (functionDefinition name)) :
    Builds (find script name) := by
  rw [find, hr, ok_bind]
  refine (PatternSet.builds_firstMatch _ script).bind fun head => ?_
  refine FailsIn.bind ?_ fun last => ?_
  · rw [lastOffset]
    split
    · exact .outside
    · exact .ok _
  refine (Literal.builds_span script last).bind fun body => ?_
  exact (Literal.builds_covered script _).bind fun whole =>
    (Literal.builds_covered script body).bind fun _ => .ok _

end Definition

namespace Elements

theorem builds_next (t : Text) : Builds (next t) := by
  rw [next]
  split
  · refine FailsIn.bind ?_ fun n => ?_
    · rw [functionLength]
      split
      · exact .error rfl
      · exact Throws.map _ (Literal.builds_span t _)
    · split
      · exact .ok _
      · exact .outside
  · split
    · exact .ok _
    · exact .ok _

theorem builds_collect (bound : Nat) (t : Text) : Builds (collect bound t) := by
  induction bound generalizing t with
  | zero =>
    rw [collect]
    split
    · exact .ok _
    · exact .outside
  | succ bound ih =>
    rw [collect]
    split
    · exact .ok _
    · exact (builds_next _).bind fun found => (ih found.2).bind fun _ => .ok _

theorem builds_ofLiteral (t : Text) : Builds (ofLiteral t) := by
  rw [ofLiteral.eq_def]
  split
  · exact builds_collect _ _
  · exact .error rfl

end Elements

/-- To build from the script it is searched for what it has under the name. -/
inductive LooksUp (script : Text) : Kind → Text → Prop
  | signature {m : Match} (h : signatureFunction.firstMatch script = .ok m) :
    LooksUp script .function m.text
  | object {call : Text} {calls : List Text} {m : Match}
    (hcalls : SignaturePlan.callsOf script = .ok (call :: calls))
    (h : transformObject.firstMatch call = .ok m) : LooksUp script .object m.text
  | candidate {m : Match} (h : throttlingFunction.firstMatch script = .ok m) :
    LooksUp script .function m.text
  | array {m : Match} (h : throttlingArray.firstMatch script = .ok m) : LooksUp script .array m.text
  | throttling {name : Text} (h : ThrottlingProgram.functionName script = .ok name) :
    LooksUp script .function name

def IsRoomy (script : Text) : Prop :=
  ∀ k name, LooksUp script k name → finder k name = .ok (k.set name)

namespace SignaturePlan

theorem builds_operationsOf (object : Text) : Builds (operationsOf object) := by
  rw [operationsOf]
  split
  · exact .error rfl
  · exact .ok _

theorem builds_ofScript {script : Text} (hroom : IsRoomy script) : Builds (ofScript script) := by
  refine (PatternSet.builds_firstMatch _ script).bind_of_ok fun name hname => ?_
  refine (Definition.builds_find (hroom _ _ (.signature hname))).bind_of_ok fun definition hdefinition => ?_
  refine (Literal.builds_inside definition.body.text).bind_of_ok fun inner hinner => ?_
  simp only
  split
  · exact .error rfl
  next hmany =>
    split
    · exact .outside
    next call calls hsome =>
      have hcalls : callsOf script = .ok (call :: calls) := by
        simp only [callsOf, hname, hdefinition, hinner, ok_bind, if_neg hmany, hsome]
        rfl
      refine (PatternSet.builds_firstMatch _ call).bind_of_ok fun object hobject => ?_
      rw [hroom _ _ (.object hcalls hobject), ok_bind]
      refine (PatternSet.builds_firstMatch _ script).bind fun opening => ?_
      refine (Literal.builds_at? script opening.span.start).bind fun literal => ?_
      refine (Literal.builds_inside literal.text).bind fun entries => ?_
      exact (builds_operationsOf entries).bind fun _ => .ok _

end SignaturePlan

namespace ThrottlingProgram

theorem builds_nameFromArray {script : Text} (hroom : IsRoomy script) :
    Builds (nameFromArray script) := by
  refine (PatternSet.builds_firstMatch _ script).bind_of_ok fun array harray => ?_
  split
  · exact .outside
  · simp only
    split
    · exact .error rfl
    · rw [hroom _ _ (.array harray), ok_bind]
      refine (PatternSet.builds_firstMatch _ script).bind fun opening => ?_
      refine (Literal.builds_at? script opening.span.start).bind fun literal => ?_
      refine (Elements.builds_ofLiteral literal.text).bind fun elements => ?_
      split
      · exact .error rfl
      · exact .ok _

theorem builds_functionName {script : Text} (hroom : IsRoomy script) :
    Builds (functionName script) := by
  rw [functionName]
  obtain he | ⟨name, he⟩ := throttlingFunction.firstMatch_cases script
  · rw [he]
    exact builds_nameFromArray hroom
  · rw [he]
    refine (Definition.builds_isPresent (hroom _ _ (.candidate he))).bind fun present => ?_
    split
    · exact .ok _
    · exact builds_nameFromArray hroom

theorem builds_indexOf (count : Nat) (m : Match) : Builds (indexOf count m) := by
  rw [indexOf]
  split
  · exact .error rfl
  · split
    · exact .ok _
    · exact .error rfl

theorem builds_stepOf (count : Nat) (h : Hit) : Builds (stepOf count h) := by
  rw [stepOf.eq_def]
  split
  · refine (builds_indexOf count _).bind fun operation => ?_
    refine (builds_indexOf count _).bind fun first => ?_
    split
    · exact .ok _
    · exact (builds_indexOf count _).bind fun _ => .ok _
  · exact .outside

theorem builds_stepsOf (block : Text) (count : Nat) : Builds (stepsOf block count) := by
  refine FailsIn.bind (Throws.mapM (builds_stepOf count) _) fun steps => ?_
  cases steps with
  | nil => exact .error rfl
  | cons s ss => exact .ok _

theorem builds_ofScript {script : Text} (hroom : IsRoomy script) : Builds (ofScript script) := by
  refine (builds_functionName hroom).bind_of_ok fun name hname => ?_
  refine (Definition.builds_find (hroom _ _ (.throttling hname))).bind fun definition => ?_
  simp only
  split
  · exact .error rfl
  · refine (Literal.builds_at? _ _).bind fun array => ?_
    refine (Elements.builds_ofLiteral array.text).bind fun elements => ?_
    split
    · exact .outside
    next after _ =>
      refine (PatternSet.builds_firstMatch _ after).bind fun opening => ?_
      refine (Literal.builds_at? after opening.span.start).bind fun block => ?_
      exact (builds_stepsOf block.text _).bind fun _ => .ok _

end ThrottlingProgram

namespace Cipher

theorem throws_ofScript {script : Text} (hroom : IsRoomy script) (settings : Settings) :
    Throws (·.isOfBuilding = true) (ofScript settings script) := by
  have hsignature := (SignaturePlan.builds_ofScript hroom).throws (SignaturePlan.isDefined_ofScript script)
  have hthrottling :=
    (ThrottlingProgram.builds_ofScript hroom).throws (ThrottlingProgram.isDefined_ofScript script)
  rw [ofScript]
  split
  · exact .error rfl
  · exact hsignature.bind fun _ => hthrottling.bind fun _ => .ok _

end Cipher

namespace SignaturePlan
variable {operations : OperationTable}

theorem failsIn_ofStatement (s : Text) : FailsIn Failure.isOfSignature (Call.ofStatement s) := by
  obtain ⟨f, -, hs⟩ | ⟨hit, name, -, ⟨fault, hs⟩ | ⟨n, hs⟩⟩ := ofStatement_cases s
  · exact hs ▸ .error rfl
  · exact hs ▸ .error rfl
  · exact hs ▸ .ok _

theorem failsIn_apply (op : Operation) (call : Unscramble.Call) (xs : List α) :
    FailsIn Failure.isOfSignature (apply op call xs) := by
  cases op with
  | reverse => exact .ok _
  | splice => exact .defined _
  | swap =>
    rw [apply]
    split
    · exact .error rfl
    · exact .defined _
  | unshift | push | prepend | nestedSplice | cipherDispatch => exact .error rfl

theorem failsIn_runStatement (xs : List α) (s : Text) :
    FailsIn Failure.isOfSignature (runStatement operations xs s) := by
  refine (failsIn_ofStatement s).bind fun call => ?_
  cases operations.find? call.name with
  | none => exact .error rfl
  | some op => exact failsIn_apply op call xs

theorem failsIn_runStatements (ss : List Text) (xs : List α) :
    FailsIn Failure.isOfSignature (runStatements operations ss xs) := by
  induction ss generalizing xs with
  | nil => exact .ok xs
  | cons s ss ih => exact (failsIn_runStatement xs s).bind ih

theorem throws_run (p : SignaturePlan) (input : Text) :
    Throws (·.isOfSignature = true) (p.run input) :=
  (failsIn_runStatements p.statements input).throws (isDefined_run p input)

end SignaturePlan

namespace ThrottlingProgram
variable {hold : Value → α}

theorem isOfThrottling_of_refuses {op : Operation} {f : Failure} (h : Refuses op f) :
    f.isOfThrottling = true := by
  cases h with
  | _ => rfl

theorem throws_runStep (hold : Value → α) (a : Arena α) (s : Step) :
    Throws (·.isOfThrottling = true) (runStep hold a s) := by
  obtain ⟨op, slot, argument, -, -, -, h⟩ | ⟨i, -, -, h⟩ | ⟨v, h⟩ | ⟨op, v, h⟩ := runStep_cases hold a s
  · exact h ▸ fun f hf => isOfThrottling_of_refuses (refuses_of_applyAt hf)
  · exact h ▸ .error rfl
  · exact h ▸ .error rfl
  · exact h ▸ .error rfl

theorem throws_runSteps (ss : List Step) (a : Arena α) :
    Throws (·.isOfThrottling = true) (runSteps hold ss a) := by
  induction ss generalizing a with
  | nil => exact .ok a
  | cons s ss ih => exact (throws_runStep hold a s).bind ih

theorem throws_join (vs : List Value) : Throws (·.isOfThrottling = true) (join vs) := by
  intro f hf
  obtain ⟨v, rfl⟩ := unjoinable_of_join hf
  rfl

theorem throws_run (p : ThrottlingProgram) (input : Text) :
    Throws (·.isOfThrottling = true) (p.run input) :=
  (throws_runSteps p.plan (start p.operands input)).bind fun a => throws_join a.input

end ThrottlingProgram

/-- A script fails to become a cipher for a reason of building, if there is room for the names that it
is searched for. In particular all expressions can be read, also those that a name is put into, whatever
the name. A cipher, however it was made, fails to run for other reasons, and no newer script is asked
for. -/
theorem Cipher.fails_by_stage :
    (∀ settings script, IsRoomy script →
      ∀ f, ofScript settings script = .error f → f.isOfBuilding = true) ∧
    (∀ k name, finder k name = (PatternSet.ofSources (k.written name).target (k.written name).group
        (k.written name).sources).map (fun _ => k.set name) ∧
      (name.byteLength ≤ 326900 → finder k name = .ok (k.set name))) ∧
    (∀ w ∈ Written.sets, ∃ s, w.CompilesTo s) ∧
    (∀ source ∈ Written.expressions, ∃ r, Written.IsReadAsExpression source.toList r) ∧
    (∀ name, (Written.functionDefinition name).IsReadAs (Catalogue.functionDefinition name) ∧
      (Written.objectLiteral name).IsReadAs (Catalogue.objectLiteral name) ∧
      (Written.arrayLiteral name).IsReadAs (Catalogue.arrayLiteral name)) ∧
    ∀ (c : Cipher) input f,
      (c.decipherSignature input = .error f → f.isOfSignature = true ∧ f.isStale = false) ∧
      (c.decipherThrottling input = .error f → f.isOfThrottling = true ∧ f.isStale = false) := by
  refine ⟨fun settings script hroom => throws_ofScript hroom settings, fun k name =>
    ⟨finder_eq k name, finder_of_le k⟩, Written.exists_compilesTo_sets,
    Written.exists_isReadAsExpression_expressions, fun name =>
    ⟨Written.isReadAs_functionDefinition name, Written.isReadAs_objectLiteral name,
      Written.isReadAs_arrayLiteral name⟩, fun c input f => ⟨fun h => ?_, fun h => ?_⟩⟩
  · have hf := c.signature.throws_run input f h
    exact ⟨hf, Failure.isStale_of_running (.inl hf)⟩
  · have hf := c.throttling.throws_run input f h
    exact ⟨hf, Failure.isStale_of_running (.inr hf)⟩

/-- Neither plan runs: what the one calls is unknown, and what the other calls is a number. -/
def unrunnable : Cipher := ⟨⟨[['x']], .ofList []⟩, ⟨[⟨0, 0, none⟩], [.integer 1]⟩⟩

def callsUndefined : Text := "c&&a.set(b,encodeURIComponent(N(c)))".toList

theorem isRoomy_callsUndefined : IsRoomy callsUndefined := by
  have hsignature : signatureFunction.firstMatch callsUndefined = .ok ⟨"N".toList, ⟨30, 31⟩⟩ := by
    decide +kernel
  have hcalls : SignaturePlan.callsOf callsUndefined = .error (.noMatch .functionDefinition) := by
    decide +kernel
  have hcandidate : throttlingFunction.firstMatch callsUndefined = .error (.noMatch .throttlingFunction) := by
    decide +kernel
  have harray : throttlingArray.firstMatch callsUndefined = .error (.noMatch .throttlingArray) := by
    decide +kernel
  have hname : ThrottlingProgram.functionName callsUndefined = .error (.noMatch .throttlingArray) := by
    decide +kernel
  intro k name h
  cases h with
  | signature h =>
    cases hsignature.symm.trans h
    exact finder_of_le .function (by decide)
  | object h => cases hcalls.symm.trans h
  | candidate h => cases hcandidate.symm.trans h
  | array h => cases harray.symm.trans h
  | throttling h => cases hname.symm.trans h

theorem unrunnable_fails :
    (IsRoomy callsUndefined ∧
      Cipher.ofScript .default callsUndefined = .error (.noMatch .functionDefinition) ∧
      (Failure.noMatch .functionDefinition).isOfBuilding = true) ∧
    finder .array ['a', '.'] = .ok (arrayLiteral ['a', '.']) ∧
    (∃ s, Written.tryBlock.CompilesTo s) ∧
    (∃ r, Written.IsReadAsExpression "case\\s\\d+".toList r) ∧
    (∃ s, (PatternSet.ofSources .arrayLiteral Catalogue.openGroup
        (Written.arrayLiteral ['a', '.']).sources = .ok s) ∧
      ∀ t, s.firstMatch t = (Catalogue.arrayLiteral ['a', '.']).firstMatch t) ∧
    (unrunnable.decipherSignature [] = .error (.unknownOperation ['x']) ∧
      (Failure.unknownOperation ['x']).isOfSignature = true ∧
      (Failure.unknownOperation ['x']).isStale = false) ∧
    (unrunnable.decipherThrottling [] = .error (.notCallable 0 (.integer 1)) ∧
      (Failure.notCallable 0 (.integer 1)).isOfThrottling = true ∧
      (Failure.notCallable 0 (.integer 1)).isStale = false) := by
  obtain ⟨hscript, hfinders, hsets, hexpressions, hnames, hruns⟩ := Cipher.fails_by_stage
  have hundefined : Cipher.ofScript .default callsUndefined = .error (.noMatch .functionDefinition) := by
    decide +kernel
  have hsignature : unrunnable.decipherSignature [] = .error (.unknownOperation ['x']) := by decide +kernel
  have hthrottling : unrunnable.decipherThrottling [] = .error (.notCallable 0 (.integer 1)) := by
    decide +kernel
  refine ⟨⟨isRoomy_callsUndefined, hundefined, hscript _ _ isRoomy_callsUndefined _ hundefined⟩,
    (hfinders .array _).2 (by decide), hsets _ (by simp [Written.sets]),
    hexpressions _ (by simp [Written.expressions]), ?_,
    ⟨hsignature, (hruns _ _ _).1 hsignature⟩, ⟨hthrottling, (hruns _ _ _).2 hthrottling⟩⟩
  obtain ⟨s, ⟨hs, hroom⟩, hfinds⟩ := (hnames ['a', '.']).2.2
  have hnamed := Kind.array.isNamed ['a', '.']
  obtain rfl := Except.ok.inj (hnamed.compiles.symm.trans hs)
  exact ⟨_, hroom (hnamed.forall_fits (by decide)), hfinds⟩

end Unscramble
