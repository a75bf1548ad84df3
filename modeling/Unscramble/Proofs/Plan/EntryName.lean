import Unscramble.Proofs.Outcome
import Unscramble.Proofs.Pattern.Room
import Unscramble.Proofs.Regex.Inside
import Unscramble.Plan.ThrottlingScript

/-! The name of the entry function of a throttling script. What is called directly counts only if it
is defined, and is a word. What is called through an array is the text of an element, whatever it is;
no program is built if nothing of that name is defined. -/
namespace Unscramble.ThrottlingProgram
open Outcome Regex Catalogue
variable {script name : Text} {m : Match}

/-- The script calls nothing directly, or what it does not define. -/
def AsksArray (script : Text) : Prop :=
  ∀ m, throttlingFunction.firstMatch script = .ok m → Definition.isPresent script m.text = .ok false

instance (script : Text) : Decidable (AsksArray script) :=
  decidable_of_iff (((throttlingFunction.firstMatch script).toOption.all
    fun m => Definition.isPresent script m.text = .ok false) = true) <| by
      unfold AsksArray
      cases throttlingFunction.firstMatch script <;> simp [Except.toOption]

def leadingIndex? (after : Text) : Option Nat := do
  let m ← (← indexSuffix.search? after).group? indexGroup
  (Number.read Number.maxWord m.text).toOption

/-- The text is the element of an array through which the script calls its entry function. -/
def IsHeld (script name : Text) : Prop :=
  ∃ array after index opening literal elements,
    throttlingArray.firstMatch script = .ok array ∧
    script.dropBytes? array.span.stop = some after ∧ leadingIndex? after = some index ∧
    finder .array array.text = .ok (arrayLiteral array.text) ∧
    (arrayLiteral array.text).firstMatch script = .ok opening ∧
    Literal.at? script opening.span.start = .ok literal ∧
    Elements.ofLiteral literal.text = .ok elements ∧ elements[index]? = some name

theorem isHeld_of_nameFromArray (h : nameFromArray script = .ok name) : IsHeld script name := by
  obtain ⟨array, harray, h⟩ := bind_eq_ok.1 h
  split at h
  · cases h
  next after hafter =>
    simp only at h
    split at h
    · cases h
    next index hindex =>
      obtain ⟨hfinder, h⟩ := bind_finder_eq_ok.1 h
      obtain ⟨opening, hopening, h⟩ := bind_eq_ok.1 h
      obtain ⟨literal, hliteral, h⟩ := bind_eq_ok.1 h
      obtain ⟨elements, helements, h⟩ := bind_eq_ok.1 h
      split at h
      · cases h
      next element helement =>
        obtain rfl := Except.ok.inj h
        exact ⟨array, after, index, opening, literal, elements, harray, hafter, hindex, hfinder,
          hopening, hliteral, helements, helement⟩

theorem nameFromArray_of_isHeld (h : IsHeld script name) : nameFromArray script = .ok name := by
  obtain ⟨array, after, index, opening, literal, elements, harray, hafter, hindex, hfinder,
    hopening, hliteral, helements, helement⟩ := h
  unfold leadingIndex? at hindex
  simp only [nameFromArray, harray, ok_bind, hafter, hindex, hfinder, hopening, hliteral, helements,
    helement]
  rfl

theorem isName_of_throttlingFunction (h : throttlingFunction.firstMatch script = .ok m) :
    IsName m.text := by
  obtain ⟨-, r, hr, inner, hinner, hspells⟩ := PatternSet.isSlice_of_firstMatch (by decide) h
  have hgroups : ∀ r ∈ throttlingFunction.patterns, r.groups = [(.named nameGroup, identifier)] := by
    decide
  rw [hgroups r hr] at hinner
  obtain ⟨-, rfl⟩ := Prod.mk.inj (List.mem_singleton.1 hinner)
  exact isName_of_spells hspells

theorem functionName_of_asksArray (h : AsksArray script) :
    functionName script = nameFromArray script := by
  rw [functionName]
  obtain he | ⟨m, hm⟩ := throttlingFunction.firstMatch_cases script
  · rw [he]
  · simp only [hm, h m hm, ok_bind, Bool.false_eq_true, if_false]

theorem functionName_of_not_asksArray (h : ¬AsksArray script) : ∃ m,
    throttlingFunction.firstMatch script = .ok m ∧
      (Definition.isPresent script m.text = .ok true ∧ functionName script = .ok m.text ∨
        finder .function m.text = .error .badPattern ∧ functionName script = .error .badPattern) := by
  obtain ⟨m, hm, hp⟩ : ∃ m, throttlingFunction.firstMatch script = .ok m ∧
      Definition.isPresent script m.text ≠ .ok false := by
    simpa only [AsksArray, not_forall, exists_prop] using h
  refine ⟨m, hm, ?_⟩
  obtain hr | hr := finder_cases .function m.text
  · have hpresent : Definition.isPresent script m.text = .ok true := by
      simp only [Definition.isPresent, hr, ok_bind, pure_eq] at hp ⊢
      simpa using hp
    exact .inl ⟨hpresent, by simp only [functionName, hm, hpresent, ok_bind, if_true, pure_eq]⟩
  · exact .inr ⟨hr, by simp only [functionName, hm, Definition.isPresent, hr, error_bind]⟩

theorem finder_of_isPresent {b : Bool} (h : Definition.isPresent script name = .ok b) :
    finder .function name = .ok (functionDefinition name) := (bind_finder_eq_ok.1 h).1

theorem find_of_isPresent_eq_false (h : Definition.isPresent script name = .ok false) :
    Definition.find script name = .error (.noMatch .functionDefinition) := by
  obtain ⟨hr, h⟩ := bind_finder_eq_ok.1 h
  rw [Kind.set] at hr h
  obtain he | ⟨m, hm⟩ := (functionDefinition name).firstMatch_cases script
  · rw [Definition.find, hr, ok_bind, he]
    rfl
  · rw [hm] at h
    cases h

theorem find_of_isPresent_eq_error {f : Failure} (h : Definition.isPresent script name = .error f) :
    Definition.find script name = .error f := by
  obtain h | ⟨s, -, h⟩ := bind_eq_error.1 h
  · rw [Definition.find, h, error_bind]
  · cases h

/-- The name of the entry function is that of a defined function, if and only if the array that it
is called through holds such a name whenever it is asked. No program is built with a name that is
not defined. -/
theorem functionName_isDefined_iff (script : Text) :
    ((∀ name, functionName script = .ok name →
        IsName name ∧ Definition.isPresent script name = .ok true) ↔
      (AsksArray script → ∀ name, IsHeld script name →
        IsName name ∧ Definition.isPresent script name = .ok true)) ∧
    ∀ name, functionName script = .ok name →
      (Definition.isPresent script name = .ok false →
        ofScript script = .error (.noMatch .functionDefinition)) ∧
      ∀ f, Definition.isPresent script name = .error f → ofScript script = .error f := by
  refine ⟨⟨fun h hasks name hheld => h name ?_, fun h name hname => ?_⟩,
    fun name hname => ⟨fun hp => ?_, fun f hp => ?_⟩⟩
  · rw [functionName_of_asksArray hasks, nameFromArray_of_isHeld hheld]
  · by_cases hasks : AsksArray script
    · rw [functionName_of_asksArray hasks] at hname
      exact h hasks name (isHeld_of_nameFromArray hname)
    · obtain ⟨m, hm, ⟨hp, he⟩ | ⟨-, he⟩⟩ := functionName_of_not_asksArray hasks
      · obtain rfl := Except.ok.inj (he.symm.trans hname)
        exact ⟨isName_of_throttlingFunction hm, hp⟩
      · cases he.symm.trans hname
  · rw [ofScript, hname, ok_bind, find_of_isPresent_eq_false hp, error_bind]
  · rw [ofScript, hname, ok_bind, find_of_isPresent_eq_error hp, error_bind]

def heldExpression : Text := "var H=[x.y];a.D&&(b=a.get(\"n\"))&&(b=H[0](b))".toList

/-- The element is taken for the name of a function, which the script does not define. -/
theorem heldExpression_undefined : functionName heldExpression = .ok "x.y".toList ∧
    ¬IsName "x.y".toList ∧ Definition.isPresent heldExpression "x.y".toList = .ok false := by
  have hname : functionName heldExpression = .ok "x.y".toList := by decide +kernel
  have hpresent : Definition.isPresent heldExpression "x.y".toList = .ok false := by decide +kernel
  exact ⟨hname, by decide, hpresent⟩

def calledDirectly : Text := "N=function(a)\x7b\x7d;a.D&&(b=a.get(\"n\"))&&(b=N(b))".toList

theorem functionName_isDefined_samples :
    (∀ name, functionName calledDirectly = .ok name →
      IsName name ∧ Definition.isPresent calledDirectly name = .ok true) ∧
    functionName calledDirectly = .ok "N".toList ∧ AsksArray heldExpression ∧
    functionName heldExpression = .ok "x.y".toList ∧
    ofScript heldExpression = .error (.noMatch .functionDefinition) := by
  have hdirect : ¬AsksArray calledDirectly := by decide +kernel
  have hname : functionName heldExpression = .ok "x.y".toList := by decide +kernel
  exact ⟨(functionName_isDefined_iff calledDirectly).1.2 fun hasks => absurd hasks hdirect,
    by decide +kernel, by decide +kernel, hname,
    ((functionName_isDefined_iff heldExpression).2 _ hname).1 (by decide +kernel)⟩

end Unscramble.ThrottlingProgram
