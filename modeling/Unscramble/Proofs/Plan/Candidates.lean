import Unscramble.Proofs.Pattern.Priority
import Unscramble.Proofs.Plan.EntryName

/-! The candidates for the function that a throttling script calls directly. The first expression that
matches gives the only one: if it is not defined, the array is asked next, and a later expression that
captures a name which is defined is not. -/
namespace Unscramble.ThrottlingProgram
open PatternSet (capture? firstMatch_of_earliest exists_firstMatch_of_earlier)
open Regex Catalogue
variable {script name : Text} {r : Regex} {before after : List Regex} {m : Match}

/-- At its leftmost match the expression captures the name of a function that the script defines. -/
def CapturesDefined (script : Text) (r : Regex) : Prop :=
  ∃ m, capture? nameGroup script r = some m ∧ Definition.isPresent script m.text = .ok true

instance : Decidable (CapturesDefined script r) :=
  decidable_of_iff (((capture? nameGroup script r).any
    fun m => Definition.isPresent script m.text = .ok true) = true) <| by
      simp only [CapturesDefined, Option.any_eq_true, decide_eq_true_eq]

/-- The expression is the first to capture a name that is defined: `m`, with `before` in front of it. -/
structure IsFirstDefined (script : Text) (before : List Regex) (r : Regex) (m : Match) : Prop where
  position : ∃ after, throttlingFunction.patterns = before ++ r :: after
  captures : capture? nameGroup script r = some m
  isPresent : Definition.isPresent script m.text = .ok true
  isFirst : ∀ r' ∈ before, ¬CapturesDefined script r'

theorem exists_isFirstDefined (h : ∃ r ∈ throttlingFunction.patterns, CapturesDefined script r) :
    ∃ before r m, IsFirstDefined script before r m := by
  cases hf : throttlingFunction.patterns.find? (CapturesDefined script ·) with
  | none =>
    obtain ⟨r, hr, hd⟩ := h
    exact absurd (decide_eq_true hd) (List.find?_eq_none.1 hf r hr)
  | some r =>
    obtain ⟨hr, before, after, hp, hb⟩ := List.find?_eq_some_iff_append.1 hf
    obtain ⟨m, hm, hd⟩ := of_decide_eq_true hr
    exact ⟨before, r, m, ⟨after, hp⟩, hm, hd, fun r' hr' => by simpa using hb r' hr'⟩

theorem nameFromArray_eq_ok_iff : nameFromArray script = .ok name ↔ IsHeld script name :=
  ⟨isHeld_of_nameFromArray, nameFromArray_of_isHeld⟩

namespace IsFirstDefined

theorem functionName_of_no_earlier (h : IsFirstDefined script before r m)
    (hs : ∀ r' ∈ before, r'.search? script = none) : functionName script = .ok m.text := by
  obtain ⟨after, hp⟩ := h.position
  have hfirst : throttlingFunction.firstMatch script = .ok m := firstMatch_of_earliest hp h.captures hs
  simp only [functionName, hfirst, h.isPresent, Outcome.ok_bind, if_true, Outcome.pure_eq]

theorem functionName_of_earlier (h : IsFirstDefined script before r m)
    (hs : ∃ r' ∈ before, r'.search? script ≠ none) :
    AsksArray script ∧ functionName script = nameFromArray script ∨
      ∃ m₁, throttlingFunction.firstMatch script = .ok m₁ ∧
        finder .function m₁.text = .error .badPattern ∧
          functionName script = .error .badPattern := by
  obtain ⟨after, hp⟩ := h.position
  obtain ⟨r', hr', hs⟩ := hs
  obtain ⟨r₁, hr₁, m₁, hm₁, hfirst⟩ :=
    exists_firstMatch_of_earlier (by decide) (by decide) hp hr' hs
  by_cases hasks : AsksArray script
  · exact .inl ⟨hasks, functionName_of_asksArray hasks⟩
  · obtain ⟨m₂, hm₂, ⟨hd, -⟩ | hlong⟩ := functionName_of_not_asksArray hasks
    · -- the expression that decides is one of those in front, so its candidate is not defined
      obtain rfl := Except.ok.inj (hfirst.symm.trans hm₂)
      exact absurd ⟨m₁, hm₁, hd⟩ (h.isFirst r₁ hr₁)
    · exact .inr ⟨m₂, hm₂, hlong⟩

end IsFirstDefined

/-- If an expression for a direct call captures a name that is defined, then one is the first to do
so. Its name is found if no expression in front of it matches. If one does, the array decides alone,
unless what that one captures is too long to be looked for: the name is found if and only if the array
is asked and it is the one that the array holds. -/
theorem functionName_by_priority (script : Text) :
    ((∃ r ∈ throttlingFunction.patterns, CapturesDefined script r) →
      ∃ before r m, IsFirstDefined script before r m) ∧
    ∀ before r m, IsFirstDefined script before r m →
      ((∀ r' ∈ before, r'.search? script = none) → functionName script = .ok m.text) ∧
      ((∃ r' ∈ before, r'.search? script ≠ none) →
        AsksArray script ∧ functionName script = nameFromArray script ∨
          ∃ m₁, throttlingFunction.firstMatch script = .ok m₁ ∧
            finder .function m₁.text = .error .badPattern ∧
              functionName script = .error .badPattern) ∧
      (functionName script = .ok m.text ↔
        (∀ r' ∈ before, r'.search? script = none) ∨ AsksArray script ∧ IsHeld script m.text) := by
  refine ⟨exists_isFirstDefined, fun before r m h => ?_⟩
  refine ⟨h.functionName_of_no_earlier, h.functionName_of_earlier, ?_⟩
  by_cases hs : ∀ r' ∈ before, r'.search? script = none
  · exact iff_of_true (h.functionName_of_no_earlier hs) (.inl hs)
  · have hearlier : ∃ r' ∈ before, r'.search? script ≠ none := by
      simpa only [not_forall, exists_prop] using hs
    rw [or_iff_right hs]
    obtain ⟨hasks, he⟩ | ⟨m₁, hm₁, hlong, he⟩ := h.functionName_of_earlier hearlier
    · rw [he, nameFromArray_eq_ok_iff, and_iff_right hasks]
    · refine iff_of_false (fun hname => ?_) fun hheld => ?_
      · cases he.symm.trans hname
      · cases hlong.symm.trans (finder_of_isPresent (hheld.1 m₁ hm₁))

def calledBeforeAlternation : Text :=
  "N=function(a)\x7b\x7d;a.D&&(b=a.get(\"n\"))&&(b=N(b),x||q)".toList

/-- The alternation is taken for the call. What it captures is not defined, and the call is not found. -/
theorem calledBeforeAlternation_unfound : ∃ before r m,
    IsFirstDefined calledBeforeAlternation before r m ∧ m.text = "N".toList ∧
    functionName calledBeforeAlternation = .error (.noMatch .throttlingArray) := by
  refine ⟨throttlingFunction.patterns.take 1, _, ⟨"N".toList, ⟨40, 41⟩⟩, ⟨⟨_, rfl⟩, ?_, ?_, ?_⟩, rfl, ?_⟩
  all_goals decide +kernel

def calledThroughArray : Text :=
  "var H=[M];M=function(a)\x7b\x7d;".toList ++ (calledBeforeAlternation ++ ";(c=H[0](c))".toList)

/-- Where the alternation matches, the element of the array is found. Where it does not, the call is. -/
theorem functionName_by_priority_samples :
    (∃ before r m, IsFirstDefined calledThroughArray before r m ∧ m.text = "N".toList ∧
      (∃ r' ∈ before, r'.search? calledThroughArray ≠ none) ∧ AsksArray calledThroughArray ∧
      functionName calledThroughArray = nameFromArray calledThroughArray ∧
      nameFromArray calledThroughArray = .ok "M".toList ∧ ¬IsHeld calledThroughArray m.text) ∧
    ∃ before r m, IsFirstDefined calledDirectly before r m ∧ m.text = "N".toList ∧ before ≠ [] ∧
      (∀ r' ∈ before, r'.search? calledDirectly = none) ∧
      functionName calledDirectly = .ok m.text := by
  constructor
  · have hfirst : ∃ r, IsFirstDefined calledThroughArray (throttlingFunction.patterns.take 1) r
        ⟨"N".toList, ⟨66, 67⟩⟩ := by
      refine ⟨_, ⟨_, rfl⟩, ?_, ?_, ?_⟩
      all_goals decide +kernel
    have hearlier : ∃ r' ∈ throttlingFunction.patterns.take 1,
        r'.search? calledThroughArray ≠ none := by decide +kernel
    have harray : nameFromArray calledThroughArray = .ok "M".toList := by decide +kernel
    obtain ⟨r, h⟩ := hfirst
    have hasks : AsksArray calledThroughArray := by decide +kernel
    obtain ⟨-, hname⟩ | ⟨m₁, hm₁, hlong, -⟩ :=
      ((functionName_by_priority calledThroughArray).2 _ _ _ h).2.1 hearlier
    · refine ⟨_, r, _, h, rfl, hearlier, hasks, hname, harray, fun hheld => ?_⟩
      cases harray.symm.trans (nameFromArray_eq_ok_iff.2 hheld)
    · cases hlong.symm.trans (finder_of_isPresent (hasks m₁ hm₁))
  · have hfirst : ∃ r, IsFirstDefined calledDirectly (throttlingFunction.patterns.take 1) r
        ⟨"N".toList, ⟨40, 41⟩⟩ := by
      refine ⟨_, ⟨_, rfl⟩, ?_, ?_, ?_⟩
      all_goals decide +kernel
    have hnone : ∀ r' ∈ throttlingFunction.patterns.take 1, r'.search? calledDirectly = none := by
      decide +kernel
    obtain ⟨r, h⟩ := hfirst
    exact ⟨_, r, _, h, rfl, by decide, hnone,
      ((functionName_by_priority calledDirectly).2 _ _ _ h).1 hnone⟩

end Unscramble.ThrottlingProgram
