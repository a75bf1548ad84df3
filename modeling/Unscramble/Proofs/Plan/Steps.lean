import Unscramble.Proofs.Plan.Calls

/-! The steps that the block of a throttling function has been written from are read back. -/
namespace Unscramble
open Regex Catalogue

def Step.ending : Option Nat → Text
  | none => ")".toList
  | some k => ",c[".toList ++ (Number.render k ++ ("]".toList ++ ")".toList))

def Step.text (s : Step) : Text :=
  "c[".toList ++ (Number.render s.operation ++ ("](c[".toList ++
    (Number.render s.first ++ ("]".toList ++ Step.ending s.second))))

def Step.written (s : Step) : WrittenStep :=
  ⟨Number.render s.operation, Number.render s.first, s.second.map Number.render⟩

def Step.indices (s : Step) : List Nat := s.operation :: s.first :: s.second.toList

/-- The step uses operands that there are, at indices that are words. -/
def Step.IsWithin (count : Nat) (s : Step) : Prop := ∀ i ∈ s.indices, i < count ∧ i ≤ Number.maxWord

instance (count : Nat) (s : Step) : Decidable (s.IsWithin count) :=
  inferInstanceAs (Decidable (∀ i ∈ s.indices, _))

namespace ThrottlingProgram
variable {count : Nat} {s : Step} {steps : List Step}

theorem indexOf_render {i : Nat} (h : i < count ∧ i ≤ Number.maxWord) (sp : Span) :
    indexOf count ⟨Number.render i, sp⟩ = .ok i := by
  simp only [indexOf, Number.read_render h.2, if_pos h.1]

theorem written_text (s : Step) : s.written.text = s.text := by
  obtain ⟨operation, first, second⟩ := s
  cases second <;> rfl

theorem written_isNumbered (s : Step) : s.written.IsNumbered := by
  obtain ⟨operation, first, second⟩ := s
  cases second <;> simp [WrittenStep.IsNumbered, WrittenStep.indices, Step.written, isRun_render]

theorem written_step (h : s.IsWithin count) : s.written.step count = .ok s := by
  obtain ⟨operation, first, second⟩ := s
  have hoperation := indexOf_render (h operation (.head _)) ⟨0, 0⟩
  have hfirst := indexOf_render (h first (.tail _ (.head _))) ⟨0, 0⟩
  cases second with
  | none =>
    simp only [WrittenStep.step, Step.written, hoperation, hfirst, Option.map_none, Outcome.ok_bind,
      Outcome.pure_eq]
  | some k =>
    have hsecond := indexOf_render (h k (.tail _ (.tail _ (.head _)))) ⟨0, 0⟩
    simp only [WrittenStep.step, Step.written, hoperation, hfirst, hsecond, Option.map_some,
      Outcome.ok_bind, Outcome.pure_eq]

theorem closed_text (s : Step) : Literal.Closed s.text := by
  have hnumber (i : Nat) : Literal.Closed (Literal.Context.bracket.enclose (Number.render i)) :=
    (isName_render i).closed.enclose (.inr rfl)
  have hc : Literal.Closed "c".toList := by decide
  have ho : Literal.Closed "(c".toList := by decide
  have hcomma : Literal.Closed ",c".toList := by decide
  have hclose : Literal.Closed ")".toList := by decide
  obtain ⟨operation, first, second⟩ := s
  have hfront := hc.append ((hnumber operation).append (ho.append (hnumber first)))
  cases second with
  | none => simpa [Step.text, Step.ending, Literal.Context.enclose, Literal.Context.opener,
      Literal.Context.closer] using hfront.append hclose
  | some k =>
    simpa [Step.text, Step.ending, Literal.Context.enclose, Literal.Context.opener,
      Literal.Context.closer] using hfront.append (hcomma.append ((hnumber k).append hclose))

theorem not_mem_text {c : Char} (hc : nameChar.contains c = false) (hm : c ∉ "[](),".toList)
    (s : Step) : c ∉ s.text := by
  have hm' : c ≠ '[' ∧ c ≠ ']' ∧ c ≠ '(' ∧ c ≠ ')' ∧ c ≠ ',' := by simpa using hm
  have hname : c ≠ 'c' := fun h => by rw [h] at hc; exact absurd hc (by decide)
  have hnumber (i : Nat) : c ∉ Number.render i := (isName_render i).not_mem hc
  obtain ⟨operation, first, second⟩ := s
  cases second <;> simp [Step.text, Step.ending, hnumber, hname, hm']

def blockFrom : Char → List Step → Text
  | _, [] => ['\x7d']
  | c, s :: ss => c :: (s.text ++ blockFrom ',' ss)

theorem enclose_eq_blockFrom (hne : steps ≠ []) :
    Literal.Context.brace.enclose ([','].intercalate (steps.map Step.text)) =
      blockFrom '\x7b' steps := by
  have hjoined (ss : List Step) (s : Step) : [','].intercalate ((s :: ss).map Step.text) ++ ['\x7d'] =
      s.text ++ blockFrom ',' ss := by
    induction ss generalizing s with
    | nil => simp [blockFrom]
    | cons s' ss ih =>
      rw [List.map_cons, List.map_cons, List.intercalate_cons_cons, ← List.map_cons,
        List.append_assoc, ih s']
      simp [blockFrom]
  cases steps with
  | nil => exact absurd rfl hne
  | cons s ss =>
    rw [Literal.Context.enclose, List.cons_append]
    exact congrArg _ (hjoined ss s)

theorem callsIn_blockFrom {c : Char} (hc : c ≠ 'c') (steps : List Step) :
    WrittenStep.callsIn (blockFrom c steps) = steps.map Step.written := by
  have hnone (t : Text) {c : Char} (hc : c ≠ 'c') :
      WrittenStep.callsIn (c :: t) = WrittenStep.callsIn t := by
    rw [WrittenStep.callsIn, WrittenStep.filterMap_tails_cons, WrittenStep.read?,
      WrittenStep.head?_of_ne hc]
    rfl
  induction steps generalizing c with
  | nil => exact hnone [] (by decide)
  | cons s ss ih =>
    rw [blockFrom, hnone _ hc, ← written_text, WrittenStep.callsIn_text (written_isNumbered s),
      ih (by decide), List.map_cons]

theorem mapM_written (hs : ∀ s ∈ steps, s.IsWithin count) :
    (steps.map Step.written).mapM (WrittenStep.step count) = .ok steps := by
  induction steps with
  | nil => rfl
  | cons s ss ih =>
    rw [List.map_cons, List.mapM_cons, written_step (hs s (.head ss)), Outcome.ok_bind,
      ih fun s' h => hs s' (.tail s h)]
    rfl

theorem stepsOf_enclose (hne : steps ≠ []) (hs : ∀ s ∈ steps, s.IsWithin count) :
    stepsOf (Literal.Context.brace.enclose ([','].intercalate (steps.map Step.text))) count =
      .ok steps := by
  rw [enclose_eq_blockFrom hne, WrittenStep.stepsOf_eq, callsIn_blockFrom (by decide),
    mapM_written hs, Outcome.ok_bind]
  cases steps with
  | nil => exact absurd rfl hne
  | cons s ss => rfl

end ThrottlingProgram
end Unscramble
