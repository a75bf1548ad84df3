import Unscramble.Proofs.Script.Commas

/-! What a reading for commas makes of a text: it passes over a string as a whole, brackets change
the depth, and only at depth zero a comma stops it. -/
namespace Unscramble.Commas
variable {c q : Char} {d : Nat} {s t x y : Text} {r : Reading}

def quotes : List Char := ['"', '\'']

def brackets : List (Char × Char) := [('(', ')'), ('[', ']'), ('\x7b', '\x7d')]

def openers : List Char := brackets.map (·.1)
def closers : List Char := brackets.map (·.2)

def IsOrdinary (c : Char) : Prop := c ∉ quotes ∧ c ∉ openers ∧ c ∉ closers

instance (c : Char) : Decidable (IsOrdinary c) := inferInstanceAs (Decidable (_ ∧ _))

/-- From depth `d` on the text comes to its end at depth zero and outside a string, and has no comma
at depth zero. A closer of any kind lowers the depth, but not below zero. -/
inductive Closes : Nat → Text → Prop
  | nil : Closes 0 []
  | opener {d : Nat} {c : Char} {x : Text} (hc : c ∈ openers) (hx : Closes (d + 1) x) : Closes d (c :: x)
  | closer {d : Nat} {c : Char} {x : Text} (hc : c ∈ closers) (hx : Closes (d - 1) x) : Closes d (c :: x)
  | string {d : Nat} {q : Char} {s x : Text} (hq : q ∈ quotes) (hs : Quoted q s) (hx : Closes d x) :
    Closes d (q :: (s ++ q :: x))
  | ordinary {d : Nat} {c : Char} {x : Text} (hc : IsOrdinary c) (hd : c = ',' → d ≠ 0)
    (hx : Closes d x) : Closes d (c :: x)

theorem step_quote (hq : q ∈ quotes) : (⟨d, .none⟩ : Reading).step q = ⟨d, .within q⟩ := by
  obtain rfl | rfl : q = '"' ∨ q = '\'' := by simpa [quotes] using hq
  all_goals rfl

theorem step_opener (hc : c ∈ openers) : (⟨d, .none⟩ : Reading).step c = ⟨d + 1, .none⟩ := by
  obtain rfl | rfl | rfl : c = '(' ∨ c = '[' ∨ c = '\x7b' := by simpa [openers, brackets] using hc
  all_goals rfl

theorem step_closer (hc : c ∈ closers) : (⟨d, .none⟩ : Reading).step c = ⟨d - 1, .none⟩ := by
  obtain rfl | rfl | rfl : c = ')' ∨ c = ']' ∨ c = '\x7d' := by simpa [closers, brackets] using hc
  all_goals rfl

theorem step_ordinary (hc : IsOrdinary c) : (⟨d, .none⟩ : Reading).step c = ⟨d, .none⟩ := by
  simp only [IsOrdinary, quotes, openers, closers, brackets, List.map_cons, List.map_nil,
    List.mem_cons, List.not_mem_nil, or_false, not_or] at hc
  simp [Reading.step, hc]

theorem cutsAt_none : (⟨d, .none⟩ : Reading).cutsAt c = false ↔ (c = ',' → d ≠ 0) := by
  simp only [Reading.cutsAt, Reading.start, Bool.and_eq_false_iff, beq_eq_false_iff_ne, ne_eq,
    Reading.mk.injEq, and_true]
  tauto

theorem through_mark (hc : c ∈ quotes ++ openers ++ closers) (t : Text) :
    through ⟨d, .none⟩ (c :: t) = through ((⟨d, .none⟩ : Reading).step c) t := by
  refine through_cons (cutsAt_none.2 ?_) t
  rintro rfl
  exact absurd hc (by decide)

theorem ne_backslash_of_mem (hq : q ∈ quotes) : q ≠ '\\' := by
  rintro rfl
  exact absurd hq (by decide)

theorem through_of_closes (h : Closes d x) : through ⟨d, .none⟩ x = some .start := by
  induction h with
  | nil => rfl
  | opener hc _ ih => rw [through_mark (by simp [hc]), step_opener hc, ih]
  | closer hc _ ih => rw [through_mark (by simp [hc]), step_closer hc, ih]
  | string hq hs _ ih =>
    rw [through_mark (by simp [hq]), step_quote hq, through_quoted (ne_backslash_of_mem hq) hs, ih]
  | ordinary hc hd _ ih => rw [through_cons (cutsAt_none.2 hd), step_ordinary hc, ih]

/-- What is read from inside a string: the rest of the string, and what closes from there. -/
def ClosesWithin (q : Char) (d : Nat) (x : Text) : Prop :=
  ∃ s y, x = s ++ q :: y ∧ Quoted q s ∧ Closes d y

def Reading.Closes : Reading → Text → Prop
  | ⟨d, .none⟩, x => Commas.Closes d x
  | ⟨d, .within q⟩, x => ClosesWithin q d x
  | ⟨d, .escaped q⟩, x => ∃ c y, x = c :: y ∧ ClosesWithin q d y

theorem closes_cons (hcut : c = ',' → d ≠ 0) (h : ((⟨d, .none⟩ : Reading).step c).Closes x) :
    Closes d (c :: x) := by
  by_cases hq : c ∈ quotes
  · rw [step_quote hq] at h
    obtain ⟨s, y, rfl, hs, hy⟩ := h
    exact .string hq hs hy
  by_cases ho : c ∈ openers
  · rw [step_opener ho] at h
    exact .opener ho h
  by_cases hc : c ∈ closers
  · rw [step_closer hc] at h
    exact .closer hc h
  · have hplain : IsOrdinary c := ⟨hq, ho, hc⟩
    rw [step_ordinary hplain] at h
    exact .ordinary hplain hcut h

theorem closesWithin_cons (h : ((⟨d, .within q⟩ : Reading).step c).Closes x) :
    ClosesWithin q d (c :: x) := by
  by_cases hb : c = '\\'
  · subst hb
    obtain ⟨e, y, rfl, s, z, rfl, hs, hz⟩ := h
    exact ⟨'\\' :: e :: s, z, rfl, .escaped e hs, hz⟩
  · rw [step_within hb] at h
    by_cases hq : c = q
    · subst hq
      rw [if_pos rfl] at h
      exact ⟨[], x, rfl, .nil, h⟩
    · rw [if_neg hq] at h
      obtain ⟨s, z, rfl, hs, hz⟩ := h
      exact ⟨c :: s, z, rfl, .plain hq hb hs, hz⟩

/-- The invariant of the reading, whatever it is inside of. -/
theorem closes_of_through (h : through r x = some .start) : r.Closes x := by
  induction x generalizing r with
  | nil =>
    obtain rfl := Option.some.inj h
    exact Closes.nil
  | cons c x ih =>
    rw [through] at h
    split at h
    · cases h
    next hcut =>
      have hx := ih h
      obtain ⟨d, _ | q | q⟩ := r
      · exact closes_cons (cutsAt_none.1 (Bool.eq_false_iff.2 hcut)) hx
      · exact closesWithin_cons hx
      · exact ⟨c, x, rfl, hx⟩

theorem closes_iff : Closes d x ↔ through ⟨d, .none⟩ x = some .start :=
  ⟨through_of_closes, closes_of_through (r := ⟨d, .none⟩)⟩

instance (d : Nat) (x : Text) : Decidable (Closes d x) := decidable_of_iff _ closes_iff.symm

theorem whole_iff : Whole x ↔ Closes 0 x := closes_iff.symm

end Unscramble.Commas
