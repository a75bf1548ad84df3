import Unscramble.Regex.Search

/-! Expressions that are put together in different ways and still make the same search. -/
namespace Unscramble.Regex
variable {a b r s : Regex} {ss us : List Regex} {c d : CharClass}

/-- The same is done in the same order, at points of the same numbers. -/
def Alike (r s : Regex) : Prop := ∀ bound n, matcher bound r n = matcher bound s n

namespace Alike

theorem refl (r : Regex) : Alike r r := fun _ _ => rfl

theorem symm (h : Alike r s) : Alike s r := fun bound n => (h bound n).symm

theorem trans {t : Regex} (h : Alike r s) (h' : Alike s t) : Alike r t :=
  fun bound n => (h bound n).trans (h' bound n)

theorem search?_eq (h : Alike r s) (t : Text) : r.search? t = s.search? t := by
  rw [search?, search?, searchAt, searchAt, h]

theorem seq (ha : Alike a r) (hb : Alike b s) : Alike (.seq a b) (.seq r s) := by
  intro bound n
  rw [matcher, matcher, ha]
  simp only [hb bound]

theorem alt (ha : Alike a r) (hb : Alike b s) : Alike (.alt a b) (.alt r s) := by
  intro bound n
  rw [matcher, matcher, ha]
  simp only [hb bound]

theorem group (key : GroupKey) (h : Alike r s) : Alike (.group key r) (.group key s) := by
  intro bound n
  rw [matcher, matcher, h]

theorem sequence_cons (r : Regex) (rs : List Regex) :
    Alike (sequence (r :: rs)) (.seq r (sequence rs)) := by
  cases rs with
  | nil => exact fun _ _ => rfl
  | cons s rs => exact refl _

theorem flatten (rs ss : List Regex) :
    Alike (sequence (rs ++ ss)) (.seq (sequence rs) (sequence ss)) := by
  induction rs with
  | nil => exact fun _ _ => rfl
  | cons r rs ih =>
    refine (sequence_cons r (rs ++ ss)).trans (((refl r).seq ih).trans ?_)
    exact ((sequence_cons r rs).seq (refl _)).symm

theorem nest (h : Alike (sequence us) (sequence ss)) (rs : List Regex) :
    Alike (sequence (rs ++ us)) (sequence (sequence rs :: ss)) :=
  (flatten rs us).trans (((refl _).seq h).trans (sequence_cons _ _).symm)

end Alike

theorem one_congr (h : c.contains = d.contains) : one c = one d := by
  funext k s passed
  rw [one, one, h]

theorem walk_congr (h : c.contains = d.contains) (point : Nat) (t : Text) (s : State)
    (ends : List State) (passed : Passed) :
    walk point c s ends passed t = walk point d s ends passed t := by
  induction t generalizing s ends passed with
  | nil => rfl
  | cons e t ih => simp only [walk, h, ih]

theorem lazyWalk_congr (h : c.contains = d.contains) (point : Nat) (k : Rest) (t : Text) (s : State)
    (passed : Passed) : lazyWalk point c k s passed t = lazyWalk point d k s passed t := by
  induction t generalizing s passed with
  | nil => rfl
  | cons e t ih => simp only [lazyWalk, h, ih]

theorem charTurns_congr (h : c.contains = d.contains) (point : Nat) (eager : Bool) :
    charTurns point eager c = charTurns point eager d := by
  funext k s passed
  simp only [charTurns, walk_congr h, lazyWalk_congr h]

namespace Alike

theorem char (h : c.contains = d.contains) : Alike (.char c) (.char d) := by
  intro bound n
  rw [matcher, matcher, one_congr h]

theorem repeated (eager : Bool) (k : Times) (h : c.contains = d.contains) :
    Alike (.repeated eager k (.char c)) (.repeated eager k (.char d)) := by
  intro bound n
  have hmatcher : matcher bound (.char c) = matcher bound (.char d) := funext (char h bound)
  rw [matcher, matcher, hmatcher]
  obtain ⟨least, most⟩ := k
  cases most with
  | none =>
    cases least with
    | zero => simp only [turns, anyTurns, charTurns_congr h]
    | succ least => simp only [turns, someTurns, charTurns_congr h, one_congr h]
  | some most => rw [turns.eq_3, turns.eq_3]

end Alike
end Unscramble.Regex
