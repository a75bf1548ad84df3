import Unscramble.Proofs.Regex.Hit
import Unscramble.Proofs.Text.Wildcard

/-! Texts inside which no text of given classes begins, whatever follows them. -/
namespace Unscramble
open Text

def CharClass.meetsWord : CharClass → Bool
  | range lo hi => lo != hi || isWord lo
  | blank => false
  | either a b => a.meetsWord || b.meetsWord
  | within _ | digit | word | except _ => true

def CharClass.mayContain (k : CharClass) (f : Char) : Bool :=
  if f = '_' then k.meetsWord else k.contains f

namespace CharClass
variable {k : CharClass} {f c : Char}

theorem meetsWord_of_contains (hc : k.contains c = true) (hw : isWord c = true) :
    k.meetsWord = true := by
  induction k with
  | range lo hi =>
    simp only [contains, Bool.and_eq_true, decide_eq_true_eq] at hc
    by_cases h : lo = hi
    · subst h
      rw [Char.le_antisymm hc.2 hc.1] at hw
      simp [meetsWord, hw]
    · simp [meetsWord, h]
  | blank =>
    rw [isWord_of_isBlank hc] at hw
    cases hw
  | either a b iha ihb =>
    rw [contains, Bool.or_eq_true] at hc
    rw [meetsWord, Bool.or_eq_true]
    exact hc.imp iha ihb
  | _ => rfl

theorem mayContain_of_stands (h : Stands f c) (hc : k.contains c = true) :
    k.mayContain f = true := by
  unfold Stands at h
  unfold mayContain
  split
  next hf =>
    rw [if_pos hf] at h
    exact meetsWord_of_contains hc h
  next hf =>
    rw [if_neg hf] at h
    exact h ▸ hc

end CharClass

variable {allows : CharClass → Char → Bool} {ks : List CharClass} {f x y z w : Text}

def begins (allows : CharClass → Char → Bool) : List CharClass → Text → Bool
  | [], _ | _, [] => true
  | k :: ks, c :: t => allows k c && begins allows ks t

def avoids (allows : CharClass → Char → Bool) (ks : List CharClass) : Text → Bool
  | [] => true
  | c :: t => !begins allows ks (c :: t) && avoids allows ks t

/-- Characters of the classes `ks` in a row do not begin in `x`, not even to go on behind it. -/
def Avoids (ks : List CharClass) (x : Text) : Prop := avoids CharClass.contains ks x = true

instance (ks : List CharClass) (x : Text) : Decidable (Avoids ks x) :=
  inferInstanceAs (Decidable (_ = _))

theorem begins_append (h : begins allows ks (x ++ y) = true) : begins allows ks x = true := by
  induction x generalizing ks with
  | nil => cases ks <;> rfl
  | cons c x ih =>
    cases ks with
    | nil => rfl
    | cons k ks =>
      simp only [List.cons_append, begins, Bool.and_eq_true] at h ⊢
      exact ⟨h.1, ih h.2⟩

theorem Avoids.append (hx : Avoids ks x) (hy : Avoids ks y) : Avoids ks (x ++ y) := by
  induction x with
  | nil => exact hy
  | cons c x ih =>
    simp only [Avoids, avoids, Bool.and_eq_true, Bool.not_eq_true', Bool.eq_false_iff,
      List.cons_append] at hx ih ⊢
    refine ⟨fun h => hx.1 ?_, ih hx.2⟩
    rw [← List.cons_append] at h
    exact begins_append h

theorem avoids_of_forall {k : CharClass} (h : ∀ c ∈ x, k.contains c = false) :
    Avoids (k :: ks) x := by
  induction x with
  | nil => rfl
  | cons c x ih =>
    simp only [Avoids, avoids, begins, h c (.head x), Bool.false_and, Bool.not_false, Bool.true_and]
    exact ih fun d hd => h d (.tail c hd)

theorem avoids_of_not_mem {c : Char} (h : c ∉ x) : Avoids (.single c :: ks) x :=
  avoids_of_forall fun _ hd => Bool.eq_false_iff.2 fun hs => h (Regex.contains_single.1 hs ▸ hd)

/-- What begins with the classes begins behind a text that avoids them. -/
theorem Avoids.prefix_of_begins (hx : Avoids ks x) (he : y ++ z = x ++ w)
    (hz : begins CharClass.contains ks z = true) : x <+: y := by
  induction x generalizing y with
  | nil => exact List.nil_prefix
  | cons c x ih =>
    simp only [Avoids, avoids, Bool.and_eq_true, Bool.not_eq_true', Bool.eq_false_iff] at hx
    cases y with
    | nil =>
      rw [List.nil_append] at he
      rw [he] at hz
      exact absurd (begins_append hz) hx.1
    | cons d y =>
      obtain ⟨rfl, he'⟩ := List.cons.inj he
      exact List.cons_prefix_cons.2 ⟨rfl, ih hx.2 he'⟩

theorem begins_of_fits (h : Fits f x) (hb : begins CharClass.contains ks x = true) :
    begins CharClass.mayContain ks f = true := by
  induction h generalizing ks with
  | nil => cases ks <;> rfl
  | cons hs _ ih =>
    cases ks with
    | nil => rfl
    | cons k ks =>
      simp only [begins, Bool.and_eq_true] at hb ⊢
      exact ⟨CharClass.mayContain_of_stands hs hb.1, ih hb.2⟩

/-- What a form avoids, its texts avoid. -/
theorem Avoids.of_fits (h : Fits f x) (hf : avoids CharClass.mayContain ks f = true) :
    Avoids ks x := by
  induction h with
  | nil => rfl
  | cons hs ht ih =>
    simp only [Avoids, avoids, Bool.and_eq_true, Bool.not_eq_true', Bool.eq_false_iff] at hf ih ⊢
    exact ⟨fun hb => hf.1 (begins_of_fits (.cons hs ht) hb), ih hf.2⟩

def classesOf (t : Text) : List CharClass := t.map .single

def functionAssigned : List CharClass := classesOf "=fu".toList

def spacedAssignment : List CharClass := [.single '=', .blank]

def lookUp : Text := ".get(\"n\"))".toList

theorem avoids_lookUp_of_not_mem (h : '.' ∉ x) : Avoids (classesOf lookUp) x := avoids_of_not_mem h

theorem begins_classesOf (t v : Text) : begins CharClass.contains (classesOf t) (t ++ v) = true := by
  induction t with
  | nil => cases v <;> rfl
  | cons c t ih =>
    simp only [classesOf, List.map_cons, List.cons_append, begins, Bool.and_eq_true]
    exact ⟨Regex.contains_single.2 rfl, ih⟩

end Unscramble
