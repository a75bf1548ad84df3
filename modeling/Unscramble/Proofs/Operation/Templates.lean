import Mathlib.Data.List.Basic
import Unscramble.Operation.Shape
import Unscramble.Proofs.Regex.Hit

/-! The shapes of operations as templates: an operation is recognised by a search of the text for them. -/
namespace Unscramble
open Text

inductive Sign where
  | fixed (c : Char)
  | word | blank | digits
  deriving DecidableEq, Repr

/-- What a sign stands for: itself, one word character, one blank, or decimal digits. -/
def Sign.Means : Sign → Text → Prop
  | fixed c, z => z = [c]
  | word, z => ∃ d, isWord d = true ∧ z = [d]
  | blank, z => ∃ d, isBlank d = true ∧ z = [d]
  | digits, z => z ≠ [] ∧ ∀ d ∈ z, isDigit d = true

abbrev Template := List Sign

namespace Template
variable {v w : Template} {s : Sign} {z : Text}

/-- The template of a form, with a variable where it has `_`. -/
def ofForm (f : Text) : Template := f.map fun c => if c = '_' then .word else .fixed c

def ofString (s : String) : Template := ofForm s.toList

def IsInstance : Template → Text → Prop
  | [], z => z = []
  | s :: v, z => ∃ x y, z = x ++ y ∧ s.Means x ∧ IsInstance v y

theorem isInstance_singleton : IsInstance [s] z ↔ s.Means z := by
  constructor
  · rintro ⟨x, _, rfl, hx, rfl⟩
    rwa [List.append_nil]
  · intro h
    exact ⟨z, [], (List.append_nil z).symm, h, rfl⟩

theorem isInstance_append :
    IsInstance (v ++ w) z ↔ ∃ x y, z = x ++ y ∧ IsInstance v x ∧ IsInstance w y := by
  induction v generalizing z with
  | nil =>
    constructor
    · intro h
      exact ⟨[], z, rfl, rfl, h⟩
    · rintro ⟨_, y, rfl, rfl, h⟩
      exact h
  | cons s v ih =>
    constructor
    · rintro ⟨x, y, rfl, hx, hy⟩
      obtain ⟨y, y', rfl, hv, hw⟩ := ih.1 hy
      exact ⟨x ++ y, y', (List.append_assoc ..).symm, ⟨x, y, rfl, hx, hv⟩, hw⟩
    · rintro ⟨_, y', rfl, ⟨x, y, rfl, hx, hv⟩, hw⟩
      exact ⟨x, y ++ y', List.append_assoc .., hx, ih.2 ⟨y, y', rfl, hv, hw⟩⟩

end Template

namespace Regex
variable {r : Regex} {k : CharClass} {s : Sign} {vs : List Template} {z : Text}

def sign? : CharClass → Option Sign
  | .word => some .word
  | .blank => some .blank
  | k => k.single?.map .fixed

/-- One of the templates must be met, if the expression asks for signs in a row, some of which may be
left out. -/
def templates? : Regex → Option (List Template)
  | empty => some [[]]
  | char k => (sign? k).map fun s => [[s]]
  | seq a b => do
    let vs ← a.templates?
    let ws ← b.templates?
    return vs.flatMap fun v => ws.map (v ++ ·)
  | repeated _ ⟨0, some 1⟩ r => r.templates?.map ([] :: ·)
  | repeated _ ⟨1, none⟩ (char .digit) => some [[.digits]]
  | _ => none

theorem means_of_sign? (h : sign? k = some s) : s.Means z ↔ ∃ d, k.contains d = true ∧ z = [d] := by
  cases k with
  | word | blank =>
    obtain rfl := Option.some.inj h
    exact Iff.rfl
  | range lo hi =>
    obtain ⟨c, hc, rfl⟩ := Option.map_eq_some_iff.1 h
    rw [CharClass.single?] at hc
    split at hc
    next heq =>
      obtain rfl := Option.some.inj hc
      obtain rfl := heq
      constructor
      · intro hz
        exact ⟨lo, contains_single.2 rfl, hz⟩
      · rintro ⟨d, hd, rfl⟩
        rw [contains_single.1 hd]
        rfl
    · cases hc
  | _ => cases h

theorem spells_iff_templates (h : r.templates? = some vs) :
    Spells r z ↔ ∃ v ∈ vs, v.IsInstance z := by
  fun_induction templates? r generalizing vs z with
  | case1 =>
    obtain rfl := Option.some.inj h
    simp only [List.mem_singleton, exists_eq_left]
    exact Iff.rfl
  | case2 k =>
    obtain ⟨s, hs, rfl⟩ := Option.map_eq_some_iff.1 h
    simp only [List.mem_singleton, exists_eq_left, Template.isInstance_singleton, means_of_sign? hs]
    exact Iff.rfl
  | case3 a b iha ihb =>
    obtain ⟨as, ha, h⟩ := Option.bind_eq_some_iff.1 h
    obtain ⟨bs, hb, h⟩ := Option.bind_eq_some_iff.1 h
    obtain rfl := Option.some.inj h
    rw [Spells]
    constructor
    · rintro ⟨x, y, rfl, hx, hy⟩
      obtain ⟨v, hv, hvx⟩ := (iha ha).1 hx
      obtain ⟨w, hw, hwy⟩ := (ihb hb).1 hy
      exact ⟨v ++ w, List.mem_flatMap.2 ⟨v, hv, List.mem_map.2 ⟨w, hw, rfl⟩⟩,
        Template.isInstance_append.2 ⟨x, y, rfl, hvx, hwy⟩⟩
    · rintro ⟨_, hm, hz⟩
      obtain ⟨v, hv, hm⟩ := List.mem_flatMap.1 hm
      obtain ⟨w, hw, rfl⟩ := List.mem_map.1 hm
      obtain ⟨x, y, rfl, hx, hy⟩ := Template.isInstance_append.1 hz
      exact ⟨x, y, rfl, (iha ha).2 ⟨v, hv, hx⟩, (ihb hb).2 ⟨w, hw, hy⟩⟩
  | case4 eager r ih =>
    obtain ⟨vs, hr, rfl⟩ := Option.map_eq_some_iff.1 h
    rw [List.exists_mem_cons_iff, ← ih hr]
    exact spells_optional
  | case5 eager =>
    obtain rfl := Option.some.inj h
    simp only [List.mem_singleton, exists_eq_left, Template.isInstance_singleton]
    exact spells_plus.trans (and_congr_left' List.length_pos_iff)
  | case6 => cases h

end Regex

namespace Operation
open Regex Template
variable {op : Operation} {t : Text}

/-- What an operation is recognised by: one of the variants. -/
structure Shape where
  variants : List Template
  operation : Operation
  deriving DecidableEq, Repr

/-- An instance of a variant is a part of the text. -/
def Shape.OccursIn (s : Shape) (t : Text) : Prop :=
  ∃ v ∈ s.variants, ∃ z, IsInstance v z ∧ z <:+: t

def exchange : Template :=
  ofString "\x7bvar" ++ .blank :: ofString "_=_[0];_[0]=_[_%_.length];_[_"

/-- The shapes, of which the first that occurs decides. -/
def catalogue : List Shape :=
  [⟨[ofString "case" ++ [.blank, .digits]], cipherDispatch⟩,
   ⟨[ofString "\x7bfor(_=(_%_.length+_.length)%_.length;_--;)_.unshift(_.pop())\x7d"], unshift⟩,
   ⟨[ofString "_.splice(-_).reverse().forEach(function(_)\x7b_.unshift(_)\x7d)"], prepend⟩,
   ⟨[ofString "_.splice(0,1,_.splice(_,1,_[0])[0])"], nestedSplice⟩,
   ⟨[ofString "\x7b_.reverse()\x7d"], reverse⟩,
   ⟨[ofString "for(var _=_.length;_;)_.push(_.splice(--_,1)[0])\x7d"], reverse⟩,
   ⟨[ofString "\x7b_.push(_)\x7d"], push⟩,
   ⟨[exchange ++ ofString "]=_\x7d", exchange ++ ofString "%_.length]=_\x7d"], swap⟩,
   ⟨[ofString ";var" ++ .blank :: ofString "_=_[0];_[0]=_[_];_[_]=_\x7d"], swap⟩,
   ⟨[ofString "\x7b_.splice(0,_)\x7d"], splice⟩,
   ⟨[ofString ";_.splice(_,1)\x7d"], splice⟩]

def Shape.ofEntry (e : Regex × Operation) : Shape := ⟨e.1.templates?.getD [], e.2⟩

theorem catalogue_eq : catalogue = shapes.map Shape.ofEntry := by decide +kernel

theorem shapes_plain : ∀ e ∈ shapes, e.1.loopsAreRuns = true ∧ e.1.isLookFree = true ∧
    e.1.templates?.isSome = true := by
  decide +kernel

theorem isMatch_iff_occursIn {e : Regex × Operation} (he : e ∈ shapes) :
    e.1.isMatch t = true ↔ (Shape.ofEntry e).OccursIn t := by
  obtain ⟨hr, hl, hs⟩ := shapes_plain e he
  obtain ⟨vs, hvs⟩ := Option.isSome_iff_exists.1 hs
  have hvariants : (Shape.ofEntry e).variants = vs := by rw [Shape.ofEntry, hvs, Option.getD_some]
  rw [Shape.OccursIn, hvariants]
  constructor
  · intro h
    obtain ⟨u, z, w, rfl, hz⟩ := exists_spells_of_isMatch hr h
    obtain ⟨v, hv, hi⟩ := (spells_iff_templates hvs).1 hz
    exact ⟨v, hv, z, hi, u, w, List.append_assoc ..⟩
  · rintro ⟨v, hv, z, hi, u, w, rfl⟩
    rw [List.append_assoc]
    exact isMatch_of_spells hr hl ((spells_iff_templates hvs).2 ⟨v, hv, hi⟩) u w

theorem first_iff_occursIn {before after : List (Regex × Operation)} {e : Regex × Operation}
    (hes : shapes = before ++ e :: after) :
    (e.1.isMatch t = true ∧ ∀ e' ∈ before, (!e'.1.isMatch t) = true) ↔
      (Shape.ofEntry e).OccursIn t ∧ ∀ s ∈ before.map Shape.ofEntry, ¬s.OccursIn t := by
  have he : e ∈ shapes := by simp [hes]
  have hbefore : ∀ e' ∈ before, e' ∈ shapes := fun e' h => by
    rw [hes]
    exact List.mem_append_left _ h
  rw [isMatch_iff_occursIn he, List.forall_mem_map]
  refine and_congr_right' (forall₂_congr fun e' he' => ?_)
  rw [Bool.not_eq_true', ← Bool.not_eq_true, isMatch_iff_occursIn (hbefore e' he')]

theorem classify?_eq_some_iff : classify? t = some op ↔ ∃ before s after,
    catalogue = before ++ s :: after ∧ s.operation = op ∧ s.OccursIn t ∧
      ∀ s' ∈ before, ¬s'.OccursIn t := by
  rw [classify?, Option.map_eq_some_iff, catalogue_eq]
  constructor
  · rintro ⟨e, he, rfl⟩
    obtain ⟨hm, before, after, hes, hno⟩ := List.find?_eq_some_iff_append.1 he
    have hfirst := (first_iff_occursIn hes).1 ⟨hm, hno⟩
    exact ⟨before.map Shape.ofEntry, .ofEntry e, after.map Shape.ofEntry, by rw [hes, List.map_append,
      List.map_cons], rfl, hfirst⟩
  · rintro ⟨_, _, _, hes, rfl, hfirst⟩
    obtain ⟨before, rest, hshapes, rfl, hrest⟩ := List.map_eq_append_iff.1 hes
    obtain ⟨e, after, rfl, rfl, rfl⟩ := List.map_eq_cons_iff.1 hrest
    obtain ⟨hm, hno⟩ := (first_iff_occursIn hshapes).2 hfirst
    exact ⟨e, List.find?_eq_some_iff_append.2 ⟨hm, before, after, hshapes, hno⟩, rfl⟩

theorem classify?_eq_none_iff : classify? t = none ↔ ∀ s ∈ catalogue, ¬s.OccursIn t := by
  rw [classify?, Option.map_eq_none_iff, List.find?_eq_none, catalogue_eq, List.forall_mem_map]
  exact forall₂_congr fun e he => not_congr (isMatch_iff_occursIn he)

end Operation
end Unscramble
