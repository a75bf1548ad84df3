import Mathlib.Data.List.Find
import Mathlib.Data.List.Infix
import Unscramble.Proofs.Operation.Templates
import Unscramble.Proofs.Text.Cutting
import Unscramble.Script.Elements

/-! What is known of a text, and what of it does not matter, when it is searched for templates. -/
namespace Unscramble.Operation
open Text Template
variable {op : Operation} {t : Text} {v : Template} {x y z : Text} {ps : List Text}

def holds : Sign → Char → Bool
  | .fixed c, d => c == d
  | .word, d => isWord d
  | .blank, d => isBlank d
  | .digits, d => isDigit d

/-- Whether some character may be what both stand for. -/
def meets : Sign → Sign → Bool
  | .fixed c, .fixed d => c == d
  | .fixed c, .word | .word, .fixed c => isWord c
  | .fixed c, .blank | .blank, .fixed c => isBlank c
  | .word, .blank | .blank, .word => false
  | _, _ => true

/-- Whether the first stands for every character that the second stands for. -/
def covers : Sign → Sign → Bool
  | .fixed c, .fixed d => c == d
  | .word, .fixed c => isWord c
  | .blank, .fixed c => isBlank c
  | .digits, .fixed c => isDigit c
  | .word, .word | .blank, .blank => true
  | _, _ => false

/-- Whether an instance may be in front of a text with these signs. -/
def mayBegin : Template → Template → Bool
  | [], _ | .digits :: _, _ => true
  | _ :: _, [] => false
  | s :: v, s' :: w => meets s s' && mayBegin v w

/-- Whether an instance is in front of every text with these signs. -/
def mustBegin : Template → Template → Bool
  | [], _ => true
  | _ :: _, [] => false
  | s :: v, s' :: w => covers s s' && mustBegin v w

def Shape.occurs (s : Shape) (begins : Template → Template → Bool) (w : Template) : Bool :=
  s.variants.any fun v => w.tails.any (begins v)

/-- Whether the first shape that may occur stands for the operation and must occur. -/
def settles (op : Operation) (w : Template) : List Shape → Bool
  | [] => false
  | s :: ss =>
    if s.occurs mayBegin w then s.occurs mustBegin w && decide (s.operation = op)
    else settles op w ss

variable {s s' : Sign} {w : Template} {c d : Char}

theorem means_of_holds (h : holds s d = true) : s.Means [d] := by
  cases s with
  | fixed c => rw [eq_of_beq h]; rfl
  | word | blank => exact ⟨d, h, rfl⟩
  | digits => exact ⟨List.cons_ne_nil _ _, List.forall_mem_singleton.2 h⟩

theorem exists_of_means (hs : s ≠ .digits) (h : s.Means z) : ∃ d, holds s d = true ∧ z = [d] := by
  cases s with
  | fixed c => exact ⟨c, beq_self_eq_true c, h⟩
  | word | blank => exact h
  | digits => exact absurd rfl hs

theorem meets_of_holds (h : holds s d = true) (h' : holds s' d = true) : meets s s' = true := by
  have hdisjoint (hw : isWord d = true) (hb : isBlank d = true) : False := by
    rw [isWord_of_isBlank hb] at hw
    cases hw
  cases s with
  | fixed c =>
    obtain rfl : c = d := eq_of_beq h
    cases s' with
    | fixed c' => exact beq_iff_eq.2 (eq_of_beq h').symm
    | word | blank => exact h'
    | digits => rfl
  | word =>
    cases s' with
    | fixed c =>
      obtain rfl : c = d := eq_of_beq h'
      exact h
    | blank => exact (hdisjoint h h').elim
    | word | digits => rfl
  | blank =>
    cases s' with
    | fixed c =>
      obtain rfl : c = d := eq_of_beq h'
      exact h
    | word => exact (hdisjoint h' h).elim
    | blank | digits => rfl
  | digits => cases s' <;> rfl

theorem holds_of_covers (h : covers s s' = true) (h' : holds s' d = true) : holds s d = true := by
  cases s' with
  | fixed c =>
    obtain rfl : c = d := eq_of_beq h'
    cases s <;> exact h
  | word =>
    cases s with
    | word => exact h'
    | _ => cases h
  | blank =>
    cases s with
    | blank => exact h'
    | _ => cases h
  | digits => cases s <;> cases h

def Signed (w : Template) (t : Text) : Prop := List.Forall₂ (fun s c => holds s c = true) w t

theorem signed_of_fits {f : Text} (h : Fits f t) : Signed (ofForm f) t := by
  refine List.forall₂_map_left_iff.2 (h.imp fun c d hs => ?_)
  unfold Stands at hs
  split
  next hc => rwa [if_pos hc] at hs
  next hc =>
    rw [if_neg hc] at hs
    exact beq_iff_eq.2 hs

theorem mayBegin_of_prefix (ht : Signed w t) (hz : IsInstance v z) (hp : z <+: t) :
    mayBegin v w = true := by
  induction v generalizing w t z with
  | nil => rfl
  | cons s v ih =>
    obtain ⟨x, y, rfl, hx, hy⟩ := hz
    -- digits may take any number of signs, so nothing is asked of what is behind them
    by_cases hs : s = .digits
    · subst hs
      rfl
    · obtain ⟨d, hd, rfl⟩ := exists_of_means hs hx
      cases ht with
      | nil => exact absurd (List.prefix_nil.1 hp) (by simp)
      | @cons s' c w t hc ht =>
        obtain ⟨rfl, hrest⟩ : d = c ∧ y <+: t := List.cons_prefix_cons.1 hp
        rw [mayBegin]
        · rw [meets_of_holds hd hc, ih ht hy hrest]
          rfl
        · rintro rfl
          exact hs rfl

theorem exists_prefix_of_mustBegin (ht : Signed w t) (h : mustBegin v w = true) :
    ∃ z, IsInstance v z ∧ z <+: t := by
  induction v generalizing w t with
  | nil => exact ⟨[], rfl, List.nil_prefix⟩
  | cons s v ih =>
    cases ht with
    | nil => cases h
    | @cons s' c w t hc ht =>
      rw [mustBegin, Bool.and_eq_true] at h
      obtain ⟨hcovers, h⟩ := h
      obtain ⟨z, hz, hp⟩ := ih ht h
      exact ⟨c :: z, ⟨[c], z, rfl, means_of_holds (holds_of_covers hcovers hc), hz⟩,
        List.cons_prefix_cons.2 ⟨rfl, hp⟩⟩

theorem Shape.occurs_of_occursIn {s : Shape} (ht : Signed w t) (h : s.OccursIn t) :
    s.occurs mayBegin w = true := by
  obtain ⟨v, hv, z, hz, u, y, rfl⟩ := h
  rw [List.append_assoc] at ht
  have hsigned : Signed (w.drop u.length) (z ++ y) := List.forall₂_drop_append w u (z ++ y) ht
  exact List.any_eq_true.2 ⟨v, hv, List.any_eq_true.2 ⟨w.drop u.length,
    (List.mem_tails ..).2 (List.drop_suffix ..), mayBegin_of_prefix hsigned hz (List.prefix_append z y)⟩⟩

theorem Shape.occursIn_of_occurs {s : Shape} (ht : Signed w t) (h : s.occurs mustBegin w = true) :
    s.OccursIn t := by
  obtain ⟨v, hv, hany⟩ := List.any_eq_true.1 h
  obtain ⟨w', hw, hbegin⟩ := List.any_eq_true.1 hany
  obtain ⟨u, rfl⟩ := (List.mem_tails ..).1 hw
  have hsigned := List.forall₂_drop u.length ht
  rw [List.drop_left] at hsigned
  obtain ⟨z, hz, hp⟩ := exists_prefix_of_mustBegin hsigned hbegin
  exact ⟨v, hv, z, hz, hp.isInfix.trans (List.drop_suffix ..).isInfix⟩

theorem exists_first_of_settles (ht : Signed w t) {ss : List Shape} (h : settles op w ss = true) :
    ∃ before s after, ss = before ++ s :: after ∧ s.operation = op ∧ s.OccursIn t ∧
      ∀ s' ∈ before, ¬s'.OccursIn t := by
  induction ss with
  | nil => cases h
  | cons s ss ih =>
    rw [settles] at h
    split at h
    · obtain ⟨hmust, hop⟩ := Bool.and_eq_true_iff.1 h
      exact ⟨[], s, ss, rfl, of_decide_eq_true hop, s.occursIn_of_occurs ht hmust, by simp⟩
    next hmay =>
      obtain ⟨before, s', after, rfl, hop, ho, hno⟩ := ih h
      have hs : ¬s.OccursIn t := fun ho => hmay (s.occurs_of_occursIn ht ho)
      exact ⟨s :: before, s', after, rfl, hop, ho, List.forall_mem_cons.2 ⟨hs, hno⟩⟩

/-- What is settled by the signs of a text is what it is recognised as. -/
theorem classify?_of_signed (ht : Signed w t) (h : settles op w catalogue = true) :
    classify? t = some op :=
  classify?_eq_some_iff.2 (exists_first_of_settles ht h)

def IsPlain (c : Char) : Prop := c ∉ ")\x7b;.".toList ∧ isBlank c = false

instance (c : Char) : Decidable (IsPlain c) := inferInstanceAs (Decidable (_ ∧ _))

def Plain (x : Text) : Prop := ∀ c ∈ x, IsPlain c

instance (x : Text) : Decidable (Plain x) := decidable_of_iff _ List.all_iff_forall_prop

def header (ps : List Text) : Text :=
  Elements.keyword ++ '(' :: ([','].intercalate ps ++ [')'])

theorem exists_header (hps : ∀ p ∈ ps, Plain p) : ∃ x, header ps = x ++ [')'] ∧ Plain x := by
  have hkeyword : Plain (Elements.keyword ++ ['(']) := by decide
  have hlist : Plain ([','].intercalate ps) :=
    intercalate_induction (P := Plain) (by decide)
      (fun _ _ hx hy => List.forall_mem_append.2 ⟨hx, hy⟩) (by decide) hps
  refine ⟨Elements.keyword ++ ['('] ++ [','].intercalate ps, ?_,
    List.forall_mem_append.2 ⟨hkeyword, hlist⟩⟩
  rw [header, List.append_assoc, List.append_assoc]
  rfl

def isForeign : Sign → Bool
  | .fixed c => c != ')' && !decide (IsPlain c)
  | .blank => true
  | _ => false

def passesEnd : Sign → Bool
  | .fixed c => c != ')'
  | _ => true

def missesHeads : Template → Bool
  | [] => false
  | s :: v => isForeign s || (passesEnd s && missesHeads v)

theorem exists_head_of_isForeign {s : Sign} (hs : isForeign s = true) (h : s.Means z) :
    ∃ c w, z = c :: w ∧ c ≠ ')' ∧ ¬IsPlain c := by
  cases s with
  | fixed c =>
    obtain ⟨hc, hno⟩ := Bool.and_eq_true_iff.1 hs
    rw [Bool.not_eq_true'] at hno
    exact ⟨c, [], h, bne_iff_ne.1 hc, of_decide_eq_false hno⟩
  | blank =>
    obtain ⟨d, hd, rfl⟩ := h
    refine ⟨d, [], rfl, ?_, fun hp => ?_⟩
    · rintro rfl
      exact absurd hd (by decide)
    · rw [hp.2] at hd
      cases hd
  | _ => cases hs

theorem not_mem_of_passesEnd {s : Sign} (hs : passesEnd s = true) (h : s.Means z) : ')' ∉ z := by
  cases s with
  | fixed c =>
    obtain rfl : z = [c] := h
    exact fun hm => bne_iff_ne.1 hs (List.mem_singleton.1 hm).symm
  | word | blank =>
    obtain ⟨d, hd, rfl⟩ := h
    intro hm
    rw [← List.mem_singleton.1 hm] at hd
    exact absurd hd (by decide)
  | digits => exact fun hm => absurd (h.2 _ hm) (by decide)

theorem not_prefix_of_missesHeads (hv : missesHeads v = true) (hx : Plain x)
    (hz : IsInstance v z) : ¬z <+: x ++ ')' :: y := by
  rintro ⟨w, hw⟩
  induction v generalizing x z with
  | nil => cases hv
  | cons s v ih =>
    obtain ⟨z, z', rfl, hs, hv'⟩ := hz
    rw [missesHeads, Bool.or_eq_true, Bool.and_eq_true] at hv
    rw [List.append_assoc] at hw
    cases hv with
    | inl hforeign =>
      obtain ⟨c, z, rfl, hc, hplain⟩ := exists_head_of_isForeign hforeign hs
      cases x with
      | nil => exact hc (List.cons.inj hw).1
      | cons d x => exact hplain ((List.cons.inj hw).1 ▸ hx d (.head x))
    | inr hpasses =>
      have hend := not_mem_of_passesEnd hpasses.1 hs
      -- what the sign stands for is inside the head, since it would have the last character else
      obtain ⟨k, rfl, hk⟩ | ⟨k, rfl, hk⟩ := List.append_eq_append_iff.1 hw
      · exact ih hpasses.2 (fun c hc => hx c (List.mem_append_right z hc)) hv' hk
      · cases k with
        | nil => exact ih hpasses.2 (x := []) (List.forall_mem_nil _) hv' hk.symm
        | cons d k =>
          obtain rfl := (List.cons.inj hk).1
          exact hend (List.mem_append_right x (.head k))

theorem catalogue_missesHeads : ∀ s ∈ catalogue, ∀ v ∈ s.variants, missesHeads v = true := by
  decide +kernel

theorem occursIn_header {s : Shape} (hs : s ∈ catalogue) (hps : ∀ p ∈ ps, Plain p) :
    s.OccursIn (header ps ++ t) ↔ s.OccursIn t := by
  obtain ⟨x, hx, hplain⟩ := exists_header hps
  refine exists_congr fun v => and_congr_right fun hv => exists_congr fun z => and_congr_right fun hz => ?_
  have hmisses := catalogue_missesHeads s hs v hv
  constructor
  · rintro ⟨u, w, hu⟩
    rw [hx, List.append_assoc, List.append_assoc] at hu
    obtain ⟨k, rfl, hk⟩ | ⟨k, rfl, hk⟩ := List.append_eq_append_iff.1 hu
    · exact absurd ⟨w, hk⟩
        (not_prefix_of_missesHeads hmisses (fun c hc => hplain c (List.mem_append_right u hc)) hz)
    · cases k with
      | nil =>
        exact absurd ⟨w, hk.symm⟩
          (not_prefix_of_missesHeads (x := []) hmisses (List.forall_mem_nil _) hz)
      | cons d k =>
        obtain ⟨-, rfl⟩ := List.cons.inj hk
        exact ⟨k, w, List.append_assoc ..⟩
  · exact fun h => h.trans (List.suffix_append (header ps) t).isInfix

/-- What is in front of the body makes no difference. -/
theorem classify?_header (hps : ∀ p ∈ ps, Plain p) (t : Text) :
    classify? (header ps ++ t) = classify? t := by
  rw [classify?, classify?]
  refine congrArg _ (List.find?_congr fun e he => Bool.eq_iff_iff.2 ?_)
  have hs : Shape.ofEntry e ∈ catalogue := catalogue_eq ▸ List.mem_map_of_mem he
  rw [isMatch_iff_occursIn he, isMatch_iff_occursIn he, occursIn_header hs hps]

end Unscramble.Operation
