import Unscramble.Proofs.Script.Slicing

/-! How the elements of an array lie in its text, whatever the text is: in their order, with nothing
between them but blanks and commas. -/
namespace Unscramble.Elements
variable {t x closer w : Text} {xs : List Text} {bound : Nat}

def BlanksAndComma (t : Text) : Prop := ∃ w v, Text.Blank w ∧ Text.Blank v ∧ t = w ++ ',' :: v

/-- What stands between two elements. Only behind a function the comma may be missing. -/
def IsGap (element gap : Text) : Prop := BlanksAndComma gap ∨ keyword <+: element ∧ Text.Blank gap

def IsEnd (t : Text) : Prop := ∃ closer w, (closer = [] ∨ closer = [']']) ∧ Text.Blank w ∧ t = closer ++ w

def IsTail (t : Text) : Prop :=
  ∃ gap last, (BlanksAndComma gap ∨ Text.Blank gap) ∧ IsEnd last ∧ t = gap ++ last

inductive Layout : List Text → Text → Prop
  | empty {tail : Text} (h : IsTail tail) : Layout [] tail
  | last {x tail : Text} (h : IsTail tail) : Layout [x] (x ++ tail)
  | more {x gap y t : Text} {ys : List Text} (hg : IsGap x gap) (h : Layout (y :: ys) t) :
    Layout (x :: y :: ys) (x ++ gap ++ t)

theorem exists_end (t : Text) : ∃ last, IsEnd last ∧ t = Text.stripEnd t.trimEnd ']' ++ last := by
  obtain ⟨w, hw, ht⟩ := Text.exists_trimEnd t
  rw [Text.stripEnd]
  cases hr : t.trimEnd.reverse with
  | nil =>
    have hnil := congrArg List.reverse hr
    rw [List.reverse_reverse] at hnil
    exact ⟨w, ⟨[], w, .inl rfl, hw, rfl⟩, by rw [ht, hnil]; rfl⟩
  | cons c r =>
    have hlast := congrArg List.reverse hr
    rw [List.reverse_reverse, List.reverse_cons] at hlast
    rw [Text.stripStart]
    split
    next hc =>
      subst hc
      exact ⟨']' :: w, ⟨[']'], w, .inr rfl, hw, rfl⟩, by rw [ht, hlast]; simp⟩
    · exact ⟨w, ⟨[], w, .inl rfl, hw, rfl⟩, by rw [ht, hlast]; simp⟩

theorem BlanksAndComma.append_blank {gap : Text} (h : BlanksAndComma gap) (hw : Text.Blank w) :
    BlanksAndComma (gap ++ w) := by
  obtain ⟨a, b, ha, hb, rfl⟩ := h
  exact ⟨a, b ++ w, ha, List.forall_mem_append.2 ⟨hb, hw⟩, by simp⟩

theorem Separates.append_blank {gap element rest : Text} (h : Separates gap element rest)
    (hw : Text.Blank w) :
    BlanksAndComma (gap ++ w) ∨ (keyword <+: element ∨ rest = []) ∧ Text.Blank (gap ++ w) := by
  obtain ⟨v, hv, rfl⟩ | ⟨hg, hr⟩ := h
  · exact .inl (BlanksAndComma.append_blank ⟨v, [], hv, Text.blank_nil, rfl⟩ hw)
  · exact .inr ⟨hr, List.forall_mem_append.2 ⟨hg, hw⟩⟩

theorem collect_eq_nil_iff : collect bound t = .ok [] ↔ Text.Blank t := by
  refine ⟨fun h => ?_, fun hb => collect_blank hb bound⟩
  by_contra hblank
  have hstart : t.trimStart ≠ [] := mt Text.trimStart_eq_nil_iff.1 hblank
  cases bound with
  | zero =>
    rw [collect, if_neg (by simpa using hstart)] at h
    cases h
  | succ bound =>
    rw [collect, if_neg (by simpa using hstart)] at h
    obtain ⟨⟨element, rest⟩, -, h⟩ := Outcome.bind_eq_ok.1 h
    obtain ⟨ys, -, h⟩ := Outcome.bind_eq_ok.1 h
    cases h

/-- The elements that are collected, one turn after the other, lie in the text in their order. -/
theorem layout_of_collect {last : Text} (hlast : IsEnd last) (h : collect bound t = .ok xs) :
    ∃ w v, t ++ last = w ++ v ∧ Text.Blank w ∧ Layout xs v := by
  induction bound generalizing t xs with
  | zero =>
    have hblank : Text.Blank t := by
      rw [collect] at h
      split at h
      next he => exact Text.trimStart_eq_nil_iff.1 (List.isEmpty_iff.1 he)
      · cases h
    obtain rfl : [] = xs := Except.ok.inj ((collect_blank hblank 0).symm.trans h)
    exact ⟨t, last, rfl, hblank, .empty ⟨[], last, .inr Text.blank_nil, hlast, rfl⟩⟩
  | succ bound ih =>
    by_cases hblank : Text.Blank t
    · obtain rfl : [] = xs := Except.ok.inj ((collect_blank hblank _).symm.trans h)
      exact ⟨t, last, rfl, hblank, .empty ⟨[], last, .inr Text.blank_nil, hlast, rfl⟩⟩
    have hstart : t.trimStart ≠ [] := mt Text.trimStart_eq_nil_iff.1 hblank
    rw [collect, if_neg (by simpa using hstart)] at h
    obtain ⟨f, hf, -⟩ | ⟨element, gap, rest, hnext, ht, -, hgap⟩ := next_cases hstart
    · rw [hf] at h
      cases h
    rw [hnext, Outcome.ok_bind] at h
    obtain ⟨ys, hys, h⟩ := Outcome.bind_eq_ok.1 h
    obtain rfl := Except.ok.inj h
    obtain ⟨w, hw, htrim⟩ := Text.exists_trimStart t
    cases ys with
    | nil =>
      have htail : IsTail (gap ++ rest ++ last) := by
        refine ⟨gap ++ rest, last, ?_, hlast, rfl⟩
        exact (hgap.append_blank (collect_eq_nil_iff.1 hys)).imp_right And.right
      exact ⟨w, element ++ (gap ++ rest ++ last), by rw [htrim, ht]; simp, hw, .last htail⟩
    | cons y ys =>
      have hrest : rest ≠ [] := by
        rintro rfl
        cases (collect_blank Text.blank_nil bound).symm.trans hys
      obtain ⟨u, v, hv, hu, hlayout⟩ := ih hys
      have hg : IsGap element (gap ++ u) := by
        refine (hgap.append_blank hu).imp_right fun h => ⟨?_, h.2⟩
        exact h.1.resolve_right hrest
      refine ⟨w, element ++ (gap ++ u) ++ v, ?_, hw, .more hg hlayout⟩
      calc t ++ last = w ++ (element ++ gap ++ rest) ++ last := by rw [← ht, ← htrim]
        _ = w ++ (element ++ gap ++ (rest ++ last)) := by simp only [List.append_assoc]
        _ = w ++ (element ++ (gap ++ u) ++ v) := by rw [hv]; simp only [List.append_assoc]

theorem collect_eq_of_le {other : Nat} (h : t.length ≤ bound) (h' : t.length ≤ other) :
    collect bound t = collect other t := by
  induction bound generalizing other t with
  | zero =>
    obtain rfl := List.length_eq_zero_iff.1 (Nat.le_zero.1 h)
    rw [collect_blank Text.blank_nil, collect_blank Text.blank_nil]
  | succ bound ih =>
    by_cases hblank : Text.Blank t
    · rw [collect_blank hblank, collect_blank hblank]
    have hstart : t.trimStart ≠ [] := mt Text.trimStart_eq_nil_iff.1 hblank
    have hpos : 0 < t.length := List.length_pos_iff.2 fun ht => hblank (ht ▸ nofun)
    obtain ⟨other, rfl⟩ := Nat.exists_eq_add_one.2 (Nat.lt_of_lt_of_le hpos h')
    rw [collect, collect, if_neg (by simpa using hstart), if_neg (by simpa using hstart)]
    obtain ⟨f, hf, -⟩ | ⟨element, gap, rest, hnext, ht, htaken, -⟩ := next_cases hstart
    · rw [hf, Outcome.error_bind, Outcome.error_bind]
    · have hlt := length_lt_of_turn ht htaken
      have hrest : collect bound rest = collect other rest := ih (by omega) (by omega)
      simp only [hnext, Outcome.ok_bind, hrest]

/-- Nothing of a literal is lost, doubled or moved, whether it is well formed or not: where reading it
gives elements they lie in it in their order. Reading ends, for a turn is never made on nothing and
takes something away. -/
theorem ofLiteral_layout :
    (∀ text elements, ofLiteral text = .ok elements →
      ∃ w t, text = '[' :: (w ++ t) ∧ Text.Blank w ∧ Layout elements t) ∧
    (∀ (t : Text) (bound : Nat), t.length ≤ bound →
      IsDefined (collect bound t) ∧ collect bound t = collect t.length t) ∧
    (∀ t element rest : Text, t ≠ [] → next t = .ok (element, rest) →
      ∃ taken, t = taken ++ rest ∧ 0 < taken.byteLength) := by
  refine ⟨fun text elements h => ?_, fun t bound h => ?_, fun t element rest hne h => ?_⟩
  · rw [ofLiteral.eq_def] at h
    split at h
    next body =>
      obtain ⟨last, hlast, hbody⟩ := exists_end body
      obtain ⟨w, v, hv, hw, hlayout⟩ := layout_of_collect hlast h
      exact ⟨w, v, by rw [hbody, hv], hw, hlayout⟩
    · cases h
  · exact ⟨isDefined_collect h, collect_eq_of_le h (Nat.le_refl _)⟩
  · obtain ⟨f, hf, -⟩ | ⟨element', gap, rest', hnext, ht, htaken, -⟩ := next_cases hne
    · cases hf.symm.trans h
    · obtain ⟨rfl, rfl⟩ := Prod.mk.inj (Except.ok.inj (hnext.symm.trans h))
      exact ⟨element' ++ gap, ht, Text.byteLength_pos htaken⟩

def crowded : Text := "[ a ,,function(){}b ,] ".toList

theorem ofLiteral_crowded :
    (∃ w t, crowded = '[' :: (w ++ t) ∧ Text.Blank w ∧
      Layout ["a".toList, [], "function(){}".toList, "b".toList] t) ∧
    IsDefined (collect 9 ['b', ',']) ∧ ∃ taken, ['b', ','] = taken ++ [] ∧ 0 < Text.byteLength taken := by
  have hread : ofLiteral crowded = .ok ["a".toList, [], "function(){}".toList, "b".toList] := by
    decide +kernel
  have hlength : ['b', ','].length ≤ 9 := by decide
  have hturn : next ['b', ','] = .ok (['b'], []) := by decide
  obtain ⟨hlayout, hends, hturns⟩ := ofLiteral_layout
  exact ⟨hlayout _ _ hread, (hends _ _ hlength).1, hturns _ _ _ (List.cons_ne_nil _ _) hturn⟩

end Unscramble.Elements
