import Mathlib.Data.Bool.AllAny
import Unscramble.Proofs.Script.Commas
import Unscramble.Proofs.Script.Grammar
import Unscramble.Script.Elements

/-! The elements that an array literal has been written from are read back. -/
namespace Unscramble.Elements
open Literal
variable {w x y t before after : Text} {xs ys : List Text}

/-- A text that is read as one element, at the end and in front of a comma. -/
structure IsElement (x : Text) : Prop where
  ne_nil : x ≠ []
  head : x.head?.any Text.isBlank = false
  last : next x = .ok (x, [])
  more : ∀ t, next (x ++ ',' :: t) = .ok (x, t)

structure ReadsAs (x y : Text) : Prop where
  ne_nil : x.trimStart ≠ []
  last : next x.trimStart = .ok (y, [])
  more : ∀ t, next (x.trimStart ++ ',' :: t) = .ok (y, t)

theorem IsElement.readsAs (h : IsElement x) : ReadsAs x x := by
  have ht : x.trimStart = x := Text.dropWhile_eq_self h.head
  constructor <;> rw [ht]
  exacts [h.ne_nil, h.last, h.more]

theorem ReadsAs.isElement (h : ReadsAs x x) (hx : x.head?.any Text.isBlank = false) :
    IsElement x := by
  have ht : x.trimStart = x := Text.dropWhile_eq_self hx
  obtain ⟨hne, hlast, hmore⟩ := h
  rw [ht] at hne hlast hmore
  exact ⟨hne, hx, hlast, hmore⟩

theorem trimStart_append (h : x.trimStart ≠ []) (t : Text) :
    Text.trimStart (x ++ t) = x.trimStart ++ t := by
  have hx : ¬(x.dropWhile Text.isBlank).isEmpty = true := fun he => h (List.isEmpty_iff.1 he)
  rw [Text.trimStart, List.dropWhile_append, if_neg hx]
  rfl

theorem trimStart_spaced (hne : x ≠ []) (hx : x.head?.any Text.isBlank = false)
    (hb : Text.Blank before) (after : Text) :
    Text.trimStart (before ++ (x ++ after)) = x ++ after := by
  have ht : x.trimStart = x := Text.dropWhile_eq_self hx
  rw [Text.trimStart_blank_append hb, trimStart_append (ht.symm ▸ hne), ht]

theorem trimStart_comma (t : Text) : Text.trimStart (',' :: t) = ',' :: t :=
  List.dropWhile_cons_of_neg (by decide)

theorem not_keyword_append (hx : ¬keyword <+: x) (hy : ∀ c ∈ y.head?, c ∉ keyword) :
    ¬keyword <+: x ++ y := by
  rintro ⟨v, hv⟩
  obtain ⟨k, hk, -⟩ | ⟨k, hk, hy'⟩ := List.append_eq_append_iff.1 hv
  · exact hx ⟨k, hk.symm⟩
  · cases k with
    | nil => exact hx ⟨[], by rw [hk, List.append_nil, List.append_nil]⟩
    | cons c k =>
      have hc : c ∈ y.head? := by rw [hy']; rfl
      exact hy c hc (hk ▸ List.mem_append_right x (.head k))

theorem not_keyword_comma (hx : ¬keyword <+: x) (t : Text) : ¬keyword <+: x ++ ',' :: t := by
  refine not_keyword_append hx fun c hc => ?_
  obtain rfl : ',' = c := Option.some.inj hc
  decide

theorem not_mem_keyword_of_blank (hw : Text.Blank w) : ∀ c ∈ w.head?, c ∉ keyword := by
  have hk : ∀ c ∈ keyword, ¬Text.isBlank c = true := List.all_iff_forall_prop.1 (by decide)
  exact fun c hc hm => hk c hm (hw c (List.mem_of_mem_head? hc))

theorem whole_of_blank (hw : Text.Blank w) : Commas.Whole w := by
  have hm : ∀ c ∈ Commas.marks, ¬Text.isBlank c = true := List.all_iff_forall_prop.1 (by decide)
  exact Commas.whole_of_plain fun c hc h => hm c h (hw c hc)

theorem readsAs_of_whole (hne : x ≠ []) (hk : ¬keyword <+: x) (hw : Commas.Whole x)
    (hs : x.head?.any Text.isBlank = false) (he : x.getLast?.any Text.isBlank = false)
    (hb : Text.Blank before) (ha : Text.Blank after) : ReadsAs (before ++ (x ++ after)) x := by
  have ht := trimStart_spaced hne hs hb after
  have hk' : ¬keyword <+: x ++ after := not_keyword_append hk (not_mem_keyword_of_blank ha)
  have hw' : Commas.Whole (x ++ after) := hw.append (whole_of_blank ha)
  have hend : Text.trimEnd (x ++ after) = x :=
    (Text.trimEnd_append_blank x ha).trans (Text.dropEndWhile_eq_self he)
  refine ⟨by simp [ht, hne], ?_, fun t => ?_⟩
  · rw [ht, next, if_neg (by simpa using hk'), Commas.cut?_eq_none hw']
    simp only [Outcome.pure_eq, hend]
  · rw [ht, next, if_neg (by simpa using not_keyword_comma hk' t), Commas.cut?_append hw']
    simp only [Outcome.pure_eq, hend]

theorem isElement_of_whole (hne : x ≠ []) (hx : ¬keyword <+: x) (hw : Commas.Whole x)
    (hs : x.head?.any Text.isBlank = false) (he : x.getLast?.any Text.isBlank = false) :
    IsElement x := by
  have h : ReadsAs ([] ++ (x ++ [])) x := readsAs_of_whole hne hx hw hs he nofun nofun
  rw [List.nil_append, List.append_nil] at h
  exact h.isElement hs

variable {front gap literal parameters body : Text}

def functionWith (front gap literal : Text) : Text := keyword ++ (front ++ ')' :: (gap ++ literal))

def function (parameters body : Text) : Text :=
  keyword ++ '(' :: (parameters ++ ')' :: Context.brace.enclose body)

theorem function_eq (parameters body : Text) :
    function parameters body = functionWith ('(' :: parameters) [] (Context.brace.enclose body) := rfl

theorem getLast?_function (parameters body : Text) :
    (function parameters body).getLast? = some '\x7d' := by
  have h : function parameters body =
      keyword ++ '(' :: (parameters ++ ')' :: '\x7b' :: body) ++ ['\x7d'] := by
    simp [function, Context.enclose, Context.opener, Context.closer]
  rw [h, List.getLast?_concat]

theorem takeWhile_gap (hl : IsLiteral literal) (hg : Text.Blank gap) (v : Text) :
    (gap ++ (literal ++ v)).takeWhile Text.isBlank = gap := by
  obtain ⟨k, x, hk, -, rfl⟩ := hl
  have ho : ¬Text.isBlank k.opener = true := by obtain rfl | rfl := hk <;> decide
  rw [Context.enclose_append, List.takeWhile_append_of_pos hg, List.takeWhile_cons_of_neg ho,
    List.append_nil]

theorem functionLength_functionWith (hf : ')' ∉ front) (hg : Text.Blank gap) (hl : IsLiteral literal)
    (v : Text) : functionLength (functionWith front gap literal ++ v) =
      .ok (Text.byteLength (functionWith front gap literal)) := by
  have ho : ')' ∉ keyword ++ front := by
    have hk : ')' ∉ keyword := by decide
    exact fun hm => (List.mem_append.1 hm).elim hk hf
  have hparts : functionWith front gap literal ++ v =
      (keyword ++ front) ++ ')' :: (gap ++ (literal ++ v)) := by
    simp only [functionWith, List.append_assoc, List.cons_append]
  have hbegins : BeginsWith (functionWith front gap literal ++ v)
      (Text.byteLength (keyword ++ front ++ ')' :: gap)) literal := by
    refine ⟨v, ?_⟩
    rw [hparts, ← List.cons_append, ← List.append_assoc]
    exact Text.dropBytes?_append _ _
  have hlength : Text.byteLength (keyword ++ front ++ ')' :: gap) =
      Text.byteLength (keyword ++ front) + 1 + gap.byteLength := by
    rw [Text.byteLength_append, Text.byteLength_cons, Nat.add_assoc]
    rfl
  have hspan := span_of_beginsWith hbegins hl
  have hwhole : functionWith front gap literal = keyword ++ front ++ ')' :: gap ++ literal := by
    simp only [functionWith, List.append_assoc, List.cons_append]
  rw [functionLength, hparts, Text.splitOnce?_append ho]
  simp only [takeWhile_gap hl hg]
  rw [← hparts, ← hlength, hspan, hwhole, Text.byteLength_append _ literal]
  rfl

theorem next_functionWith (hf : ')' ∉ front) (hg : Text.Blank gap) (hl : IsLiteral literal) (v : Text) :
    next (functionWith front gap literal ++ v) =
      .ok (functionWith front gap literal, v.trimStart.stripStart ',') := by
  have hk : keyword.isPrefixOf (functionWith front gap literal ++ v) = true := by
    rw [List.isPrefixOf_iff_prefix, functionWith, List.append_assoc]
    exact List.prefix_append ..
  rw [next, if_pos hk, functionLength_functionWith hf hg hl]
  simp only [Outcome.ok_bind, Text.takeBytes?_append, Text.dropBytes?_append, Outcome.pure_eq]

theorem readsAs_functionWith (hf : ')' ∉ front) (hg : Text.Blank gap) (hl : IsLiteral literal)
    (hb : Text.Blank before) (ha : Text.Blank after) :
    ReadsAs (before ++ (functionWith front gap literal ++ after)) (functionWith front gap literal) := by
  have ht := trimStart_spaced (x := functionWith front gap literal) (List.cons_ne_nil _ _) rfl hb after
  refine ⟨by rw [ht]; exact List.cons_ne_nil _ _, ?_, fun t => ?_⟩
  · rw [ht, next_functionWith hf hg hl, Text.trimStart_blank ha]
    rfl
  · rw [ht, List.append_assoc, next_functionWith hf hg hl, Text.trimStart_blank_append ha,
      trimStart_comma]
    rfl

theorem isElement_function (hp : ')' ∉ parameters) (hb : Closed body) :
    IsElement (function parameters body) := by
  have hf : ')' ∉ '(' :: parameters := by simpa using hp
  have hl : IsLiteral (Context.brace.enclose body) := ⟨.brace, body, .inl rfl, hb.items (.inl rfl), rfl⟩
  have h : ReadsAs ([] ++ (functionWith ('(' :: parameters) [] (Context.brace.enclose body) ++ [])) _ :=
    readsAs_functionWith hf nofun hl nofun nofun
  rw [List.nil_append, List.append_nil, ← function_eq] at h
  exact h.isElement rfl

/-- Nothing, or a comma more and blanks. -/
def IsEnding (t : Text) : Prop := t = [] ∨ ∃ w, Text.Blank w ∧ t = ',' :: w

theorem collect_blank (hw : Text.Blank w) (bound : Nat) : collect bound w = .ok [] := by
  cases bound <;> simp [collect, Text.trimStart_blank hw]

theorem collect_more (h : ReadsAs x y) (bound : Nat) (t : Text) :
    collect (bound + 1) (x ++ ',' :: t) = (collect bound t).map (y :: ·) := by
  rw [collect, trimStart_append h.ne_nil, if_neg (by simp), h.more]
  rfl

theorem collect_ending (h : ReadsAs x y) (ht : IsEnding t) (bound : Nat) :
    collect (bound + 1) (x ++ t) = .ok [y] := by
  obtain rfl | ⟨w, hw, rfl⟩ := ht
  · have hnil := collect_blank (w := []) nofun bound
    rw [List.append_nil, collect, if_neg (by simpa using h.ne_nil), h.last, Outcome.ok_bind]
    simp only [hnil, Outcome.ok_bind, Outcome.pure_eq]
  · rw [collect_more h, collect_blank hw]
    rfl

theorem collect_intercalate (h : List.Forall₂ ReadsAs xs ys) (hne : xs ≠ []) (ht : IsEnding t)
    {bound : Nat} (hb : xs.length ≤ bound) : collect bound ([','].intercalate xs ++ t) = .ok ys := by
  induction h generalizing bound with
  | nil => exact absurd rfl hne
  | @cons x y xs ys hx hxs ih =>
    cases bound with
    | zero => exact absurd hb (Nat.not_succ_le_zero _)
    | succ bound =>
      cases hxs with
      | nil => rw [List.intercalate_singleton, collect_ending hx ht bound]
      | cons hx' hxs =>
        rw [List.intercalate_cons_cons, List.append_assoc, List.append_assoc, List.singleton_append,
          collect_more hx, ih (List.cons_ne_nil _ _) (Nat.le_of_succ_le_succ hb)]
        rfl

theorem length_le_intercalate (h : ∀ x ∈ xs, x ≠ []) : xs.length ≤ ([','].intercalate xs).length := by
  induction xs with
  | nil => exact Nat.zero_le _
  | cons x xs ih =>
    have hx := List.length_pos_iff.2 (h x (.head xs))
    have hxs := ih fun y hy => h y (.tail x hy)
    cases xs with
    | nil => simpa using Nat.succ_le_of_lt hx
    | cons y ys =>
      rw [List.intercalate_cons_cons]
      simp only [List.length_append, List.length_cons] at hxs ⊢
      omega

theorem ofLiteral_bracket (t : Text) : ofLiteral (Context.bracket.enclose t) = collect t.length t := by
  have hbody : Text.stripEnd (Text.trimEnd (t ++ [']'])) ']' = t := by
    have ht : Text.trimEnd (t ++ [']']) = t ++ [']'] :=
      Text.dropEndWhile_eq_self (Text.any_getLast?_concat _ t ']')
    rw [ht, Text.stripEnd, List.reverse_append]
    exact List.reverse_reverse t
  exact congrArg (fun t => collect t.length t) hbody

theorem ne_nil_of_readsAs (h : List.Forall₂ ReadsAs xs ys) : ∀ x ∈ xs, x ≠ [] := by
  induction h with
  | nil => nofun
  | cons hx _ ih => exact List.forall_mem_cons.2 ⟨fun he => hx.ne_nil (congrArg Text.trimStart he), ih⟩

theorem ofLiteral_intercalate (h : List.Forall₂ ReadsAs xs ys) (hne : xs ≠ []) (ht : IsEnding t) :
    ofLiteral (Context.bracket.enclose ([','].intercalate xs ++ t)) = .ok ys := by
  have hlength := length_le_intercalate (ne_nil_of_readsAs h)
  rw [ofLiteral_bracket, collect_intercalate h hne ht]
  rw [List.length_append]
  omega

theorem ofLiteral_enclose (h : ∀ x ∈ xs, IsElement x) :
    ofLiteral (Context.bracket.enclose ([','].intercalate xs)) = .ok xs := by
  cases xs with
  | nil => rfl
  | cons x xs =>
    have hreads := List.forall₂_same.2 fun y hy => (h y hy).readsAs
    have hread := ofLiteral_intercalate hreads (List.cons_ne_nil x xs) (.inl rfl)
    rwa [List.append_nil] at hread

end Unscramble.Elements
