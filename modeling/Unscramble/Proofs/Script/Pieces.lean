import Unscramble.Proofs.Script.Slicing

/-! There is one way to cut a text at commas so that no piece has a top-level comma and every piece
but the last closes what it opens. Splitting finds it, and so does reading the elements of an array
in which no function stands. -/
namespace Unscramble
variable {t a b x : Text} {ps : List Text}

namespace Commas
variable {r r' : Reading}

def Reading.over (r : Reading) (x : Text) : Reading := x.foldl Reading.step r

/-- The text is read to its end at depth zero and outside a string. -/
def IsClosed (x : Text) : Prop := Reading.start.over x = .start

def IsCommaFree (x : Text) : Prop := ∀ u v, x = u ++ ',' :: v → ¬IsClosed u

structure IsCutting (t : Text) (ps : List Text) : Prop where
  ne_nil : ps ≠ []
  joined : [','].intercalate ps = t
  commaFree : ∀ p ∈ ps, IsCommaFree p
  closed : ∀ p ∈ ps.dropLast, IsClosed p

theorem through_eq_some_iff : through r x = some r' ↔
    (∀ u v, x = u ++ ',' :: v → r.over u ≠ .start) ∧ r.over x = r' := by
  induction x generalizing r with
  | nil => simp [through, Reading.over]
  | cons c x ih =>
    by_cases hc : r.cutsAt c
    · have hstart : r = .start ∧ c = ',' := by simpa [Reading.cutsAt] using hc
      obtain ⟨rfl, rfl⟩ := hstart
      refine ⟨fun h => ?_, fun h => absurd rfl (h.1 [] x rfl)⟩
      rw [through, if_pos hc] at h
      cases h
    · rw [through, if_neg hc, ih]
      refine and_congr_left fun _ => ⟨fun h u v hx => ?_, fun h u v hx => h (c :: u) v (by rw [hx]; rfl)⟩
      cases u with
      | nil =>
        obtain ⟨rfl, -⟩ := List.cons.inj hx
        exact fun hr => hc (by simp [Reading.cutsAt, show r = .start from hr])
      | cons d u =>
        obtain ⟨rfl, hx'⟩ := List.cons.inj hx
        exact h u v hx'

theorem whole_iff_isClosed : Whole x ↔ IsCommaFree x ∧ IsClosed x := through_eq_some_iff

theorem isCommaFree_iff : IsCommaFree x ↔ ∃ r, through .start x = some r := by
  simp only [through_eq_some_iff, exists_and_left, exists_eq', and_true]
  rfl

theorem cutFrom?_cases (r : Reading) (t : Text) :
    (cutFrom? r t = none ∧ ∃ r', through r t = some r') ∨
      ∃ a b, cutFrom? r t = some (a, b) ∧ through r a = some .start := by
  induction t generalizing r with
  | nil => exact .inl ⟨rfl, r, rfl⟩
  | cons c t ih =>
    by_cases hc : r.cutsAt c
    · obtain ⟨rfl, -⟩ : r = .start ∧ c = ',' := by simpa [Reading.cutsAt] using hc
      exact .inr ⟨[], t, by rw [cutFrom?, if_pos hc], rfl⟩
    · rw [cutFrom?, if_neg hc]
      simp only [through, if_neg hc]
      obtain ⟨hnone, hr⟩ | ⟨a, b, hsome, ha⟩ := ih (r.step c)
      · exact .inl ⟨by rw [hnone]; rfl, hr⟩
      · exact .inr ⟨c :: a, b, by rw [hsome]; rfl, by rw [through, if_neg hc, ha]⟩

theorem isCutting_singleton : IsCutting t [x] ↔ x = t ∧ IsCommaFree x := by
  constructor
  · rintro ⟨-, hjoined, hfree, -⟩
    rw [List.intercalate_singleton] at hjoined
    exact ⟨hjoined, hfree x (.head _)⟩
  · rintro ⟨rfl, hfree⟩
    exact ⟨List.cons_ne_nil _ _, List.intercalate_singleton, List.forall_mem_singleton.2 hfree, nofun⟩

theorem isCutting_cons (hne : ps ≠ []) :
    IsCutting t (x :: ps) ↔ ∃ b, t = x ++ ',' :: b ∧ Whole x ∧ IsCutting b ps := by
  obtain ⟨y, ys, rfl⟩ := List.exists_cons_of_ne_nil hne
  constructor
  · rintro ⟨-, rfl, hfree, hclosed⟩
    obtain ⟨hx, hys⟩ := List.forall_mem_cons.1 hfree
    obtain ⟨hx', hys'⟩ := List.forall_mem_cons.1 hclosed
    exact ⟨[','].intercalate (y :: ys), by rw [List.intercalate_cons_cons]; simp,
      whole_iff_isClosed.2 ⟨hx, hx'⟩, hne, rfl, hys, hys'⟩
  · rintro ⟨_, rfl, hx, -, rfl, hys, hys'⟩
    obtain ⟨hfree, hclosed⟩ := whole_iff_isClosed.1 hx
    exact ⟨List.cons_ne_nil _ _, by rw [List.intercalate_cons_cons]; simp,
      List.forall_mem_cons.2 ⟨hfree, hys⟩, List.forall_mem_cons.2 ⟨hclosed, hys'⟩⟩

theorem rawPieces_of_isCutting (h : IsCutting t ps) : rawPieces t = ps := by
  induction ps generalizing t with
  | nil => exact absurd rfl h.ne_nil
  | cons x ps ih =>
    rw [rawPieces, rawPiecesFrom_of_cutFrom?]
    by_cases hps : ps = []
    · subst hps
      obtain ⟨rfl, hfree⟩ := isCutting_singleton.1 h
      obtain ⟨r, hr⟩ := isCommaFree_iff.1 hfree
      have hcut := cutFrom?_of_through hr []
      rw [List.append_nil] at hcut
      rw [hcut]
      rfl
    · obtain ⟨b, rfl, hx, hb⟩ := (isCutting_cons hps).1 h
      rw [← cut?, cut?_append hx]
      exact congrArg (x :: ·) (ih hb)

theorem isCutting_rawPieces (t : Text) : IsCutting t (rawPieces t) := by
  induction hn : t.length using Nat.strong_induction_on generalizing t with
  | _ n ih =>
    subst hn
    rw [rawPieces, rawPiecesFrom_of_cutFrom?]
    obtain ⟨hnone, hr⟩ | ⟨a, b, hsome, ha⟩ := cutFrom?_cases .start t
    · rw [hnone]
      exact isCutting_singleton.2 ⟨rfl, isCommaFree_iff.2 hr⟩
    · obtain rfl := eq_of_cutFrom? hsome
      have hb := ih b.length (by rw [List.length_append, List.length_cons]; omega) b rfl
      rw [hsome]
      exact (isCutting_cons hb.ne_nil).2 ⟨b, rfl, ha, hb⟩

theorem dropEmptyLast_concat (xs : List Text) (x : Text) :
    dropEmptyLast (xs ++ [x]) = xs ++ if x = [] then [] else [x] := by
  induction xs with
  | nil => simp [dropEmptyLast]
  | cons y ys ih =>
    obtain ⟨z, zs, hz⟩ : ∃ z zs, ys ++ [x] = z :: zs := List.exists_cons_of_ne_nil (by simp)
    rw [List.cons_append, hz, dropEmptyLast, ← hz, ih, List.cons_append]

/-- There is exactly one cutting of a text. The pieces are its parts, trimmed, but for a last one that
is blank, and starting anew behind every comma finds the same. -/
theorem pieces_of_only_cutting (t : Text) : ∃ front last,
    (∀ ps, IsCutting t ps ↔ ps = front ++ [last]) ∧
    pieces t = front.map Text.trim ++ (if Text.Blank last then [] else [last.trim]) ∧
    slicedPieces (t.length + 1) t = .ok (pieces t) := by
  have hcutting := isCutting_rawPieces t
  obtain ⟨front, last, hraw⟩ := (List.eq_nil_or_concat' (rawPieces t)).resolve_left hcutting.ne_nil
  refine ⟨front, last, fun ps => ⟨fun hps => ?_, ?_⟩, ?_, slicedPieces_eq_pieces (Nat.lt_succ_self _)⟩
  · rw [← hraw, rawPieces_of_isCutting hps]
  · rintro rfl
    exact hraw ▸ hcutting
  · rw [pieces, hraw, List.map_append, List.map_singleton, dropEmptyLast_concat]
    simp only [Text.trim_eq_nil_iff]

end Commas

namespace Elements
open Commas

theorem cut?_blank_append {w : Text} (hw : Text.Blank w) (t : Text) :
    cut? (w ++ t) = (cut? t).map fun (a, b) => (w ++ a, b) :=
  cutFrom?_of_through (whole_of_blank hw) t

theorem not_keyword_of_trimEnd (h : ¬keyword <+: x.trimEnd) : ¬keyword <+: x := by
  obtain ⟨w, hw, hx⟩ := Text.exists_trimEnd x
  rw [hx]
  exact not_keyword_append h (not_mem_keyword_of_blank hw)

theorem trim_front {w : Text} (hw : Text.Blank w) (ha : (a ++ b).head?.any Text.isBlank = false) :
    Text.trim (w ++ a) = a.trimEnd := by
  have hhead : a.head?.any Text.isBlank = false := by
    cases a with
    | nil => rfl
    | cons c a => exact ha
  calc Text.trim (w ++ a) = Text.trimEnd (Text.trimStart (w ++ a)) := rfl
    _ = Text.trimEnd (Text.trimStart a) := by rw [Text.trimStart_blank_append hw]
    _ = a.trimEnd := by rw [Text.trimStart, Text.dropWhile_eq_self hhead]

theorem collect_eq_pieces {bound : Nat} (hb : t.length ≤ bound)
    (h : ∀ p ∈ pieces t, ¬keyword <+: p) : collect bound t = .ok (pieces t) := by
  induction bound generalizing t with
  | zero =>
    obtain rfl := List.length_eq_zero_iff.1 (Nat.le_zero.1 hb)
    rfl
  | succ bound ih =>
    obtain ⟨w, hw, ht⟩ := Text.exists_trimStart t
    have hcut : cut? t = (cut? t.trimStart).map fun (a, b) => (w ++ a, b) :=
      (congrArg cut? ht).trans (cut?_blank_append hw t.trimStart)
    by_cases hblank : Text.Blank t
    · rw [collect_blank hblank, pieces_eq, cut?_eq_none (whole_of_blank hblank)]
      simp only [Text.trim_eq_nil_iff.2 hblank, List.isEmpty_nil, if_true]
    have htrim : t.trim ≠ [] := mt Text.trim_eq_nil_iff.1 hblank
    have hstart : t.trimStart ≠ [] := mt Text.trimStart_eq_nil_iff.1 hblank
    rw [pieces_eq, hcut] at h ⊢
    rw [collect, if_neg (by simpa using hstart), next]
    cases hc : cut? t.trimStart with
    | none =>
      simp only [hc, Option.map_none, List.isEmpty_iff, if_neg htrim] at h ⊢
      have hk : ¬keyword <+: t.trimStart := not_keyword_of_trimEnd (h t.trim (.head _))
      rw [if_neg (by simpa using hk)]
      simp only [Outcome.pure_eq, Outcome.ok_bind, collect_blank Text.blank_nil]
      rfl
    | some parts =>
      obtain ⟨a, b⟩ := parts
      have hs := eq_of_cutFrom? hc
      have hfront : Text.trim (w ++ a) = a.trimEnd :=
        trim_front hw (hs ▸ Text.any_head?_trimStart t)
      simp only [hc, Option.map_some, hfront] at h ⊢
      obtain ⟨ha, hb'⟩ := List.forall_mem_cons.1 h
      have hk : ¬keyword <+: a ++ ',' :: b := not_keyword_comma (not_keyword_of_trimEnd ha) b
      have hlength : b.length ≤ bound := by
        have hle := trimStart_length_le t
        rw [hs, List.length_append, List.length_cons] at hle
        omega
      rw [hs, if_neg (by simpa using hk)]
      simp only [Outcome.pure_eq, Outcome.ok_bind, ih hlength hb']

/-- Where no piece begins a function, the elements of an array are the pieces of what its brackets
enclose. -/
theorem ofLiteral_eq_pieces {body : Text} (h : ∀ p ∈ pieces body, ¬keyword <+: p) :
    ofLiteral ('[' :: (body ++ [']'])) = .ok (pieces body) :=
  (ofLiteral_bracket body).trans (collect_eq_pieces (Nat.le_refl _) h)

def unbalancedBody : Text := " x],,(y,']) ".toList

theorem ofLiteral_unbalancedBody :
    (∀ p ∈ pieces unbalancedBody, ¬keyword <+: p) ∧
    ofLiteral ('[' :: (unbalancedBody ++ [']'])) = .ok ["x]".toList, [], "(y,'])".toList] := by
  have hpieces : pieces unbalancedBody = ["x]".toList, [], "(y,'])".toList] := by decide
  have hfunctions : ∀ p ∈ pieces unbalancedBody, ¬keyword <+: p := by
    rw [hpieces]
    decide
  have hread := ofLiteral_eq_pieces hfunctions
  rw [hpieces] at hread
  exact ⟨hfunctions, hread⟩

end Elements
end Unscramble
