import Unscramble.Proofs.Text.Cutting
import Unscramble.Regex.Reader

/-! Expressions that are written one element after the other: every element is read as its piece,
whatever stands behind it, if only no repetition sign does. -/
namespace Unscramble.Regex
variable {t rest : Text} {c : Char} {p : Piece} {bound : Nat}

def piece? (t : Text) : Option Piece := do
  match ← readChoice (4 * t.length + 4) t with
  | (ps, []) => some (.choice ps)
  | _ => none

theorem read?_eq (t : Text) : read? t = (piece? t).bind Piece.toRegex? := by
  rw [read?, piece?]
  cases readChoice (4 * t.length + 4) t with
  | none => rfl
  | some found =>
    obtain ⟨ps, rest⟩ := found
    cases rest <;> rfl

def signs : Text := ['*', '+', '?', '\x7b']

def NoSign (t : Text) : Prop := ∀ c ∈ t.head?, c ∉ signs

/-- What no sequence goes on with. -/
def IsBehind (t : Text) : Prop := ∀ c ∈ t.head?, c = '|' ∨ c = ')'

theorem isBehind_nil : IsBehind [] := nofun

theorem IsBehind.noSign (h : IsBehind t) : NoSign t := by
  intro c hc
  obtain rfl | rfl := h c hc <;> decide

theorem times?_of_noSign (h : NoSign t) : times? t = some none := by
  cases t with
  | nil => rfl
  | cons c t =>
    have hc : c ∉ signs := h c rfl
    simp only [signs, List.mem_cons, List.not_mem_nil, or_false, not_or] at hc
    rw [times?.eq_5]
    all_goals simp_all

theorem repeats?_of_noSign (h : NoSign rest) : repeats? (bound + 1) p rest = some (p, rest) := by
  rw [repeats?, times?_of_noSign h]
  rfl

theorem repeats?_sign {s : Char} {k : Times} (hs : times? (s :: rest) = some (some (k, rest)))
    (h : NoSign rest) : repeats? (bound + 2) p (s :: rest) = some (p.repeated true k, rest) := by
  have hlazy : ∀ t, rest ≠ '?' :: t := by
    rintro t rfl
    exact h '?' rfl (by decide)
  have hend : repeats? (bound + 1) (p.repeated true k) rest = some (p.repeated true k, rest) :=
    repeats?_of_noSign h
  rw [repeats?, hs]
  simpa using hend

theorem readSequence_behind (h : IsBehind rest) : readSequence (bound + 1) rest = some ([], rest) := by
  cases rest with
  | nil => rfl
  | cons c t => rw [readSequence, if_pos (by simpa using h c rfl)]

/-- A text together with the piece that it is meant to write. -/
structure Element where
  text : Text
  piece : Piece

namespace Element
variable {e : Element} {es : List Element}

/-- The element is read without regard to what follows it. -/
def IsRead (e : Element) : Prop := ∀ bound rest, 4 * e.text.length ≤ bound → NoSign rest →
  readSequence (bound + 1) (e.text ++ rest) =
    (readSequence bound rest).map fun (ps, u) => (e.piece :: ps, u)

theorem IsRead.exists_cons (h : e.IsRead) : ∃ c t, e.text = c :: t ∧ c ∉ signs := by
  cases ht : e.text with
  | nil =>
    have hread := h 0 [] (by rw [ht]; rfl) isBehind_nil.noSign
    rw [ht] at hread
    cases hread
  | cons c t =>
    refine ⟨c, t, rfl, fun hc => ?_⟩
    have hread := h (4 * e.text.length + 1) [] (by omega) isBehind_nil.noSign
    rw [ht, List.append_nil, readSequence_behind isBehind_nil, readSequence] at hread
    have hfail : readAtom (4 * (c :: t).length + 1) c t = none := by
      simp only [signs, List.mem_cons, List.not_mem_nil, or_false] at hc
      obtain rfl | rfl | rfl | rfl := hc <;> rfl
    have hgoes : (decide (c = '|') || decide (c = ')')) = false := by
      simp only [signs, List.mem_cons, List.not_mem_nil, or_false] at hc
      obtain rfl | rfl | rfl | rfl := hc <;> rfl
    rw [hgoes, hfail] at hread
    cases hread

theorem IsRead.noSign (h : e.IsRead) : NoSign (e.text ++ rest) := by
  obtain ⟨c, t, ht, hc⟩ := h.exists_cons
  rw [ht]
  exact fun d hd => Option.some.inj hd ▸ hc

theorem IsRead.length_pos (h : e.IsRead) : 0 < e.text.length := by
  obtain ⟨c, t, ht, -⟩ := h.exists_cons
  rw [ht]
  exact Nat.succ_pos _

def IsAtom (e : Element) : Prop := ∃ c t, e.text = c :: t ∧ c ≠ '|' ∧ c ≠ ')' ∧
  ∀ bound rest, 4 * t.length ≤ bound → readAtom (bound + 1) c (t ++ rest) = some (e.piece, rest)

theorem IsAtom.isRead (h : e.IsAtom) : e.IsRead := by
  obtain ⟨c, t, ht, hbar, hparen, hread⟩ := h
  intro bound rest hb hrest
  rw [ht, List.length_cons] at hb
  obtain ⟨bound, rfl⟩ : ∃ n, bound = n + 1 := Nat.exists_eq_add_one.2 (by omega)
  rw [ht, List.cons_append, readSequence, if_neg (by simp [hbar, hparen]),
    hread bound rest (by omega)]
  simp only [Option.bind_eq_bind, Option.bind_some, repeats?_of_noSign hrest]
  cases readSequence (bound + 1) rest <;> rfl

def signed (e : Element) (sign : Char) (k : Times) : Element :=
  ⟨e.text ++ [sign], e.piece.repeated true k⟩

theorem IsAtom.signed {s : Char} {k : Times} (h : e.IsAtom)
    (hs : ∀ rest, times? (s :: rest) = some (some (k, rest))) : (e.signed s k).IsRead := by
  obtain ⟨c, t, ht, hbar, hparen, hread⟩ := h
  intro bound rest hb hrest
  simp only [Element.signed, ht, List.length_append, List.length_cons, List.length_nil] at hb
  obtain ⟨bound, rfl⟩ : ∃ n, bound = n + 2 := Nat.exists_eq_add_of_le' (by omega)
  rw [Element.signed, ht, List.append_assoc, List.cons_append, readSequence,
    if_neg (by simp [hbar, hparen]), hread (bound + 1) _ (by omega)]
  simp only [Option.bind_eq_bind, Option.bind_some, List.singleton_append,
    repeats?_sign (hs rest) hrest]
  cases readSequence (bound + 2) rest <;> rfl

def textOf (es : List Element) : Text := es.flatMap text

def sequenceOf (es : List Element) : Piece := .sequence (es.map piece)

theorem readSequence_textOf (h : ∀ e ∈ es, e.IsRead) (hb : 4 * (textOf es).length < bound)
    (hrest : IsBehind rest) :
    readSequence bound (textOf es ++ rest) = some (es.map piece, rest) := by
  induction es generalizing bound with
  | nil =>
    obtain ⟨bound, rfl⟩ : ∃ n, bound = n + 1 := Nat.exists_eq_add_one.2 (by omega)
    exact readSequence_behind hrest
  | cons e es ih =>
    obtain ⟨he, hes⟩ := List.forall_mem_cons.1 h
    have hpos := he.length_pos
    have hlength : (textOf (e :: es)).length = e.text.length + (textOf es).length := by
      rw [textOf, List.flatMap_cons, List.length_append]
      rfl
    obtain ⟨bound, rfl⟩ : ∃ n, bound = n + 1 := Nat.exists_eq_add_one.2 (by omega)
    have hnext : NoSign (textOf es ++ rest) := by
      cases es with
      | nil => exact hrest.noSign
      | cons e' es =>
        rw [textOf, List.flatMap_cons, List.append_assoc]
        exact (hes e' (.head _)).noSign
    have hsplit : textOf (e :: es) ++ rest = e.text ++ (textOf es ++ rest) := by
      rw [textOf, List.flatMap_cons, List.append_assoc]
      rfl
    rw [hsplit, he bound _ (by omega) hnext, ih hes (by omega)]
    rfl

def choiceText (ess : List (List Element)) : Text := ['|'].intercalate (ess.map textOf)

theorem choiceText_singleton (es : List Element) : choiceText [es] = textOf es :=
  List.intercalate_singleton

def choiceOf (ess : List (List Element)) : List Piece := ess.map sequenceOf

theorem readChoice_choiceText {ess : List (List Element)} (hne : ess ≠ [])
    (h : ∀ es ∈ ess, ∀ e ∈ es, e.IsRead) (hb : 4 * (choiceText ess).length + 1 < bound)
    (hrest : rest = [] ∨ ∃ t, rest = ')' :: t) :
    readChoice bound (choiceText ess ++ rest) = some (choiceOf ess, rest) := by
  have hbehind : IsBehind rest := by
    obtain rfl | ⟨t, rfl⟩ := hrest
    · nofun
    · exact fun c hc => .inr (Option.some.inj hc).symm
  induction ess generalizing bound with
  | nil => exact absurd rfl hne
  | cons es ess ih =>
    obtain ⟨hes, hess⟩ := List.forall_mem_cons.1 h
    obtain ⟨bound, rfl⟩ : ∃ n, bound = n + 1 := Nat.exists_eq_add_one.2 (by omega)
    cases ess with
    | nil =>
      rw [choiceText_singleton] at hb ⊢
      rw [readChoice, readSequence_textOf hes (by omega) hbehind]
      obtain rfl | ⟨t, rfl⟩ := hrest <;> rfl
    | cons es' ess =>
      have htext : choiceText (es :: es' :: ess) = textOf es ++ '|' :: choiceText (es' :: ess) := by
        simp only [choiceText, List.map_cons, List.intercalate_cons_cons, List.append_assoc,
          List.singleton_append]
      rw [htext, List.length_append, List.length_cons] at hb
      have hbar : IsBehind ('|' :: (choiceText (es' :: ess) ++ rest)) :=
        fun c hc => .inl (Option.some.inj hc).symm
      have hothers : readChoice bound (choiceText (es' :: ess) ++ rest) =
          some (choiceOf (es' :: ess), rest) := ih (List.cons_ne_nil _ _) hess (by omega)
      rw [htext, List.append_assoc, List.cons_append, readChoice,
        readSequence_textOf hes (by omega) hbar]
      simp only [Option.bind_eq_bind, Option.bind_some, hothers]
      rfl

/-- Elements that are read one after the other are read as the pieces they are meant to write. -/
theorem piece?_textOf (h : ∀ e ∈ es, e.IsRead) : piece? (textOf es) = some (sequenceOf es) := by
  have hread : readChoice (4 * (textOf es).length + 4) (choiceText [es] ++ []) = some (choiceOf [es], []) :=
    readChoice_choiceText (List.cons_ne_nil es []) (List.forall_mem_singleton.2 h)
      (by rw [choiceText_singleton]; omega) (.inl rfl)
  rw [choiceText_singleton, List.append_nil] at hread
  rw [piece?, hread]
  rfl

def char (c : Char) : Element := ⟨[c], .ofChar c⟩

def marks : Text := ['(', ')', '[', '\\', '.', '^', '$', '|'] ++ signs

theorem isAtom_char (h : c ∉ marks) : (char c).IsAtom := by
  simp only [marks, signs, List.cons_append, List.nil_append, List.mem_cons, List.not_mem_nil,
    or_false, not_or] at h
  obtain ⟨hopen, hclose, hbracket, hbackslash, hdot, hcaret, hdollar, hbar, hstar, hplus, hquestion,
    hbrace⟩ := h
  refine ⟨c, [], rfl, hbar, hclose, fun bound rest _ => ?_⟩
  rw [readAtom.eq_def]
  simp only [if_neg hopen, if_neg hbracket, if_neg hbackslash, if_neg hdot, if_neg hcaret,
    if_neg hdollar, hstar, hplus, hquestion, hbrace, decide_false, Bool.or_false, Bool.false_eq_true,
    if_false]
  rfl

theorem isAtom_escape {x : Escape} (h : ∀ rest, Escape.read? (t ++ rest) = some (x, rest)) :
    IsAtom ⟨'\\' :: t, .ofEscape x⟩ := by
  refine ⟨'\\', t, rfl, by decide, by decide, fun bound rest _ => ?_⟩
  rw [readAtom.eq_def]
  simp only [if_neg (show '\\' ≠ '(' by decide), if_neg (show '\\' ≠ '[' by decide), if_true, h]
  rfl

theorem readGroup_choiceText {key : Option GroupKey} {ess : List (List Element)} (hne : ess ≠ [])
    (h : ∀ es ∈ ess, ∀ e ∈ es, e.IsRead) (hb : 4 * (choiceText ess).length + 2 < bound) :
    readGroup bound key (choiceText ess ++ ')' :: rest) =
      some ((Piece.choice (choiceOf ess)).grouped key, rest) := by
  obtain ⟨bound, rfl⟩ : ∃ n, bound = n + 1 := Nat.exists_eq_add_one.2 (by omega)
  rw [readGroup, readChoice_choiceText hne h (by omega) (.inr ⟨rest, rfl⟩)]
  rfl

def oneOf (ess : List (List Element)) : Element :=
  ⟨'(' :: '?' :: ':' :: (choiceText ess ++ [')']), (Piece.choice (choiceOf ess)).grouped none⟩

theorem isAtom_oneOf {ess : List (List Element)} (hne : ess ≠ [])
    (h : ∀ es ∈ ess, ∀ e ∈ es, e.IsRead) : (oneOf ess).IsAtom := by
  refine ⟨'(', '?' :: ':' :: (choiceText ess ++ [')']), rfl, by decide, by decide,
    fun bound rest hb => ?_⟩
  simp only [List.length_cons, List.length_append, List.length_nil] at hb
  have hgroup : readGroup bound none (choiceText ess ++ ')' :: rest) =
      some ((Piece.choice (choiceOf ess)).grouped none, rest) := readGroup_choiceText hne h (by omega)
  rw [readAtom.eq_def]
  simpa [oneOf] using hgroup

def named (name : Text) (es : List Element) : Element :=
  ⟨'(' :: '?' :: 'P' :: '<' :: (name ++ '>' :: textOf es ++ [')']), (sequenceOf es).grouped (some (.named name))⟩

theorem isAtom_named {name : Text} (hname : ∀ rest, groupName? (name ++ '>' :: rest) = some (name, rest))
    (h : ∀ e ∈ es, e.IsRead) : (named name es).IsAtom := by
  refine ⟨'(', '?' :: 'P' :: '<' :: (name ++ '>' :: textOf es ++ [')']), rfl, by decide, by decide,
    fun bound rest hb => ?_⟩
  simp only [List.length_cons, List.length_append, List.length_nil] at hb
  have hgroup : readGroup bound (some (.named name)) (choiceText [es] ++ ')' :: rest) =
      some ((sequenceOf es).grouped (some (.named name)), rest) :=
    readGroup_choiceText (List.cons_ne_nil es []) (List.forall_mem_singleton.2 h)
      (by rw [choiceText_singleton]; omega)
  rw [choiceText_singleton] at hgroup
  rw [readAtom.eq_def]
  simp only [if_true, List.cons_append, List.append_assoc, List.nil_append, hname]
  exact hgroup

end Element

namespace Bracket
variable {items : List Bracket} {ranges : List (Char × Char)}

def marks : Text := ['[', ']', '\\', '-', '&', '~', '^']

def rangeText (r : Char × Char) : Text := if r.1 = r.2 then [r.1] else [r.1, '-', r.2]

def ofRange (r : Char × Char) : Bracket := ⟨.ofChars [r], 0⟩

structure IsPlain (r : Char × Char) : Prop where
  first : r.1 ∉ marks
  last : r.2 ∉ marks
  le : r.1 ≤ r.2

instance (r : Char × Char) : Decidable (IsPlain r) :=
  decidable_of_iff (r.1 ∉ marks ∧ r.2 ∉ marks ∧ r.1 ≤ r.2)
    ⟨fun h => ⟨h.1, h.2.1, h.2.2⟩, fun h => ⟨h.first, h.last, h.le⟩⟩

theorem not_mem_marks {c : Char} : c ∉ marks ↔
    c ≠ '[' ∧ c ≠ ']' ∧ c ≠ '\\' ∧ c ≠ '-' ∧ c ≠ '&' ∧ c ≠ '~' ∧ c ≠ '^' := by
  simp only [marks, List.mem_cons, List.not_mem_nil, or_false, not_or]

theorem operator?_of_not_mem {c : Char} (h : c ∉ marks) (t : Text) : operator? (c :: t) = none := by
  rw [not_mem_marks] at h
  rw [operator?.eq_4]
  all_goals simp_all

theorem item?_of_not_mem {c : Char} (h : c ∉ marks) (t : Text) : item? (c :: t) = some (.char c, t) := by
  rw [item?.eq_2]
  rintro rfl
  exact h (by decide)

theorem range?_rangeText {r : Char × Char} (hr : IsPlain r) {d : Char} (hd : d ≠ '-') (t : Text) :
    range? (rangeText r ++ d :: t) = some (.ofChars [r], d :: t) := by
  obtain ⟨lo, hi⟩ := r
  obtain ⟨hlo, hhi, hle⟩ := hr
  rw [rangeText]
  split
  next heq =>
    obtain rfl : lo = hi := heq
    simp [range?, item?_of_not_mem hlo, hd, range?.alone?]
  · obtain ⟨-, hclose, -, hdash, -⟩ := not_mem_marks.1 hhi
    have hle : lo ≤ hi := hle
    simp [range?, item?_of_not_mem hlo, item?_of_not_mem hhi, hclose, hdash, hle]

theorem readUnion_plain {c : Char} (h : c ∉ marks) (t : Text) : readUnion (bound + 1) items (c :: t) =
    (range? (c :: t)).bind fun (k, t) => readUnion bound (items ++ [⟨k, 0⟩]) t := by
  obtain ⟨hopen, hclose, -⟩ := not_mem_marks.1 h
  rw [readUnion.eq_def]
  simp only [operator?_of_not_mem h, hclose, decide_false, Option.isSome_none, Bool.or_self,
    Bool.false_eq_true, if_false, if_neg hopen]
  rfl

theorem exists_rangeText (r : Char × Char) : ∃ t, rangeText r = r.1 :: t := by
  rw [rangeText]
  split
  · exact ⟨[], rfl⟩
  · exact ⟨['-', r.2], rfl⟩

theorem readUnion_ranges (h : ∀ r ∈ ranges, IsPlain r) (hb : ranges.length < bound) (t : Text) :
    readUnion bound items (ranges.flatMap rangeText ++ ']' :: t) =
      some (union (items ++ ranges.map ofRange), ']' :: t) := by
  induction ranges generalizing bound items with
  | nil =>
    obtain ⟨bound, rfl⟩ : ∃ n, bound = n + 1 := Nat.exists_eq_add_one.2 hb
    simp [readUnion]
  | cons r ranges ih =>
    obtain ⟨bound, rfl⟩ : ∃ n, bound = n + 1 := Nat.exists_eq_add_one.2 (Nat.zero_lt_of_lt hb)
    obtain ⟨hr, hranges⟩ := List.forall_mem_cons.1 h
    obtain ⟨d, u, hrest, hd⟩ : ∃ d u, ranges.flatMap rangeText ++ ']' :: t = d :: u ∧ d ≠ '-' := by
      cases ranges with
      | nil => exact ⟨']', t, rfl, by decide⟩
      | cons r' ranges =>
        obtain ⟨v, hv⟩ := exists_rangeText r'
        have hfirst := (hranges r' (.head _)).first
        exact ⟨r'.1, _, by rw [List.flatMap_cons, hv]; rfl, (not_mem_marks.1 hfirst).2.2.2.1⟩
    obtain ⟨v, hv⟩ := exists_rangeText r
    have hrange := range?_rangeText hr hd u
    rw [List.flatMap_cons, List.append_assoc, hrest]
    rw [hv, List.cons_append] at hrange ⊢
    rw [readUnion_plain hr.first, hrange, ← hrest]
    have hothers : readUnion bound (items ++ [ofRange r]) (ranges.flatMap rangeText ++ ']' :: t) =
        some (union (items ++ [ofRange r] ++ ranges.map ofRange), ']' :: t) :=
      ih hranges (Nat.lt_of_succ_lt_succ hb)
    rw [List.append_assoc] at hothers
    exact hothers

def ofRanges (negated : Bool) (rs : List (Char × Char)) : Bracket :=
  (union (rs.map ofRange)).enclosed negated

def bracketText (negated : Bool) (rs : List (Char × Char)) : Text :=
  (if negated then ['^'] else []) ++ rs.flatMap rangeText ++ [']']

theorem opening_plain {c : Char} (h : c ∉ marks) (negated : Bool) (t : Text) :
    opening ((if negated then ['^'] else []) ++ c :: t) = (negated, [], c :: t) := by
  obtain ⟨-, hclose, -, hdash, -, -, hcaret⟩ := not_mem_marks.1 h
  cases negated <;> simp [opening, hclose, hdash, hcaret]

theorem length_le_ranges (ranges : List (Char × Char)) :
    ranges.length ≤ (ranges.flatMap rangeText).length := by
  induction ranges with
  | nil => exact Nat.le_refl 0
  | cons r ranges ih =>
    obtain ⟨v, hv⟩ := exists_rangeText r
    rw [List.flatMap_cons, hv, List.cons_append, List.length_cons, List.length_cons,
      List.length_append]
    omega

theorem read?_bracketText (negated : Bool) (h : ∀ r ∈ ranges, IsPlain r) (hne : ranges ≠ [])
    (rest : Text) : read? (bracketText negated ranges ++ rest) = some (ofRanges negated ranges, rest) := by
  obtain ⟨r, rs, rfl⟩ := List.exists_cons_of_ne_nil hne
  have htext : bracketText negated (r :: rs) ++ rest =
      (if negated then ['^'] else []) ++ ((r :: rs).flatMap rangeText ++ ']' :: rest) := by
    simp [bracketText]
  obtain ⟨v, hv⟩ := exists_rangeText r
  have hopening : opening (bracketText negated (r :: rs) ++ rest) =
      (negated, [], (r :: rs).flatMap rangeText ++ ']' :: rest) := by
    rw [htext, List.flatMap_cons, hv]
    exact opening_plain (h r (.head _)).first negated _
  have hlength : (r :: rs).length ≤ (bracketText negated (r :: rs) ++ rest).length := by
    have hle := length_le_ranges (r :: rs)
    rw [htext, List.length_append, List.length_append]
    omega
  have hunion : readUnion (3 * (bracketText negated (r :: rs) ++ rest).length + 2) []
      ((r :: rs).flatMap rangeText ++ ']' :: rest) = some (union ((r :: rs).map ofRange), ']' :: rest) :=
    readUnion_ranges h (by omega) rest
  have hclose (b : Bracket) (n : Nat) : readOperations (n + 1) b (']' :: rest) = some (b, rest) := rfl
  rw [read?, readFrom, hopening]
  simp only [Option.bind_eq_bind, hunion, Option.bind_some, hclose]
  rfl

end Bracket

namespace Element

def bracket (negated : Bool) (rs : List (Char × Char)) : Element :=
  ⟨'[' :: Bracket.bracketText negated rs, .ofBracket (.ofRanges negated rs)⟩

theorem isAtom_bracket (negated : Bool) {rs : List (Char × Char)}
    (h : ∀ r ∈ rs, Bracket.IsPlain r) (hne : rs ≠ []) : (bracket negated rs).IsAtom := by
  refine ⟨'[', Bracket.bracketText negated rs, rfl, by decide, by decide, fun bound rest _ => ?_⟩
  rw [readAtom.eq_def]
  simp [Bracket.read?_bracketText negated h hne, bracket]

end Element

theorem groupNames_sequence (rs : List Regex) : (sequence rs).groupNames = rs.flatMap groupNames := by
  induction rs with
  | nil => rfl
  | cons r rs ih =>
    cases rs with
    | nil => simp [sequence]
    | cons s rs =>
      rw [sequence, groupNames, ih]
      rfl

namespace Piece
variable {ps : List Piece} {n : Nat}

def regex? (p : Piece) : Option Regex :=
  if p.depth ≤ maxDepth && p.names.Nodup then some (Regex.sequence p.parts) else none

theorem toRegex?_eq (p : Piece) : p.toRegex? = p.regex?.filter fits := by
  rw [toRegex?, regex?]
  by_cases h : (decide (p.depth ≤ maxDepth) && decide p.names.Nodup) = true
  · simp only [h, Bool.true_and, if_true, Option.filter_some]
  · simp only [Bool.eq_false_iff.2 h, Bool.false_and, Bool.false_eq_true, if_false, Option.filter_none]

theorem parts_sequence (ps : List Piece) : (sequence ps).parts = ps.flatMap parts := by
  match ps with
  | [] => rfl
  | [p] => simp [sequence]
  | p :: q :: ps => rfl

theorem names_sequence (ps : List Piece) : (sequence ps).names = ps.flatMap names := by
  match ps with
  | [] => rfl
  | [p] => simp [sequence]
  | p :: q :: ps => rfl

theorem foldl_max_le {ns : List Nat} {m : Nat} (hm : m ≤ n) (h : ∀ k ∈ ns, k ≤ n) :
    ns.foldl max m ≤ n := by
  induction ns generalizing m with
  | nil => exact hm
  | cons k ns ih =>
    obtain ⟨hk, hns⟩ := List.forall_mem_cons.1 h
    exact ih (Nat.max_le.2 ⟨hm, hk⟩) hns

theorem depth_sequence (h : ∀ p ∈ ps, p.depth ≤ n) : (sequence ps).depth ≤ 1 + n := by
  match ps with
  | [] => exact Nat.zero_le _
  | [p] => exact Nat.le_add_left_of_le (h p (.head _))
  | p :: q :: ps => exact Nat.add_le_add_left (foldl_max_le (Nat.zero_le n) (List.forall_mem_map.2 h)) 1

end Piece

/-- The expression that a text writes, with any room that it needs. -/
def expression? (t : Text) : Option Regex := (piece? t).bind Piece.regex?

theorem read?_eq_filter (t : Text) : read? t = (expression? t).filter fits := by
  rw [read?_eq, expression?]
  cases piece? t with
  | none => rfl
  | some p => exact p.toRegex?_eq

end Unscramble.Regex
