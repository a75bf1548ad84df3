import Unscramble.Plan.ThrottlingScript
import Unscramble.Proofs.Definedness
import Unscramble.Proofs.Script.Elements
import Unscramble.Proofs.Script.Octets
import Unscramble.Proofs.Sequence

/-! Texts cut at offsets: what is done on the parts of a text is done on slices of it, and every
slice that is asked for is there. -/
namespace Unscramble
open Outcome
variable {t a b x : Text} {n : Nat}

namespace Text

def minus? (m n : Nat) : Option Nat := if n ≤ m then some (m - n) else none

theorem minus?_trimStart (t : Text) :
    minus? t.byteLength t.trimStart.byteLength = some (Text.byteLength (t.takeWhile isBlank)) := by
  have hparts : t.byteLength = Text.byteLength (t.takeWhile isBlank) + t.trimStart.byteLength := by
    rw [← byteLength_append, trimStart, List.takeWhile_append_dropWhile]
  rw [minus?, if_pos (by omega), hparts, Nat.add_sub_cancel]

theorem offsetOf?_char (c : Char) (t : Text) :
    offsetOf? [c] t = (splitOnce? c t).map (·.1.byteLength) := by
  induction t with
  | nil => rfl
  | cons d t ih =>
    by_cases hd : d = c
    · simp [offsetOf?, splitOnce?, hd, List.isPrefixOf]
    · have hc : (c == d) = false := by simpa using Ne.symm hd
      simp only [offsetOf?, splitOnce?, if_neg hd, List.isPrefixOf, hc, Bool.false_and,
        Bool.false_eq_true, if_false, ih, Option.map_map]
      rfl

theorem byteLength_pos (h : t ≠ []) : 0 < t.byteLength := by
  obtain ⟨c, t, rfl⟩ := List.exists_cons_of_ne_nil h
  exact Nat.add_pos_left c.utf8Size_pos _

theorem dropBytes?_behind {c : Char} (hc : c.utf8Size = 1) (a b : Text) :
    dropBytes? (a.byteLength + 1) (a ++ c :: b) = some b := by
  have hsize : a.byteLength + 1 = byteLength (a ++ [c]) := by
    rw [byteLength_append, byteLength_cons, hc, byteLength_nil]
  rw [hsize, List.append_cons a c b, dropBytes?_append]

end Text

namespace Literal
variable {text : Text} {start : Nat} {s : Span}

theorem isDefined_span (text : Text) (start : Nat) : IsDefined (span text start) := by
  by_cases ho : OpensAt text start
  · obtain ⟨l, hb, hl⟩ | hu := beginsWith_or_unterminated ho
    · exact span_of_beginsWith hb hl ▸ .ok _
    · exact hu ▸ .error (by simp)
  · obtain ⟨m, hm⟩ := span_eq_malformed ho
    exact hm ▸ .error (by simp)

theorem slice?_of_span (h : span text start = .ok s) :
    s.start = start ∧ ∃ l, text.slice? s = some l ∧ IsLiteral l := by
  obtain ⟨l, hb, hl, rfl⟩ := exists_of_span h
  exact ⟨rfl, l, slice?_eq_some_iff_beginsWith.2 ⟨hb, rfl⟩, hl⟩

theorem covered_of_slice? {l : Text} (h : text.slice? s = some l) : covered text s = .ok ⟨l, s⟩ := by
  simp only [covered, Text.match?, h, Option.map_some]

theorem at?_cases (text : Text) (start : Nat) :
    (∃ f, at? text start = .error f ∧ f ≠ .undefinedAccess) ∨
      ∃ m, at? text start = .ok m ∧ IsLiteral m.text ∧ text.slice? m.span = some m.text := by
  rw [at?]
  cases hs : span text start with
  | error f => exact .inl ⟨f, rfl, fun hf => isDefined_span text start (hf ▸ hs)⟩
  | ok s =>
    obtain ⟨-, l, hslice, hl⟩ := slice?_of_span hs
    exact .inr ⟨⟨l, s⟩, by rw [ok_bind, covered_of_slice? hslice], hl, hslice⟩

end Literal

namespace Commas
variable {r : Reading}

theorem eq_of_cutFrom? (h : cutFrom? r t = some (a, b)) : t = a ++ ',' :: b := by
  induction t generalizing r a with
  | nil => cases h
  | cons c t ih =>
    rw [cutFrom?] at h
    split at h
    next hc =>
      obtain ⟨rfl, rfl⟩ := Prod.mk.inj (Option.some.inj h)
      simp only [Reading.cutsAt, Bool.and_eq_true, beq_iff_eq] at hc
      rw [hc.2, List.nil_append]
    · obtain ⟨⟨a', b'⟩, hs, he⟩ := Option.map_eq_some_iff.1 h
      obtain ⟨rfl, rfl⟩ := Prod.mk.inj he
      rw [ih hs, List.cons_append]

theorem rawPiecesFrom_of_cutFrom? (r : Reading) (t : Text) : rawPiecesFrom r t =
    match cutFrom? r t with
    | none => [t]
    | some (a, b) => a :: rawPieces b := by
  induction t generalizing r with
  | nil => rfl
  | cons c t ih =>
    rw [rawPiecesFrom, cutFrom?]
    split
    · rfl
    · rw [ih]
      cases cutFrom? (r.step c) t <;> rfl

theorem pieces_eq (t : Text) : pieces t =
    match cut? t with
    | none => if t.trim.isEmpty then [] else [t.trim]
    | some (a, b) => a.trim :: pieces b := by
  rw [pieces, rawPieces, rawPiecesFrom_of_cutFrom?, ← cut?]
  cases cut? t with
  | none => rfl
  | some parts =>
    obtain ⟨a, b⟩ := parts
    cases hb : rawPieces b with
    | nil =>
      rw [rawPieces, rawPiecesFrom_of_cutFrom?] at hb
      cases hc : cutFrom? .start b <;> simp [hc] at hb
    | cons p ps => simp only [pieces, hb, List.map_cons, dropEmptyLast]

def slicedPieces : Nat → Text → Except Failure (List Text)
  | 0, _ => .error .undefinedAccess
  | bound + 1, t =>
    match octetOffset? t with
    | none => .ok (if t.trim.isEmpty then [] else [t.trim])
    | some i => do
      let piece ← defined (t.takeBytes? i)
      let rest ← defined (t.dropBytes? (i + 1))
      return piece.trim :: (← slicedPieces bound rest)

theorem slicedPieces_eq_pieces {bound : Nat} (h : t.length < bound) :
    slicedPieces bound t = .ok (pieces t) := by
  induction bound generalizing t with
  | zero => exact absurd h (Nat.not_lt_zero _)
  | succ bound ih =>
    rw [slicedPieces, octetOffset?_eq_offset?, offset?, pieces_eq]
    cases hcut : cut? t with
    | none => rfl
    | some parts =>
      obtain ⟨a, b⟩ := parts
      obtain rfl := eq_of_cutFrom? hcut
      have hlength : b.length < bound := by
        rw [List.length_append, List.length_cons] at h
        omega
      simp only [Option.map_some, Text.takeBytes?_append, Text.dropBytes?_behind (c := ',') rfl, defined,
        ok_bind, ih hlength, pure_eq]

end Commas

namespace Elements

def slicedPreview (t : Text) : Except Failure Text :=
  if 40 < t.length then defined (t.takeBytes? (Text.byteLength (t.take 40))) else .ok t

def slicedFunctionLength (t : Text) : Except Failure Nat :=
  match Text.offsetOf? [')'] t with
  | none => do throw (.malformed (.noParameterList (← slicedPreview t)))
  | some i => do
    let rest ← defined (t.dropBytes? (i + 1))
    let blanks ← defined (Text.minus? rest.byteLength rest.trimStart.byteLength)
    return (← Literal.octetSpan t (i + 1 + blanks)).stop

def slicedNext (t : Text) : Except Failure (Text × Text) :=
  if keyword.isPrefixOf t then do
    let n ← slicedFunctionLength t
    let element ← defined (t.takeBytes? n)
    let rest ← defined (t.dropBytes? n)
    return (element, rest.trimStart.stripStart ',')
  else match Commas.octetOffset? t with
    | none => .ok (t.trimEnd, [])
    | some i => do
      let element ← defined (t.takeBytes? i)
      let rest ← defined (t.dropBytes? (i + 1))
      return (element.trimEnd, rest)

def slicedCollect : Nat → Text → Except Failure (List Text)
  | bound, t =>
    if t.trimStart.isEmpty then .ok []
    else match bound with
      | 0 => .error .undefinedAccess
      | bound + 1 => do
        let (element, rest) ← slicedNext t.trimStart
        return element :: (← slicedCollect bound rest)

def slicedElements : Text → Except Failure (List Text)
  | '[' :: t =>
    let body := Text.stripEnd (Text.trimEnd t) ']'
    slicedCollect body.length body
  | t => do throw (.malformed (.noArray (← slicedPreview t)))

theorem slicedPreview_eq (t : Text) : slicedPreview t = .ok (preview t) := by
  rw [slicedPreview, preview]
  split
  · have h := Text.takeBytes?_append (t.take 40) (t.drop 40)
    rw [List.take_append_drop] at h
    rw [h, defined]
  next hlength => rw [List.take_of_length_le (Nat.le_of_not_lt hlength)]

theorem slicedFunctionLength_eq (t : Text) : slicedFunctionLength t = functionLength t := by
  rw [slicedFunctionLength, functionLength, Text.offsetOf?_char]
  cases hs : t.splitOnce? ')' with
  | none => simp only [Option.map_none, slicedPreview_eq, ok_bind, throw_eq]
  | some parts =>
    obtain ⟨a, b⟩ := parts
    obtain ⟨rfl, -⟩ := Text.splitOnce?_eq_some_iff.1 hs
    simp only [Option.map_some, Text.dropBytes?_behind (c := ')') rfl, defined, ok_bind,
      Text.minus?_trimStart, Literal.octetSpan_eq_span]
    cases Literal.span _ _ <;> rfl

theorem slicedNext_eq (t : Text) : slicedNext t = next t := by
  rw [slicedNext, next, slicedFunctionLength_eq]
  split
  · congr 1
    funext n
    cases t.takeBytes? n with
    | none => rfl
    | some element => cases t.dropBytes? n <;> rfl
  · rw [Commas.octetOffset?_eq_offset?, Commas.offset?]
    cases hcut : Commas.cut? t with
    | none => rfl
    | some parts =>
      obtain ⟨a, b⟩ := parts
      obtain rfl := Commas.eq_of_cutFrom? hcut
      simp only [Option.map_some, Text.takeBytes?_append, Text.dropBytes?_behind (c := ',') rfl, defined,
        ok_bind]

theorem slicedCollect_eq (bound : Nat) (t : Text) : slicedCollect bound t = collect bound t := by
  induction bound generalizing t with
  | zero => rfl
  | succ bound ih =>
    rw [slicedCollect, collect, slicedNext_eq]
    simp only [ih]

theorem slicedElements_eq (t : Text) : slicedElements t = ofLiteral t := by
  by_cases hb : ∃ rest, t = '[' :: rest
  · obtain ⟨rest, rfl⟩ := hb
    exact slicedCollect_eq _ _
  · have hno : ∀ rest, t = '[' :: rest → False := fun rest h => hb ⟨rest, h⟩
    rw [slicedElements, ofLiteral, slicedPreview_eq, ok_bind, throw_eq] <;> exact hno

/-- What is taken for a function literal: a text up to its first `)`, blanks and a literal. -/
theorem functionLength_cases (t : Text) :
    (∃ f, functionLength t = .error f ∧ f ≠ .undefinedAccess) ∨
      ∃ front gap literal v : Text, t = front ++ ')' :: (gap ++ literal) ++ v ∧ ')' ∉ front ∧
        Text.Blank gap ∧ Literal.IsLiteral literal ∧
        functionLength t = .ok (Text.byteLength (front ++ ')' :: (gap ++ literal))) := by
  rw [functionLength]
  obtain ⟨-, hnone⟩ | ⟨a, b, rfl, ha, hsome⟩ := Text.splitOnce?_cases ')' t
  · exact .inl ⟨_, by rw [hnone], by simp⟩
  · obtain ⟨gap, hgap, hb⟩ := Text.exists_trimStart b
    have hblanks : b.takeWhile Text.isBlank = gap := by
      rw [hb]
      exact (Text.span_append hgap (Text.any_head?_trimStart b)).1
    rw [hsome]
    simp only [hblanks]
    cases hs : Literal.span (a ++ ')' :: b) (a.byteLength + 1 + gap.byteLength) with
    | error f => exact .inl ⟨f, rfl, fun hf => Literal.isDefined_span _ _ (hf ▸ hs)⟩
    | ok s =>
      obtain ⟨l, ⟨v, hv⟩, hl, rfl⟩ := Literal.exists_of_span hs
      obtain ⟨u, hu, hlength⟩ := Text.dropBytes?_eq_some_iff.1 hv
      have hfront : a ++ ')' :: b = (a ++ ')' :: gap) ++ Text.trimStart b := by
        rw [List.append_assoc, List.cons_append, ← hb]
      have hsize : Text.byteLength (a ++ ')' :: gap) = a.byteLength + 1 + gap.byteLength := by
        rw [Text.byteLength_append, Text.byteLength_cons, Nat.add_assoc]
        rfl
      obtain rfl := Text.eq_of_byteLength_eq (hu.symm.trans hfront) (hlength.trans hsize.symm)
      refine .inr ⟨a, gap, l, v, by rw [hu]; simp, ha, hgap, hl, ?_⟩
      rw [← List.cons_append, ← List.append_assoc, Text.byteLength_append, hsize]
      rfl

theorem trimStart_length_le (t : Text) : t.trimStart.length ≤ t.length :=
  (List.dropWhile_sublist Text.isBlank).length_le

/-- What one turn takes behind an element: blanks and a comma, or only blanks if the element is a
function or the last one. -/
def Separates (gap element rest : Text) : Prop :=
  (∃ w, Text.Blank w ∧ gap = w ++ [',']) ∨ Text.Blank gap ∧ (keyword <+: element ∨ rest = [])

theorem exists_stripStart_comma (v : Text) : ∃ gap, v = gap ++ v.trimStart.stripStart ',' ∧
    ((∃ w, Text.Blank w ∧ gap = w ++ [',']) ∨ Text.Blank gap) := by
  obtain ⟨w, hw, hv⟩ := Text.exists_trimStart v
  cases ht : v.trimStart with
  | nil => exact ⟨w, by rw [hv, ht]; rfl, .inr hw⟩
  | cons c t =>
    rw [Text.stripStart]
    split
    next hc => exact ⟨w ++ [','], by rw [hv, ht, hc]; simp, .inl ⟨w, hw, rfl⟩⟩
    · exact ⟨w, by rw [hv, ht], .inr hw⟩

theorem keyword_of_functionWith {front tail : Text} (h : keyword <+: front ++ ')' :: tail) :
    keyword <+: front := by
  by_contra hno
  refine not_keyword_append hno (fun c hc => ?_) h
  obtain rfl : ')' = c := Option.some.inj hc
  decide

/-- What is not empty is an element, what separates it from the rest and the rest, of which something
has been taken; or there is a failure for why it is not. -/
theorem next_cases (hne : t ≠ []) : (∃ f, next t = .error f ∧ f ≠ .undefinedAccess) ∨
    ∃ element gap rest : Text, next t = .ok (element, rest) ∧ t = element ++ gap ++ rest ∧
      element ++ gap ≠ [] ∧ Separates gap element rest := by
  rw [next]
  split
  next hk =>
    obtain ⟨f, he, hf⟩ | ⟨front, blanks, literal, v, rfl, -, -, -, he⟩ := functionLength_cases t
    · exact .inl ⟨f, by rw [he, error_bind], hf⟩
    · obtain ⟨gap, hv, hgap⟩ := exists_stripStart_comma v
      have hwhole : keyword <+: front ++ ')' :: (blanks ++ literal ++ v) := by simpa using hk
      have hfront := keyword_of_functionWith hwhole
      refine .inr ⟨front ++ ')' :: (blanks ++ literal), gap, v.trimStart.stripStart ',', ?_, ?_,
        by simp, hgap.imp_right fun hw => ⟨hw, .inl (hfront.trans (List.prefix_append _ _))⟩⟩
      · simp only [he, ok_bind, Text.takeBytes?_append, Text.dropBytes?_append, pure_eq]
      · rw [List.append_assoc _ gap, ← hv]
  · cases hcut : Commas.cut? t with
    | none =>
      obtain ⟨w, hw, ht⟩ := Text.exists_trimEnd t
      exact .inr ⟨t.trimEnd, w, [], rfl, by rw [← ht, List.append_nil], ht ▸ hne, .inr ⟨hw, .inr rfl⟩⟩
    | some parts =>
      obtain ⟨a, b⟩ := parts
      obtain rfl := Commas.eq_of_cutFrom? hcut
      obtain ⟨w, hw, ha⟩ := Text.exists_trimEnd a
      refine .inr ⟨a.trimEnd, w ++ [','], b, rfl, ?_, by simp, .inl ⟨w, hw, rfl⟩⟩
      rw [← List.append_assoc, ← ha, List.append_assoc, List.singleton_append]

theorem length_lt_of_turn {element gap rest : Text} (h : t.trimStart = element ++ gap ++ rest)
    (htaken : element ++ gap ≠ []) : rest.length < t.length := by
  have hle := trimStart_length_le t
  have hpos := List.length_pos_iff.2 htaken
  rw [h, List.length_append] at hle
  omega

theorem isDefined_collect {bound : Nat} (h : t.length ≤ bound) : IsDefined (collect bound t) := by
  induction bound generalizing t with
  | zero =>
    obtain rfl := List.length_eq_zero_iff.1 (Nat.le_zero.1 h)
    exact .ok []
  | succ bound ih =>
    rw [collect]
    split
    · exact .ok []
    next hne =>
      have hne : t.trimStart ≠ [] := fun he => hne (List.isEmpty_iff.2 he)
      obtain ⟨f, he, hf⟩ | ⟨element, gap, rest, he, ht, htaken, -⟩ := next_cases hne
      · exact he ▸ .error hf
      · have hlt := length_lt_of_turn ht htaken
        rw [he]
        exact (ih (by omega)).bind fun _ _ => .ok _

theorem isDefined_ofLiteral (t : Text) : IsDefined (ofLiteral t) := by
  rw [ofLiteral.eq_def]
  split
  · exact isDefined_collect (Nat.le_refl _)
  · exact .error (by simp)

end Elements

namespace ThrottlingProgram

def slicedContent (quote : Char) (t : Text) : Except Failure (Option Text) :=
  if 2 ≤ t.byteLength ∧ t.head? = some quote ∧ t.getLast? = some quote then do
    return some (← defined (t.slice? ⟨1, t.byteLength - 1⟩))
  else .ok none

theorem slicedContent_eq {quote : Char} (hq : quote.utf8Size = 1) (t : Text) :
    slicedContent quote t = .ok (quotedContent? quote t) := by
  cases t with
  | nil => rfl
  | cons c t =>
    rw [slicedContent, quotedContent?]
    cases t using List.reverseRecOn with
    | nil =>
      have hshort : ¬(2 ≤ Text.byteLength [c] ∧ [c].head? = some quote ∧ [c].getLast? = some quote) := by
        rintro ⟨hlong, hhead, -⟩
        obtain rfl := Option.some.inj hhead
        rw [Text.byteLength_cons, hq, Text.byteLength_nil] at hlong
        exact absurd hlong (by decide)
      rw [if_neg hshort]
      simp
    | append_singleton t d =>
      have hlast : (c :: (t ++ [d])).getLast? = some d := by
        rw [← List.cons_append, List.getLast?_concat]
      rw [hlast, List.head?_cons]
      by_cases h : c = quote ∧ d = quote
      · obtain ⟨hc, hd⟩ := h
        rw [hc, hd]
        have hlength : Text.byteLength (quote :: (t ++ [quote])) = Text.byteLength t + 2 := by
          simp only [Text.byteLength_append, Text.byteLength_cons, Text.byteLength_nil, hq]
          omega
        have hslice := Text.slice?_append [quote] t [quote]
        rw [Text.byteLength_append, Text.byteLength_cons, hq, Text.byteLength_nil] at hslice
        have hs : Text.slice? (quote :: (t ++ [quote]))
            ⟨1, Text.byteLength (quote :: (t ++ [quote])) - 1⟩ = some t := by
          have hstop : Text.byteLength t + 2 - 1 = 1 + 0 + Text.byteLength t := by omega
          rw [hlength, hstop]
          exact hslice
        rw [if_pos ⟨by omega, rfl, rfl⟩, hs]
        simp [defined]
      · have hno : ¬(2 ≤ Text.byteLength (c :: (t ++ [d])) ∧ some c = some quote ∧
            some d = some quote) := by
          rintro ⟨-, hc, hd⟩
          exact h ⟨Option.some.inj hc, Option.some.inj hd⟩
        rw [if_neg hno, if_neg]
        simpa using h

end ThrottlingProgram
end Unscramble
