import Mathlib.Data.Bool.AllAny
import Unscramble.Proofs.Script.Grammar
import Unscramble.Proofs.Script.Reading

/-! The scans on octets, with a step of two octets over a backslash. A step may end inside a
character, but what is left of the character are octets from 128 on, which no scan looks for. So
the scans come to the same offsets as on characters. -/
namespace Unscramble
variable {c : Char} {t : Text} {b d o : Nat} {bs us : Utf8.Octets}

namespace Literal
open Utf8
variable {k : Context} {ks : List Context} {js : List Nat}

def closerOctet (b : Nat) : Nat :=
  if b = '\x7b'.toNat then '\x7d'.toNat else if b = '['.toNat then ']'.toNat else '"'.toNat

/-- The octets that have opened what is open, innermost first, after one octet more. -/
def stepOctet (j : Nat) (js : List Nat) (b : Nat) : List Nat :=
  if j = '"'.toNat then if b = '"'.toNat then js else j :: js
  else if b = closerOctet j then js
  else if b = '\x7b'.toNat ∨ b = '['.toNat ∨ b = '"'.toNat then b :: j :: js
  else j :: js

/-- The offset just past the octet that closes all that is open, from octets at `o`. In a string a
backslash is stepped over together with one octet more. -/
def closingOctet? : List Nat → Nat → Octets → Option Nat
  | [], o, _ => some o
  | _ :: _, _, [] => none
  | j :: js, o, b :: bs =>
    if j = '"'.toNat ∧ b = '\\'.toNat then
      match bs with
      | [] => none
      | _ :: bs => closingOctet? (j :: js) (o + 2) bs
    else closingOctet? (stepOctet j js b) (o + 1) bs

def octetSpan (text : Text) (start : Nat) : Except Failure Span :=
  let malformed := .error (.malformed (.noLiteral start ((text.dropBytes? start).bind List.head?)))
  match (encode text)[start]? with
  | none => malformed
  | some b =>
    if b = '\x7b'.toNat ∨ b = '['.toNat then
      match closingOctet? [b] (start + 1) ((encode text).drop (start + 1)) with
      | none => .error (.unterminated start)
      | some stop => .ok ⟨start, stop⟩
    else malformed

def Context.octet (k : Context) : Nat := k.opener.toNat

theorem closingOctet?_cons {j : Nat} (h : ¬(j = '"'.toNat ∧ b = '\\'.toNat)) (o : Nat)
    (bs : Octets) :
    closingOctet? (j :: js) o (b :: bs) = closingOctet? (stepOctet j js b) (o + 1) bs := by
  cases bs <;> exact if_neg h

theorem closingOctet?_nil (o : Nat) (bs : Octets) : closingOctet? [] o bs = some o := by
  cases bs <;> rfl

theorem stepOctet_quote : stepOctet Context.quote.octet js b =
    if b = '"'.toNat then js else Context.quote.octet :: js := if_pos rfl

theorem stepOctet_level (hk : k.IsLevel) : stepOctet k.octet js b =
    if b = k.closer.toNat then js
    else if b = '\x7b'.toNat ∨ b = '['.toNat ∨ b = '"'.toNat then b :: k.octet :: js
    else k.octet :: js := by
  obtain rfl | rfl := hk <;> exact if_neg (by decide)

theorem level_or_quote (hk : k ≠ .escape) : k.IsLevel ∨ k = .quote := by
  cases k with
  | escape => exact absurd rfl hk
  | quote => exact .inr rfl
  | brace => exact .inl (.inl rfl)
  | bracket => exact .inl (.inr rfl)

theorem stepOctet_high (hk : k ≠ .escape) (hb : 128 ≤ b) :
    stepOctet k.octet js b = k.octet :: js := by
  have hne (d : Char) (hd : d.toNat < 128) : b ≠ d.toNat := by omega
  obtain hl | rfl := level_or_quote hk
  · have hcloser : k.closer.toNat < 128 := by obtain rfl | rfl := hl <;> decide
    rw [stepOctet_level hl, if_neg (hne _ hcloser), if_neg]
    simp only [hne '\x7b' (by decide), hne '[' (by decide), hne '"' (by decide), or_self,
      not_false_iff]
  · rw [stepOctet_quote, if_neg (hne _ (by decide))]

/-- Octets from 128 on are passed over whatever is open. -/
theorem closingOctet?_high (hk : k ≠ .escape) (hus : ∀ b ∈ us, 128 ≤ b) (o : Nat) (bs : Octets) :
    closingOctet? (k.octet :: js) o (us ++ bs) = closingOctet? (k.octet :: js) (o + us.length) bs := by
  induction us generalizing o with
  | nil => rfl
  | cons b us ih =>
    obtain ⟨hb, hus⟩ := List.forall_mem_cons.1 hus
    have hbackslash : b ≠ '\\'.toNat := by
      have h : '\\'.toNat < 128 := by decide
      omega
    rw [List.cons_append, closingOctet?_cons fun h => hbackslash h.2, stepOctet_high hk hb, ih hus,
      List.length_cons, Nat.add_assoc, Nat.add_comm 1]

theorem stepOctet_char (hk : k ≠ .escape) (hb : ¬(k = .quote ∧ c = '\\')) :
    stepOctet k.octet (ks.map Context.octet) c.toNat = (step k ks c).map Context.octet := by
  obtain hl | rfl := level_or_quote hk
  · rw [stepOctet_level hl]
    simp only [Char.toNat_inj]
    by_cases hc : c = k.closer
    · rw [if_pos hc, hc, step_closer hk]
    rw [if_neg hc]
    cases ho : Context.ofOpener? c with
    | none =>
      have hplain := not_mem_of_ofOpener? ho hc
      have hopener : ¬(c = '\x7b' ∨ c = '[' ∨ c = '"') := by
        rintro (rfl | rfl | rfl) <;> cases ho
      rw [if_neg hopener, step_plain hl hplain]
      rfl
    | some j =>
      obtain ⟨hj, rfl⟩ := opener_of_ofOpener? ho
      have hopener : j.opener = '\x7b' ∨ j.opener = '[' ∨ j.opener = '"' := by
        cases j <;> decide
      rw [if_pos hopener, step_opener hl hj]
      rfl
  · have hb : c ≠ '\\' := fun h => hb ⟨rfl, h⟩
    rw [stepOctet_quote, step, if_neg hb]
    simp only [Char.toNat_inj]
    split <;> rfl

theorem step_high (hk : k ≠ .escape) (hc : 128 ≤ c.toNat) : step k ks c = k :: ks := by
  have hne (d : Char) (hd : d.toNat < 128) : c ≠ d := by
    rintro rfl
    omega
  obtain hl | rfl := level_or_quote hk
  · refine step_plain hl ?_
    have hcloser : c ≠ k.closer := hne _ (by obtain rfl | rfl := hl <;> decide)
    simp [hne, hcloser]
  · rw [step, if_neg (hne _ (by decide)), if_neg (hne _ (by decide))]

/-- No escape is among what is left open, but the one that has just begun. -/
theorem not_mem_step (hk : k ≠ .escape) (hks : .escape ∉ ks) (hb : ¬(k = .quote ∧ c = '\\')) :
    .escape ∉ step k ks c := by
  have hkks : .escape ∉ k :: ks := List.mem_cons.not.2 (not_or.2 ⟨hk.symm, hks⟩)
  obtain hl | rfl := level_or_quote hk
  · by_cases hc : c = k.closer
    · rwa [hc, step_closer hk]
    cases ho : Context.ofOpener? c with
    | none => rwa [step_plain hl (not_mem_of_ofOpener? ho hc)]
    | some j =>
      obtain ⟨hj, rfl⟩ := opener_of_ofOpener? ho
      rw [step_opener hl hj]
      exact List.mem_cons.not.2 (not_or.2 ⟨hj.symm, hkks⟩)
  · rw [step, if_neg fun h => hb ⟨rfl, h⟩]
    split <;> assumption

/-- On octets as on characters. Behind a backslash the octets begin one after the place where the
escaped character does. -/
theorem closingOctet?_encode (t : Text) {ks : List Context} (hks : .escape ∉ ks) (o : Nat) :
    closingOctet? (ks.map Context.octet) o (encode t) = closingOffset? ks o t ∧
    closingOctet? ('"'.toNat :: ks.map Context.octet) o ('\\'.toNat :: encode t) =
      closingOffset? (.escape :: .quote :: ks) (o + 1) t := by
  induction t generalizing ks o with
  | nil =>
    cases ks with
    | nil => exact ⟨rfl, rfl⟩
    | cons k ks => exact ⟨rfl, rfl⟩
  | cons c t ih =>
    have hquote : .escape ∉ Context.quote :: ks := List.mem_cons.not.2 (not_or.2 ⟨nofun, hks⟩)
    refine ⟨?_, ?_⟩
    · cases ks with
      | nil => rw [closingOffset?_nil]; exact closingOctet?_nil o _
      | cons k ks =>
        obtain ⟨hk, htail⟩ := not_or.1 (List.mem_cons.not.1 hks)
        have hk := Ne.symm hk
        rw [encode_cons, closingOffset?_cons, List.map_cons]
        by_cases hb : k = .quote ∧ c = '\\'
        · obtain ⟨rfl, rfl⟩ := hb
          exact (ih htail o).2
        by_cases hc : c.toNat < 128
        · rw [encodeChar_of_lt hc, List.singleton_append, closingOctet?_cons, stepOctet_char hk hb,
            utf8Size_of_lt hc, (ih (not_mem_step hk htail hb) _).1]
          intro h
          refine hb ⟨?_, Char.toNat_inj.1 h.2⟩
          cases k with
          | quote => rfl
          | escape => exact absurd rfl hk
          | brace | bracket => exact absurd h.1 (by decide)
        · have hc := Nat.le_of_not_lt hc
          rw [closingOctet?_high hk fun b => le_of_mem_encodeChar hc, length_encodeChar,
            step_high hk hc, ← List.map_cons, (ih hks _).1]
    · obtain ⟨b, bs, he, hlength, hbs⟩ := exists_tail_encodeChar c
      have hstep : closingOctet? ('"'.toNat :: ks.map Context.octet) o
          ('\\'.toNat :: (b :: bs ++ encode t)) =
          closingOctet? ('"'.toNat :: ks.map Context.octet) (o + 2) (bs ++ encode t) := if_pos ⟨rfl, rfl⟩
      have hhigh : closingOctet? ('"'.toNat :: ks.map Context.octet) (o + 2) (bs ++ encode t) =
          closingOctet? ('"'.toNat :: ks.map Context.octet) (o + 2 + bs.length) (encode t) :=
        closingOctet?_high (k := .quote) nofun hbs (o + 2) (encode t)
      have hend : o + 2 + bs.length = o + 1 + c.utf8Size := by omega
      rw [encode_cons, he, hstep, closingOffset?_cons, step]
      exact hhigh.trans (hend ▸ (ih hquote _).1)

theorem octetSpan_eq_span (text : Text) (start : Nat) : octetSpan text start = span text start := by
  by_cases ho : OpensAt text start
  · obtain ⟨k, r, hk, hr⟩ := opensAt_iff.1 ho
    have hoctet : (encode text)[start]? = some k.octet :=
      (getElem?_encode_eq_iff (by obtain rfl | rfl := hk <;> decide)).2 ⟨r, hr⟩
    have hopens : k.octet = '\x7b'.toNat ∨ k.octet = '['.toNat := by
      obtain rfl | rfl := hk <;> decide
    have hdrop : (encode text).drop (start + 1) = encode r := by
      rw [← List.drop_drop, drop_encode hr]
      obtain rfl | rfl := hk <;> rfl
    have hescape : .escape ∉ [k] := List.mem_singleton.not.2 hk.ne_escape.symm
    have hscan : closingOctet? [k.octet] (start + 1) (encode r) = closingOffset? [k] (start + 1) r :=
      (closingOctet?_encode r hescape (start + 1)).1
    simp only [octetSpan, hoctet, if_pos hopens, hdrop, hscan]
    cases hc : closingOffset? [k] (start + 1) r with
    | none => exact (span_eq_unterminated hk hr hc).symm
    | some stop => exact (span_eq_ok hk hr hc).symm
  · have hmalformed : octetSpan text start =
        .error (.malformed (.noLiteral start ((text.dropBytes? start).bind List.head?))) := by
      unfold octetSpan
      cases hb : (encode text)[start]? with
      | none => rfl
      | some b =>
        refine if_neg ?_
        rintro (rfl | rfl)
        exacts [ho ⟨'\x7b', by decide, hb⟩, ho ⟨'[', by decide, hb⟩]
    rw [hmalformed, span]
    cases ht : text.dropBytes? start with
    | none => rfl
    | some t =>
      cases t with
      | nil => rfl
      | cons c t =>
        cases hk : Context.ofLiteral? c with
        | none => simp [hk]
        | some k =>
          obtain ⟨hl, rfl⟩ := ofLiteral?_eq_some_iff.1 hk
          exact absurd (opensAt_iff.2 ⟨k, t, hl, ht⟩) ho

end Literal

namespace Commas
open Utf8
variable {q : Option Char} {r : Reading}

def stepOctet : Nat × Option Nat → Nat → Nat × Option Nat
  | (d, some q), b => (d, if b = q then none else some q)
  | (d, none), b =>
    if b ∈ quotes.map Char.toNat then (d, some b)
    else if b ∈ openers.map Char.toNat then (d + 1, none)
    else if b ∈ closers.map Char.toNat then (d - 1, none)
    else (d, none)

/-- The offset of the first top-level comma, from octets at `o`. In a string a backslash is stepped
over together with one octet more. -/
def octetOffsetFrom? : Nat × Option Nat → Nat → Octets → Option Nat
  | _, _, [] => none
  | r, o, b :: bs =>
    if r.2.isSome ∧ b = '\\'.toNat then
      match bs with
      | [] => none
      | _ :: bs => octetOffsetFrom? r (o + 2) bs
    else if r = (0, none) ∧ b = ','.toNat then some o
    else octetOffsetFrom? (stepOctet r b) (o + 1) bs

def octetOffset? (t : Text) : Option Nat := octetOffsetFrom? (0, none) 0 (encode t)

theorem octetOffsetFrom?_cons {r : Nat × Option Nat} (h : ¬(r.2.isSome ∧ b = '\\'.toNat)) (o : Nat)
    (bs : Octets) : octetOffsetFrom? r o (b :: bs) =
      if r = (0, none) ∧ b = ','.toNat then some o else octetOffsetFrom? (stepOctet r b) (o + 1) bs := by
  cases bs <;> exact if_neg h

def Reading.at (d : Nat) : Option Char → Reading
  | none => ⟨d, .none⟩
  | some q => ⟨d, .within q⟩

def offsetFrom? (r : Reading) (o : Nat) (t : Text) : Option Nat :=
  (cutFrom? r t).map (o + ·.1.byteLength)

theorem offsetFrom?_cons (h : r.cutsAt c = false) (o : Nat) (t : Text) :
    offsetFrom? r o (c :: t) = offsetFrom? (r.step c) (o + c.utf8Size) t := by
  rw [offsetFrom?, cutFrom?, if_neg (Bool.eq_false_iff.1 h), Option.map_map]
  simp only [offsetFrom?, Function.comp_def, Text.byteLength_cons, Nat.add_assoc]

theorem cutsAt_at : (Reading.at d q).cutsAt c = true ↔
    (d, q.map Char.toNat) = (0, none) ∧ c.toNat = ','.toNat := by
  rw [Char.toNat_inj]
  cases q with
  | none => simp [Reading.at, Reading.cutsAt, Reading.start]
  | some q => simp [Reading.at, cutsAt_within]

def watched : List Char := '\\' :: ',' :: quotes ++ openers ++ closers

theorem lt_of_watched : ∀ c ∈ watched, c.toNat < 128 := List.all_iff_forall_prop.1 (by decide)

theorem octetOffsetFrom?_high (hq : ∀ q' ∈ q, q' ∈ quotes) (hus : ∀ b ∈ us, 128 ≤ b) (o : Nat)
    (bs : Octets) : octetOffsetFrom? (d, q.map Char.toNat) o (us ++ bs) =
      octetOffsetFrom? (d, q.map Char.toNat) (o + us.length) bs := by
  induction us generalizing o with
  | nil => rfl
  | cons b us ih =>
    obtain ⟨hb, hus⟩ := List.forall_mem_cons.1 hus
    have hne (c : Char) (hc : c ∈ watched) : b ≠ c.toNat := by
      have hlt := lt_of_watched c hc
      omega
    have hno (cs : List Char) (hcs : cs ⊆ watched) : b ∉ cs.map Char.toNat := fun hm => by
      obtain ⟨c, hc, rfl⟩ := List.mem_map.1 hm
      exact hne c (hcs hc) rfl
    have hstep : stepOctet (d, q.map Char.toNat) b = (d, q.map Char.toNat) := by
      cases q with
      | none => rw [Option.map_none, stepOctet, if_neg (hno _ (by decide)),
          if_neg (hno _ (by decide)), if_neg (hno _ (by decide))]
      | some q' =>
        have hq' : q' ∈ watched := by simp [watched, hq q' rfl]
        rw [Option.map_some, stepOctet, if_neg (hne q' hq')]
    rw [List.cons_append, octetOffsetFrom?_cons fun h => hne '\\' (by decide) h.2,
      if_neg fun h => hne ',' (by decide) h.2, hstep, ih hus, List.length_cons, Nat.add_assoc,
      Nat.add_comm 1]

theorem exists_step_at (hq : ∀ q' ∈ q, q' ∈ quotes) (hb : ¬(q.isSome ∧ c = '\\')) :
    ∃ d' q', (Reading.at d q).step c = .at d' q' ∧ (∀ q'' ∈ q', q'' ∈ quotes) ∧
      stepOctet (d, q.map Char.toNat) c.toNat = (d', q'.map Char.toNat) := by
  have hmem (cs : List Char) : c.toNat ∈ cs.map Char.toNat ↔ c ∈ cs :=
    List.mem_map_of_injective fun _ _ => Char.toNat_inj.1
  cases q with
  | none =>
    simp only [Option.map_none, stepOctet, hmem]
    by_cases hquote : c ∈ quotes
    · exact ⟨d, some c, step_quote hquote, by simpa using hquote, by rw [if_pos hquote]; rfl⟩
    rw [if_neg hquote]
    by_cases hopener : c ∈ openers
    · exact ⟨d + 1, none, step_opener hopener, nofun, by rw [if_pos hopener]; rfl⟩
    rw [if_neg hopener]
    by_cases hcloser : c ∈ closers
    · exact ⟨d - 1, none, step_closer hcloser, nofun, by rw [if_pos hcloser]; rfl⟩
    rw [if_neg hcloser]
    exact ⟨d, none, step_ordinary ⟨hquote, hopener, hcloser⟩, nofun, rfl⟩
  | some q =>
    have hb : c ≠ '\\' := fun h => hb ⟨rfl, h⟩
    simp only [Reading.at, step_within hb, Option.map_some, stepOctet, Char.toNat_inj]
    by_cases hc : c = q
    · exact ⟨d, none, by rw [if_pos hc], nofun, by rw [if_pos hc]; rfl⟩
    · exact ⟨d, some q, by rw [if_neg hc], hq, by rw [if_neg hc]; rfl⟩

theorem step_at_high (hq : ∀ q' ∈ q, q' ∈ quotes) (hc : 128 ≤ c.toNat) :
    (Reading.at d q).step c = .at d q := by
  have hno : c ∉ watched := fun h => by
    have hlt := lt_of_watched c h
    omega
  simp only [watched, List.cons_append, List.mem_cons, List.mem_append, not_or] at hno
  obtain ⟨hb, -, ⟨hquote, hopener⟩, hcloser⟩ := hno
  cases q with
  | none => exact step_ordinary ⟨hquote, hopener, hcloser⟩
  | some q =>
    have hcq : c ≠ q := fun h => hquote (h ▸ hq q rfl)
    rw [Reading.at, step_within hb, if_neg hcq]

theorem offsetFrom?_cut (h : r.cutsAt c = true) (o : Nat) (t : Text) :
    offsetFrom? r o (c :: t) = some o := by
  rw [offsetFrom?, cutFrom?, if_pos h]
  rfl

theorem octetOffsetFrom?_encode (t : Text) {d : Nat} {q : Option Char}
    (hq : ∀ q' ∈ q, q' ∈ quotes) (o : Nat) :
    octetOffsetFrom? (d, q.map Char.toNat) o (encode t) = offsetFrom? (.at d q) o t ∧
    ∀ q' ∈ q, octetOffsetFrom? (d, q.map Char.toNat) o ('\\'.toNat :: encode t) =
      offsetFrom? ⟨d, .escaped q'⟩ (o + 1) t := by
  induction t generalizing d q o with
  | nil =>
    refine ⟨rfl, fun q' hq' => ?_⟩
    obtain rfl := Option.mem_def.1 hq'
    rfl
  | cons c t ih =>
    refine ⟨?_, fun q' hq' => ?_⟩
    · rw [encode_cons]
      by_cases hb : q.isSome ∧ c = '\\'
      · obtain ⟨hsome, rfl⟩ := hb
        obtain ⟨q, rfl⟩ := Option.isSome_iff_exists.1 hsome
        have hbackslash : offsetFrom? ⟨d, .within q⟩ o ('\\' :: t) =
            offsetFrom? ⟨d, .escaped q⟩ (o + 1) t := offsetFrom?_cons cutsAt_within o t
        exact ((ih hq o).2 q rfl).trans hbackslash.symm
      by_cases hc : c.toNat < 128
      · have hb' : ¬((q.map Char.toNat).isSome ∧ c.toNat = '\\'.toNat) := by
          rwa [Option.isSome_map, Char.toNat_inj]
        rw [encodeChar_of_lt hc, List.singleton_append, octetOffsetFrom?_cons hb']
        by_cases hcut : (d, q.map Char.toNat) = (0, none) ∧ c.toNat = ','.toNat
        · rw [if_pos hcut, offsetFrom?_cut (cutsAt_at.2 hcut)]
        · obtain ⟨d', q', hstep, hq', hoctet⟩ := exists_step_at hq hb
          rw [if_neg hcut, offsetFrom?_cons (Bool.eq_false_iff.2 (cutsAt_at.not.2 hcut)), utf8Size_of_lt hc,
            hstep, hoctet, (ih hq' _).1]
      · have hc := Nat.le_of_not_lt hc
        have hcut : (Reading.at d q).cutsAt c = false := Bool.eq_false_iff.2 fun h => by
          exact absurd hc ((cutsAt_at.1 h).2 ▸ by decide)
        rw [octetOffsetFrom?_high hq fun b => le_of_mem_encodeChar hc, length_encodeChar,
          offsetFrom?_cons hcut, step_at_high hq hc, (ih hq _).1]
    · obtain rfl := Option.mem_def.1 hq'
      obtain ⟨b, bs, he, hlength, hbs⟩ := exists_tail_encodeChar c
      have hstep : octetOffsetFrom? (d, some q'.toNat) o ('\\'.toNat :: (b :: bs ++ encode t)) =
          octetOffsetFrom? (d, some q'.toNat) (o + 2) (bs ++ encode t) := if_pos ⟨rfl, rfl⟩
      have hhigh := octetOffsetFrom?_high (d := d) hq hbs (o + 2) (encode t)
      have hend : o + 2 + bs.length = o + 1 + c.utf8Size := by omega
      rw [encode_cons, he, offsetFrom?_cons cutsAt_escaped]
      exact hstep.trans (hhigh.trans (hend ▸ (ih hq _).1))

theorem octetOffset?_eq_offset? (t : Text) : octetOffset? t = offset? t := by
  have h := (octetOffsetFrom?_encode t (d := 0) (q := none) nofun 0).1
  refine h.trans ?_
  simp only [offsetFrom?, Nat.zero_add]
  rfl

end Commas
end Unscramble
