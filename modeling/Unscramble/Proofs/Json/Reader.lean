import Mathlib.Data.List.Forall2
import Unscramble.Json.Reader
import Unscramble.Proofs.Json.Scalar

/-! Written values are read back: numbers and strings, and what is put together from values that are
read back as arrays, maps, records and choices. -/
namespace Unscramble.Json
open Outcome
variable {α β σ : Type} {read : Reader α} {t rest name : Text} {a : α} {isFirst : Bool}

/-- The text is a value, and the reader takes it from the front of a text for `a`. -/
structure Reads (read : Reader α) (t : Text) (a : α) : Prop where
  starts : ∃ c u, t = c :: u ∧ isBlank c = false ∧ c ≠ ']'
  reads : ∀ rest, Ends rest → read (t ++ rest) = .ok (a, rest)

theorem Reads.ne_nil (h : Reads read t a) : t ≠ [] := by
  obtain ⟨c, u, rfl, -, -⟩ := h.starts
  exact List.cons_ne_nil c u

theorem Reads.whole (h : Reads read t a) : readWholeText read t = .ok a := by
  have hread := h.reads [] .nil
  rw [List.append_nil] at hread
  rw [readWholeText, hread, ok_bind]
  rfl

theorem Reads.map (h : Reads read t a) (f : α → β) :
    Reads (fun t => (read t).map fun (a, t) => (f a, t)) t (f a) where
  starts := h.starts
  reads rest hrest := by rw [h.reads rest hrest, map_ok]

theorem Reads.collect (h : Reads read t a) (f : α → σ) :
    Reads (fun t => do let (a, t) ← read t; return (f a, t)) t (f a) where
  starts := h.starts
  reads rest hrest := by rw [h.reads rest hrest]; rfl

theorem reads_text (s : Text) : Reads readText (renderText s) s where
  starts := ⟨'"', _, rfl, rfl, by decide⟩
  reads rest _ := by
    have hstring := readString_escaped s rest
    rw [readText, renderText, List.cons_append, List.cons_append, skipBlanks_cons rfl, List.append_assoc]
    exact hstring

theorem startsNumeral_spec {c : Char} (h : startsNumeral c = true) : isBlank c = false ∧ c ≠ ']' := by
  constructor
  · rw [Bool.eq_false_iff]
    intro hblank
    simp only [isBlank, Bool.or_eq_true, beq_iff_eq] at hblank
    obtain ((rfl | rfl) | rfl) | rfl := hblank <;> cases h
  · rintro rfl
    cases h

theorem readNumber_cons {c : Char} (hc : startsNumeral c = true) (t : Text) :
    readNumber (c :: t) = readNumeral (c :: t) := by
  rw [readNumber, skipBlanks_cons (startsNumeral_spec hc).1]
  exact if_pos hc

theorem starts_render (n : Nat) : ∃ c u, Number.render n = c :: u ∧ startsNumeral c = true := by
  cases h : Number.render n with
  | nil => exact absurd h (Number.render_ne_nil n)
  | cons c u =>
    have hc : c.isDigit = true := Number.isDigit_of_mem_render (h ▸ List.mem_cons_self)
    exact ⟨c, u, rfl, by simp [startsNumeral, hc]⟩

theorem readNumber_render {n : Nat} (hn : n ≤ Number.maxWord) (hrest : Ends rest) :
    readNumber (Number.render n ++ rest) = .ok (.integer n, rest) := by
  have hread := readNumeral_render hn hrest
  obtain ⟨c, u, h, hc⟩ := starts_render n
  rw [h, List.cons_append] at hread ⊢
  rw [readNumber_cons hc, hread]

theorem reads_nat {n : Nat} (hn : n ≤ Number.maxWord) :
    Reads (readNat Number.maxWord) (renderNat n) n where
  starts := by
    obtain ⟨c, u, h, hc⟩ := starts_render n
    exact ⟨c, u, h, startsNumeral_spec hc⟩
  reads rest hrest := by
    rw [readNat, renderNat, readNumber_render hn hrest, ok_bind]
    simp [hn]

theorem reads_int {v : Int} (hv : Number.IsSigned v) : Reads readInt (renderInt v) v where
  starts := by
    cases v with
    | ofNat n =>
      obtain ⟨c, u, h, hc⟩ := starts_render n
      exact ⟨c, u, h, startsNumeral_spec hc⟩
    | negSucc n => exact ⟨'-', Number.render (n + 1), rfl, startsNumeral_spec rfl⟩
  reads rest hrest := by
    obtain ⟨hlo, hhi⟩ := hv
    have hread : readNumber (renderInt v ++ rest) = .ok (.integer v, rest) := by
      cases v with
      | ofNat n => exact readNumber_render (Nat.le_trans (Int.ofNat_le.1 hhi) (by decide)) hrest
      | negSucc n =>
        have hn : n ≤ Number.maxSigned := by omega
        exact (readNumber_cons rfl _).trans (readNumeral_negative hn hrest)
    rw [readInt, hread, ok_bind]
    exact if_pos hhi

theorem reads_null : Reads readNull null () where
  starts := ⟨'n', "ull".toList, rfl, rfl, by decide⟩
  reads _ _ := rfl

theorem Reads.optional (h : Reads read t a) (hn : t.head? ≠ some 'n') :
    Reads (readOptional read) t (some a) where
  starts := h.starts
  reads rest hrest := by
    obtain ⟨c, u, rfl, hc, -⟩ := h.starts
    rw [readOptional, List.cons_append, skipBlanks_cons hc]
    split
    next heq => exact absurd (congrArg some (List.cons.inj heq).1) hn
    · rw [← List.cons_append, h.reads rest hrest, map_ok]

theorem reads_optional_null : Reads (readOptional read) null none where
  starts := reads_null.starts
  reads _ _ := rfl

def separated : Bool → List Text → Text
  | _, [] => []
  | isFirst, t :: ts => (if isFirst then t else ',' :: t) ++ separated false ts

theorem intercalate_eq_separated (ts : List Text) : [','].intercalate ts = separated true ts := by
  have hcons (t : Text) (ts : List Text) :
      [','].intercalate (t :: ts) = t ++ separated false ts := by
    induction ts generalizing t with
    | nil => simp [separated]
    | cons u ts ih =>
      rw [List.intercalate_cons_cons, ih u, List.append_assoc]
      rfl
  cases ts with
  | nil => rfl
  | cons t ts => exact hcons t ts

theorem length_le_separated {ts : List Text} (h : ∀ t ∈ ts, t ≠ []) (isFirst : Bool) :
    ts.length ≤ (separated isFirst ts).length := by
  induction ts generalizing isFirst with
  | nil => exact Nat.zero_le _
  | cons t ts ih =>
    have ht := List.length_pos_iff.2 (h t (.head ts))
    have hts := ih (fun u hu => h u (.tail t hu)) false
    cases isFirst with
    | true => simp only [separated, if_true, List.length_append, List.length_cons]; omega
    | false => simp [separated]; omega

theorem ends_close {c : Char} (h : c = ']' ∨ c = '\x7d') (rest : Text) : Ends (c :: rest) := by
  rintro d ⟨⟩
  exact .inr h

theorem ends_separated {c : Char} (h : c = ']' ∨ c = '\x7d') (ts : List Text) (rest : Text) :
    Ends (separated false ts ++ c :: rest) := by
  cases ts with
  | nil => exact ends_close h rest
  | cons t ts =>
    rintro d ⟨⟩
    exact .inl rfl

theorem nextItem?_separated (h : Reads read t a) (isFirst : Bool) (ts : List Text) (rest : Text) :
    nextItem? isFirst (separated isFirst (t :: ts) ++ rest) =
      .ok (some (t ++ (separated false ts ++ rest))) := by
  obtain ⟨c, u, rfl, hc, hclose⟩ := h.starts
  rw [separated, List.append_assoc]
  cases isFirst with
  | true =>
    rw [if_pos rfl, List.cons_append, nextItem?, skipBlanks_cons hc]
    split
    next heq => cases heq
    next heq => exact absurd (List.cons.inj heq).1 hclose
    next heq => rw [← heq]; rfl
  | false =>
    rw [if_neg (by decide), List.cons_append, List.cons_append, nextItem?, skipBlanks_cons rfl]
    split
    next heq => cases heq
    next heq => exact absurd (List.cons.inj heq).1 (by decide)
    next heq =>
      obtain ⟨rfl, rfl⟩ := List.cons.inj heq
      rw [if_neg (by decide), if_pos rfl, skipBlanks_cons hc]
      split
      next heq => cases heq
      next heq => exact absurd (List.cons.inj heq).1 hclose
      · rfl

theorem readItems_separated {ts : List Text} {as : List α} (h : List.Forall₂ (Reads read) ts as)
    {bound : Nat} (hb : ts.length < bound) (isFirst : Bool) (rest : Text) :
    readItems read bound isFirst (separated isFirst ts ++ ']' :: rest) = .ok (as, rest) := by
  induction h generalizing bound isFirst with
  | nil =>
    cases bound with
    | zero => exact absurd hb (Nat.not_lt_zero _)
    | succ bound => rfl
  | @cons t a ts as ht hts ih =>
    cases bound with
    | zero => exact absurd hb (Nat.not_lt_zero _)
    | succ bound =>
      rw [readItems, nextItem?_separated ht, ok_bind]
      simp only [ht.reads _ (ends_separated (.inl rfl) ts rest), ih (Nat.lt_of_succ_lt_succ hb), ok_bind,
        pure_eq]

theorem forall_ne_nil {ts : List Text} {as : List α} (h : List.Forall₂ (Reads read) ts as) :
    ∀ t ∈ ts, t ≠ [] := by
  induction h with
  | nil => nofun
  | cons ht _ ih => exact List.forall_mem_cons.2 ⟨ht.ne_nil, ih⟩

theorem reads_list {ts : List Text} {as : List α} (h : List.Forall₂ (Reads read) ts as) :
    Reads (readList read) (renderArray ts) as where
  starts := ⟨'[', _, rfl, rfl, by decide⟩
  reads rest _ := by
    have hlength := length_le_separated (forall_ne_nil h) true
    have hbound : ts.length < (separated true ts ++ ']' :: rest).length + 1 := by
      rw [List.length_append]
      omega
    have hitems := readItems_separated h hbound true rest
    rw [readList, renderArray, intercalate_eq_separated, List.cons_append, List.cons_append,
      skipBlanks_cons rfl, List.append_assoc]
    exact hitems

theorem reads_array {write : α → Text} {as : List α} (h : ∀ a ∈ as, Reads read (write a) a) :
    Reads (readList read) (renderArray (as.map write)) as :=
  reads_list (List.forall₂_map_left_iff.2 (List.forall₂_same.2 h))

theorem renderMember_append (m : Text × Text) (rest : Text) :
    renderMember m ++ rest = '"' :: (m.1.flatMap escape ++ '"' :: ':' :: (m.2 ++ rest)) := by
  simp [renderMember, renderText]

theorem nextMember?_separated (isFirst : Bool) (m : Text × Text) (ts : List Text) (rest : Text) :
    nextMember? isFirst (separated isFirst (renderMember m :: ts) ++ rest) =
      .ok (some (m.1.flatMap escape ++ '"' :: ':' :: (m.2 ++ (separated false ts ++ rest)))) := by
  rw [separated, List.append_assoc]
  cases isFirst with
  | true => rw [if_pos rfl, renderMember_append]; rfl
  | false => rw [if_neg (by decide), List.cons_append, renderMember_append]; rfl

theorem readColon_cons (t : Text) : readColon (':' :: t) = .ok t := rfl

theorem length_lt_separated (ms : List (Text × Text)) (rest : Text) :
    ms.length < (separated true (ms.map renderMember) ++ '\x7d' :: rest).length + 1 := by
  have hne : ∀ t ∈ ms.map renderMember, t ≠ [] := by
    rw [List.forall_mem_map]
    exact fun m _ => List.cons_ne_nil _ _
  have hlength := length_le_separated hne true
  rw [List.length_map] at hlength
  rw [List.length_append]
  omega

theorem readMembers_separated {ms : List (Text × Text)} {es : List (Text × α)}
    (h : List.Forall₂ (fun m e => m.1 = e.1 ∧ Reads read m.2 e.2) ms es) {bound : Nat}
    (hb : ms.length < bound) (isFirst : Bool) (rest : Text) :
    readMembers read bound isFirst (separated isFirst (ms.map renderMember) ++ '\x7d' :: rest) =
      .ok (es, rest) := by
  induction h generalizing bound isFirst with
  | nil =>
    cases bound with
    | zero => exact absurd hb (Nat.not_lt_zero _)
    | succ bound => rfl
  | @cons m e ms es hm hms ih =>
    cases bound with
    | zero => exact absurd hb (Nat.not_lt_zero _)
    | succ bound =>
      obtain ⟨hname, hvalue⟩ := hm
      have hread := hvalue.reads _ (ends_separated (.inr rfl) (ms.map renderMember) rest)
      rw [List.map_cons, readMembers, nextMember?_separated, ok_bind]
      simp only [readString_escaped, readColon_cons, hread, ih (Nat.lt_of_succ_lt_succ hb), ok_bind, pure_eq, hname]

theorem reads_map {ms : List (Text × Text)} {es : List (Text × α)}
    (h : List.Forall₂ (fun m e => m.1 = e.1 ∧ Reads read m.2 e.2) ms es) :
    Reads (readMap read) (renderObject ms) es where
  starts := ⟨'\x7b', _, rfl, rfl, by decide⟩
  reads rest _ := by
    have hmembers := readMembers_separated h (length_lt_separated ms rest) true rest
    rw [readMap, renderObject, intercalate_eq_separated, List.cons_append, List.cons_append,
      skipBlanks_cons rfl, List.append_assoc]
    exact hmembers

/-- Reading the members one after another takes what has been collected from the first state to the
last. -/
inductive Collects (fields : List (Field σ)) : σ → List (Text × Text) → σ → Prop where
  | nil (s : σ) : Collects fields s [] s
  | cons {s s' s'' : σ} {name t : Text} {ms : List (Text × Text)} (f : Field σ)
      (hf : fields.find? (·.name == name) = some f) (hnew : f.isSet s = false)
      (hread : Reads (f.read s) t s') (hrest : Collects fields s' ms s'') :
      Collects fields s ((name, t) :: ms) s''

theorem readFields_separated {fields : List (Field σ)} {s s' : σ} {ms : List (Text × Text)}
    (h : Collects fields s ms s') {bound : Nat} (hb : ms.length < bound) (isFirst : Bool) (rest : Text) :
    readFields fields bound isFirst s (separated isFirst (ms.map renderMember) ++ '\x7d' :: rest) =
      .ok (s', rest) := by
  induction h generalizing bound isFirst with
  | nil =>
    cases bound with
    | zero => exact absurd hb (Nat.not_lt_zero _)
    | succ bound => rfl
  | @cons s s' s'' name t ms f hf hnew hvalue hms ih =>
    cases bound with
    | zero => exact absurd hb (Nat.not_lt_zero _)
    | succ bound =>
      have hread := hvalue.reads _ (ends_separated (.inr rfl) (ms.map renderMember) rest)
      rw [List.map_cons, readFields, nextMember?_separated, ok_bind]
      simp only [readString_escaped, hf, hnew, readColon_cons, hread, ih (Nat.lt_of_succ_lt_succ hb), ok_bind,
        Bool.false_eq_true, if_false]

theorem reads_record {fields : List (Field σ)} {mayStop : Bool} {blank s : σ} {finish : σ → Option α}
    {ms : List (Text × Text)} (h : Collects fields blank ms s) (hs : finish s = some a) :
    Reads (readRecord mayStop fields blank finish) (renderObject ms) a where
  starts := ⟨'\x7b', _, rfl, rfl, by decide⟩
  reads rest _ := by
    have hfields := readFields_separated h (length_lt_separated ms rest) true rest
    have hobject : renderObject ms ++ rest =
        '\x7b' :: (separated true (ms.map renderMember) ++ '\x7d' :: rest) := by
      rw [renderObject, intercalate_eq_separated, List.cons_append, List.cons_append, List.append_assoc]
      rfl
    rw [hobject, readRecord, skipBlanks_cons rfl]
    simp only [hfields, ok_bind, hs, pure_eq]

theorem reads_alone {alone : Text → Option α} {holding : Text → Option (Reader α)}
    (h : alone name = some a) : Reads (readChoice alone holding) (renderText name) a where
  starts := ⟨'"', _, rfl, rfl, by decide⟩
  reads rest _ := by
    have hstring := readString_escaped name rest
    have htext : renderText name ++ rest = '"' :: (name.flatMap escape ++ '"' :: rest) := by
      simp [renderText]
    rw [htext, readChoice, skipBlanks_cons rfl]
    simp only [hstring, ok_bind, h, pure_eq]

theorem reads_holding {alone : Text → Option α} {holding : Text → Option (Reader α)}
    (hread : holding name = some read) (h : Reads read t a) :
    Reads (readChoice alone holding) (renderObject [(name, t)]) a where
  starts := ⟨'\x7b', _, rfl, rfl, by decide⟩
  reads rest _ := by
    have hobject : renderObject [(name, t)] ++ rest =
        '\x7b' :: '"' :: (name.flatMap escape ++ '"' :: ':' :: (t ++ '\x7d' :: rest)) := by
      simp [renderObject, renderMember, renderText]
    have hvalue := h.reads _ (ends_close (.inr rfl) rest)
    have hquote (t : Text) : readQuote ('"' :: t) = .ok t := rfl
    have hclose : closeObject ('\x7d' :: rest) = .ok rest := rfl
    rw [hobject, readChoice, skipBlanks_cons rfl]
    simp only [hquote, readString_escaped, hread, readColon_cons, hvalue, hclose, ok_bind, pure_eq]

end Unscramble.Json
