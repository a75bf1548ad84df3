import Unscramble.Proofs.Script.Literal
import Unscramble.Proofs.Text.Octets

/-! The grammar of literals, read character by character, and the scan against it: the scan comes to
an end where a literal ends and nowhere else. -/
namespace Unscramble.Literal
variable {k j : Context} {ks : List Context} {c : Char} {o n : Nat} {l x y t : Text}

inductive IsQuoted : Text → Prop
  | nil : IsQuoted []
  | plain {c : Char} {x : Text} (hq : c ≠ '"') (hb : c ≠ '\\') (hx : IsQuoted x) : IsQuoted (c :: x)
  | escaped (c : Char) {x : Text} (hx : IsQuoted x) : IsQuoted ('\\' :: c :: x)

/-- What may stand between the brackets of a literal of kind `k`. The closer of the other kind is
a character like any other. -/
inductive Items : Context → Text → Prop
  | nil (k : Context) : Items k []
  | literal {k j : Context} {x y : Text} (hj : j.IsLevel) (hx : Items j x) (hy : Items k y) :
    Items k (j.enclose x ++ y)
  | string {k : Context} {x y : Text} (hx : IsQuoted x) (hy : Items k y) :
    Items k (Context.quote.enclose x ++ y)
  | plain {k : Context} {c : Char} {y : Text} (hc : c ∉ ['\x7b', '[', '"', k.closer])
    (hy : Items k y) : Items k (c :: y)

def IsLiteral (l : Text) : Prop := ∃ (k : Context) (x : Text), k.IsLevel ∧ Items k x ∧ l = k.enclose x

theorem step_closer (hk : k ≠ .escape) : step k ks k.closer = ks := by
  cases k with
  | escape => exact absurd rfl hk
  | brace | bracket | quote => rfl

theorem step_opener (hk : k.IsLevel) (hj : j ≠ .escape) : step k ks j.opener = j :: k :: ks := by
  obtain rfl | rfl := hk <;>
  · cases j with
    | escape => exact absurd rfl hj
    | brace | bracket | quote => rfl

theorem step_plain (hk : k.IsLevel) (hc : c ∉ ['\x7b', '[', '"', k.closer]) :
    step k ks c = k :: ks := by
  simp only [List.mem_cons, List.not_mem_nil, or_false, not_or] at hc
  obtain rfl | rfl := hk <;> simp only [step, Context.ofOpener?, hc, if_false]

theorem Context.IsLevel.ne_escape (hk : k.IsLevel) : k ≠ .escape := by
  obtain rfl | rfl := hk <;> decide

theorem closingOffset?_quoted (hx : IsQuoted x) (o : Nat) (v : Text) :
    closingOffset? (.quote :: ks) o (x ++ v) = closingOffset? (.quote :: ks) (o + x.byteLength) v := by
  induction hx generalizing o with
  | nil => rfl
  | plain hq hb _ ih =>
    rw [List.cons_append, closingOffset?_cons, step, if_neg hb, if_neg hq, ih, Text.byteLength_cons,
      Nat.add_assoc]
  | escaped c _ ih =>
    rw [List.cons_append, List.cons_append, closingOffset?_cons, step, if_pos rfl,
      closingOffset?_cons, step, ih, Text.byteLength_cons, Text.byteLength_cons]
    simp only [Nat.add_assoc]

theorem closingOffset?_enclose (hk : k.IsLevel) (hj : j ≠ .escape) (o : Nat) (v : Text)
    (hx : ∀ o v, closingOffset? (j :: k :: ks) o (x ++ v) =
      closingOffset? (j :: k :: ks) (o + x.byteLength) v) :
    closingOffset? (k :: ks) o (j.enclose x ++ v) =
      closingOffset? (k :: ks) (o + Text.byteLength (j.enclose x)) v := by
  rw [Context.enclose_append, closingOffset?_cons, step_opener hk hj, hx, closingOffset?_cons,
    step_closer hj]
  simp only [Context.enclose, List.cons_append, Text.byteLength_cons, Text.byteLength_append,
    Text.byteLength_nil, Nat.add_assoc, Nat.add_zero]

theorem closingOffset?_items (hx : Items k x) (hk : k.IsLevel) (o : Nat) (v : Text) :
    closingOffset? (k :: ks) o (x ++ v) = closingOffset? (k :: ks) (o + x.byteLength) v := by
  induction hx generalizing ks o v with
  | nil => rfl
  | literal hj _ _ ihx ihy =>
    rw [List.append_assoc, closingOffset?_enclose hk hj.ne_escape _ _ (ihx hj), ihy hk,
      Text.byteLength_append, Nat.add_assoc]
  | string hq _ ihy =>
    rw [List.append_assoc, closingOffset?_enclose hk (by decide) _ _ (closingOffset?_quoted hq),
      ihy hk, Text.byteLength_append, Nat.add_assoc]
  | plain hc _ ih =>
    rw [List.cons_append, closingOffset?_cons, step_plain hk hc, ih hk, Text.byteLength_cons,
      Nat.add_assoc]

/-- What is read from inside a context until it is left, its closer included. -/
def Context.Ends : Context → Text → Prop
  | escape, x => ∃ c, x = [c]
  | quote, x => ∃ y, IsQuoted y ∧ x = y ++ ['"']
  | k, x => ∃ y, Items k y ∧ x = y ++ [k.closer]

def EndsAll : List Context → Text → Prop
  | [], x => x = []
  | k :: ks, x => ∃ y z, x = y ++ z ∧ k.Ends y ∧ EndsAll ks z

theorem ends_iff (hk : k.IsLevel) : k.Ends x ↔ ∃ y, Items k y ∧ x = y ++ [k.closer] := by
  obtain rfl | rfl := hk <;> exact Iff.rfl

theorem opener_of_ofOpener? (h : Context.ofOpener? c = some j) : j ≠ .escape ∧ c = j.opener := by
  rw [Context.ofOpener?] at h
  split at h
  next hc => exact Option.some.inj h ▸ ⟨by decide, hc⟩
  split at h
  next hc => exact Option.some.inj h ▸ ⟨by decide, hc⟩
  split at h
  next hc => exact Option.some.inj h ▸ ⟨by decide, hc⟩
  · cases h

theorem not_mem_of_ofOpener? (h : Context.ofOpener? c = none) (hc : c ≠ k.closer) :
    c ∉ ['\x7b', '[', '"', k.closer] := by
  rw [Context.ofOpener?] at h
  split_ifs at h with hbrace hbracket hquote
  simp [hbrace, hbracket, hquote, hc]

theorem items_of_ends (hj : j ≠ .escape) (hx : j.Ends x) (hy : Items k y) :
    Items k (j.opener :: x ++ y) := by
  cases j with
  | escape => exact absurd rfl hj
  | quote =>
    obtain ⟨z, hz, rfl⟩ := hx
    exact .string hz hy
  | brace =>
    obtain ⟨z, hz, rfl⟩ := hx
    exact .literal (.inl rfl) hz hy
  | bracket =>
    obtain ⟨z, hz, rfl⟩ := hx
    exact .literal (.inr rfl) hz hy

theorem endsAll_cons_level (hk : k.IsLevel) (h : EndsAll (step k ks c) x) :
    EndsAll (k :: ks) (c :: x) := by
  by_cases hc : c = k.closer
  · subst hc
    rw [step_closer hk.ne_escape] at h
    exact ⟨[k.closer], x, rfl, (ends_iff hk).2 ⟨[], .nil k, rfl⟩, h⟩
  · cases ho : Context.ofOpener? c with
    | none =>
      have hplain := not_mem_of_ofOpener? ho hc
      rw [step_plain hk hplain] at h
      obtain ⟨y, z, rfl, hy, hz⟩ := h
      obtain ⟨i, hi, rfl⟩ := (ends_iff hk).1 hy
      exact ⟨c :: (i ++ [k.closer]), z, rfl, (ends_iff hk).2 ⟨c :: i, .plain hplain hi, rfl⟩, hz⟩
    | some j =>
      obtain ⟨hj, rfl⟩ := opener_of_ofOpener? ho
      rw [step_opener hk hj] at h
      obtain ⟨y, w, rfl, hy, y', z, rfl, hy', hz⟩ := h
      obtain ⟨i, hi, rfl⟩ := (ends_iff hk).1 hy'
      refine ⟨j.opener :: y ++ i ++ [k.closer], z, by simp, ?_, hz⟩
      exact (ends_iff hk).2 ⟨_, items_of_ends hj hy hi, rfl⟩

theorem endsAll_cons (h : EndsAll (step k ks c) x) : EndsAll (k :: ks) (c :: x) := by
  cases k with
  | brace => exact endsAll_cons_level (.inl rfl) h
  | bracket => exact endsAll_cons_level (.inr rfl) h
  | escape => exact ⟨[c], x, rfl, ⟨c, rfl⟩, h⟩
  | quote =>
    simp only [step] at h
    split at h
    next hb =>
      obtain ⟨_, _, rfl, ⟨d, rfl⟩, _, z, rfl, ⟨y, hy, rfl⟩, hz⟩ := h
      subst hb
      exact ⟨'\\' :: d :: (y ++ ['"']), z, rfl, ⟨_, .escaped d hy, rfl⟩, hz⟩
    next hb =>
      split at h
      next hq =>
        subst hq
        exact ⟨['"'], x, rfl, ⟨[], .nil, rfl⟩, h⟩
      next hq =>
        obtain ⟨_, z, rfl, ⟨y, hy, rfl⟩, hz⟩ := h
        exact ⟨c :: (y ++ ['"']), z, rfl, ⟨_, .plain hq hb hy, rfl⟩, hz⟩

/-- The invariant of the scan: what has been passed over when it ends leaves all contexts. -/
theorem endsAll_of_closingOffset? (h : closingOffset? ks o t = some n) :
    ∃ x v, t = x ++ v ∧ EndsAll ks x ∧ n = o + x.byteLength := by
  induction t generalizing ks o with
  | nil =>
    cases ks with
    | nil => exact ⟨[], [], rfl, rfl, (Option.some.inj h).symm⟩
    | cons k ks => cases h
  | cons c t ih =>
    cases ks with
    | nil => exact ⟨[], c :: t, rfl, rfl, (Option.some.inj h).symm⟩
    | cons k ks =>
      rw [closingOffset?_cons] at h
      obtain ⟨x, v, rfl, hx, rfl⟩ := ih h
      exact ⟨c :: x, v, rfl, endsAll_cons hx, by rw [Text.byteLength_cons, Nat.add_assoc]⟩

theorem closingOffset?_eq_some_iff (hk : k.IsLevel) : closingOffset? [k] o t = some n ↔
    ∃ x v, t = x ++ k.closer :: v ∧ Items k x ∧ n = o + x.byteLength + 1 := by
  constructor
  · intro h
    obtain ⟨_, v, rfl, ⟨_, _, rfl, he, rfl⟩, rfl⟩ := endsAll_of_closingOffset? h
    obtain ⟨x, hx, rfl⟩ := (ends_iff hk).1 he
    refine ⟨x, v, by simp, hx, ?_⟩
    obtain rfl | rfl := hk <;> simp [Text.byteLength_append, Context.closer, Nat.add_assoc] <;> rfl
  · rintro ⟨x, v, rfl, hx, rfl⟩
    rw [closingOffset?_items hx hk, closingOffset?_cons, step_closer hk.ne_escape, closingOffset?_nil]
    obtain rfl | rfl := hk <;> rfl

theorem Closed.items (hx : Closed x) (hk : k.IsLevel) : Items k x := by
  obtain ⟨y, v, he, hy, hn⟩ := (closingOffset?_eq_some_iff hk).1 (closingOffset?_closed hk 0 [] hx)
  rwa [Text.eq_of_byteLength_eq he (by omega)]

theorem ofLiteral?_eq_some_iff : Context.ofLiteral? c = some k ↔ k.IsLevel ∧ c = k.opener := by
  rw [Context.ofLiteral?]
  constructor
  · intro h
    split_ifs at h with hbrace hbracket
    · exact Option.some.inj h ▸ ⟨.inl rfl, hbrace⟩
    · exact Option.some.inj h ▸ ⟨.inr rfl, hbracket⟩
  · rintro ⟨rfl | rfl, rfl⟩ <;> rfl

theorem opener_utf8Size (hk : k.IsLevel) : k.opener.utf8Size = 1 := by
  obtain rfl | rfl := hk <;> rfl

theorem IsLiteral.eq_of_append_eq {l l' v v' : Text} (hl : IsLiteral l) (hl' : IsLiteral l')
    (h : l ++ v = l' ++ v') : l = l' := by
  obtain ⟨k, x, hk, hx, rfl⟩ := hl
  obtain ⟨k', x', hk', hx', rfl⟩ := hl'
  rw [Context.enclose_append, Context.enclose_append] at h
  obtain ⟨ho, ht⟩ := List.cons.inj h
  have hkk : k = k' := by
    obtain rfl | rfl := hk <;> obtain rfl | rfl := hk' <;> first | rfl | exact absurd ho (by decide)
  subst hkk
  have hn := (closingOffset?_eq_some_iff (o := 0) hk).2 ⟨x, v, rfl, hx, rfl⟩
  have hn' := (closingOffset?_eq_some_iff (o := 0) hk).2 ⟨x', v', rfl, hx', rfl⟩
  rw [ht, hn', Option.some.injEq] at hn
  have hxx : x = x' := Text.eq_of_byteLength_eq ht (by omega)
  rw [hxx]

def OpensAt (text : Text) (start : Nat) : Prop :=
  ∃ c ∈ ['\x7b', '['], (Utf8.encode text)[start]? = some c.toNat

section
variable {text : Text} {start : Nat}

theorem opensAt_iff : OpensAt text start ↔
    ∃ (k : Context) (r : Text), k.IsLevel ∧ text.dropBytes? start = some (k.opener :: r) := by
  constructor
  · rintro ⟨c, hc, hb⟩
    obtain rfl | rfl : c = '\x7b' ∨ c = '[' := by simpa using hc
    · obtain ⟨r, hr⟩ := (Utf8.getElem?_encode_eq_iff (by decide)).1 hb
      exact ⟨.brace, r, .inl rfl, hr⟩
    · obtain ⟨r, hr⟩ := (Utf8.getElem?_encode_eq_iff (by decide)).1 hb
      exact ⟨.bracket, r, .inr rfl, hr⟩
  · rintro ⟨k, r, hk, hr⟩
    obtain rfl | rfl := hk
    · exact ⟨'\x7b', by decide, (Utf8.getElem?_encode_eq_iff (by decide)).2 ⟨r, hr⟩⟩
    · exact ⟨'[', by decide, (Utf8.getElem?_encode_eq_iff (by decide)).2 ⟨r, hr⟩⟩

theorem span_eq_ok (hk : k.IsLevel) (ht : text.dropBytes? start = some (k.opener :: t))
    (hc : closingOffset? [k] (start + 1) t = some n) : span text start = .ok ⟨start, n⟩ := by
  simp only [span, ht, ofLiteral?_eq_some_iff.2 ⟨hk, rfl⟩, opener_utf8Size hk, hc]

theorem span_eq_unterminated (hk : k.IsLevel) (ht : text.dropBytes? start = some (k.opener :: t))
    (hc : closingOffset? [k] (start + 1) t = none) :
    span text start = .error (.unterminated start) := by
  simp only [span, ht, ofLiteral?_eq_some_iff.2 ⟨hk, rfl⟩, opener_utf8Size hk, hc]

theorem span_eq_malformed (h : ¬OpensAt text start) :
    ∃ m, span text start = .error (.malformed m) := by
  cases ht : text.dropBytes? start with
  | none => exact ⟨.noLiteral start none, by simp only [span, ht]⟩
  | some t =>
    cases t with
    | nil => exact ⟨.noLiteral start none, by simp only [span, ht]⟩
    | cons c t =>
      cases ho : Context.ofLiteral? c with
      | none => exact ⟨.noLiteral start (some c), by simp only [span, ht, ho]⟩
      | some k =>
        obtain ⟨hk, rfl⟩ := ofLiteral?_eq_some_iff.1 ho
        exact absurd (opensAt_iff.2 ⟨k, t, hk, ht⟩) h

def BeginsWith (text : Text) (start : Nat) (l : Text) : Prop :=
  ∃ v, text.dropBytes? start = some (l ++ v)

theorem slice?_eq_some_iff_beginsWith {s : Span} : text.slice? s = some l ↔
    BeginsWith text s.start l ∧ s.stop = s.start + l.byteLength := by
  rw [Text.slice?_eq_some_iff]
  constructor
  · rintro ⟨u, v, rfl, hu, hv⟩
    rw [List.append_assoc, ← hu, ← hv, Text.byteLength_append]
    exact ⟨⟨v, Text.dropBytes?_append u _⟩, rfl⟩
  · rintro ⟨⟨v, hv⟩, hs⟩
    obtain ⟨u, rfl, hu⟩ := Text.dropBytes?_eq_some_iff.1 hv
    exact ⟨u, v, (List.append_assoc ..).symm, hu, by rw [Text.byteLength_append, hu, hs]⟩

theorem span_of_beginsWith (h : BeginsWith text start l) (hl : IsLiteral l) :
    span text start = .ok ⟨start, start + l.byteLength⟩ := by
  obtain ⟨v, hv⟩ := h
  obtain ⟨k, x, hk, hx, rfl⟩ := hl
  rw [Context.enclose_append] at hv
  rw [span_eq_ok hk hv ((closingOffset?_eq_some_iff hk).2 ⟨x, v, rfl, hx, rfl⟩), byteLength_enclose hk]
  congr 2
  omega

/-- Where a literal may begin, one does or none is terminated. -/
theorem beginsWith_or_unterminated (h : OpensAt text start) :
    (∃ l, BeginsWith text start l ∧ IsLiteral l) ∨
      span text start = .error (.unterminated start) := by
  obtain ⟨k, t, hk, ht⟩ := opensAt_iff.1 h
  cases hc : closingOffset? [k] (start + 1) t with
  | none => exact .inr (span_eq_unterminated hk ht hc)
  | some n =>
    obtain ⟨x, v, rfl, hx, -⟩ := (closingOffset?_eq_some_iff hk).1 hc
    rw [← Context.enclose_append] at ht
    exact .inl ⟨k.enclose x, ⟨v, ht⟩, k, x, hk, hx, rfl⟩

theorem exists_of_span {s : Span} (h : span text start = .ok s) :
    ∃ l, BeginsWith text start l ∧ IsLiteral l ∧ s = ⟨start, start + l.byteLength⟩ := by
  by_cases ho : OpensAt text start
  · obtain ⟨l, hb, hl⟩ | hu := beginsWith_or_unterminated ho
    · exact ⟨l, hb, hl, Except.ok.inj (h.symm.trans (span_of_beginsWith hb hl))⟩
    · cases hu.symm.trans h
  · obtain ⟨m, hm⟩ := span_eq_malformed ho
    cases hm.symm.trans h

end

/-- The scan accepts exactly the literals: it gives the span of the one that begins at the offset,
whose end is the same whatever follows. Where a brace or a bracket stands and no literal begins, the
literal is unterminated; where neither stands, the input is malformed. -/
theorem span_accepts_literals (text : Text) (start : Nat) :
    (∀ s, span text start = .ok s ↔
      s.start = start ∧ ∃ l, text.slice? s = some l ∧ IsLiteral l) ∧
    (∀ l l' v v', IsLiteral l → IsLiteral l' → l ++ v = l' ++ v' → l = l') ∧
    (span text start = .error (.unterminated start) ↔
      OpensAt text start ∧ ∀ l, BeginsWith text start l → ¬IsLiteral l) ∧
    ((∃ m, span text start = .error (.malformed m)) ↔ ¬OpensAt text start) := by
  refine ⟨fun s => ⟨fun h => ?_, ?_⟩, fun _ _ _ _ => IsLiteral.eq_of_append_eq, ⟨fun h => ?_, ?_⟩,
    ⟨?_, span_eq_malformed⟩⟩
  · by_cases ho : OpensAt text start
    · obtain ⟨l, hb, hl⟩ | hu := beginsWith_or_unterminated ho
      · obtain rfl := Except.ok.inj ((span_of_beginsWith hb hl).symm.trans h)
        exact ⟨rfl, l, slice?_eq_some_iff_beginsWith.2 ⟨hb, rfl⟩, hl⟩
      · cases hu.symm.trans h
    · obtain ⟨m, hm⟩ := span_eq_malformed ho
      cases hm.symm.trans h
  · rintro ⟨rfl, l, hs, hl⟩
    obtain ⟨hb, hstop⟩ := slice?_eq_some_iff_beginsWith.1 hs
    rw [span_of_beginsWith hb hl, ← hstop]
  · refine ⟨?_, fun l hb hl => ?_⟩
    · by_contra ho
      obtain ⟨m, hm⟩ := span_eq_malformed ho
      cases hm.symm.trans h
    · cases (span_of_beginsWith hb hl).symm.trans h
  · rintro ⟨ho, hno⟩
    obtain ⟨l, hb, hl⟩ | hu := beginsWith_or_unterminated ho
    · exact absurd hl (hno l hb)
    · exact hu
  · rintro ⟨m, hm⟩ ho
    obtain ⟨l, hb, hl⟩ | hu := beginsWith_or_unterminated ho
    · cases (span_of_beginsWith hb hl).symm.trans hm
    · cases hu.symm.trans hm

end Unscramble.Literal
