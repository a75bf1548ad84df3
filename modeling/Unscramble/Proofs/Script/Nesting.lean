import Unscramble.Proofs.Script.Grammar
import Unscramble.Proofs.Script.Reading

/-! Properly nested literals, with strings in quotes of both kinds. The reading for commas takes each
of them as a whole. The scan for literals knows double quotes only, so it takes as a whole those that
are literals with single quotes read like any other character, and no others. -/
namespace Unscramble.Literal
open Commas (Quoted Closes IsOrdinary)
variable {P Q : Text → Prop} {l x y : Text} {d : Nat}

/-- Brackets are matched in kind outside strings. What stands between single quotes has the
property `P`. -/
inductive Nested (P : Text → Prop) : Text → Prop
  | nil : Nested P []
  | brackets {o c : Char} {x y : Text} (hb : (o, c) ∈ Commas.brackets) (hx : Nested P x)
    (hy : Nested P y) : Nested P (o :: (x ++ c :: y))
  | doubleQuotes {s y : Text} (hs : Quoted '"' s) (hy : Nested P y) :
    Nested P ('"' :: (s ++ '"' :: y))
  | singleQuotes {s y : Text} (hs : Quoted '\'' s) (hp : P s) (hy : Nested P y) :
    Nested P ('\'' :: (s ++ '\'' :: y))
  | ordinary {c : Char} {y : Text} (hc : IsOrdinary c) (hy : Nested P y) : Nested P (c :: y)

def IsNestedLiteral (P : Text → Prop) (l : Text) : Prop :=
  ∃ (k : Context) (x : Text), k.IsLevel ∧ Nested P x ∧ l = k.enclose x

theorem mem_openers_and_closers {o c : Char} (h : (o, c) ∈ Commas.brackets) :
    o ∈ Commas.openers ∧ c ∈ Commas.closers :=
  ⟨List.mem_map.2 ⟨_, h, rfl⟩, List.mem_map.2 ⟨_, h, rfl⟩⟩

theorem Nested.closes_append (hx : Nested P x) (hy : Closes (d + 1) y) : Closes (d + 1) (x ++ y) := by
  induction hx generalizing d y with
  | nil => exact hy
  | brackets hb _ _ ihx ihz =>
    obtain ⟨ho, hc⟩ := mem_openers_and_closers hb
    rw [List.cons_append, List.append_assoc, List.cons_append]
    exact .opener ho (ihx (.closer hc (ihz hy)))
  | doubleQuotes hs _ ih =>
    rw [List.cons_append, List.append_assoc, List.cons_append]
    exact .string (by decide) hs (ih hy)
  | singleQuotes hs _ _ ih =>
    rw [List.cons_append, List.append_assoc, List.cons_append]
    exact .string (by decide) hs (ih hy)
  | ordinary hc _ ih => exact .ordinary hc (fun _ => Nat.succ_ne_zero _) (ih hy)

theorem mem_brackets {k : Context} (hk : k.IsLevel) : (k.opener, k.closer) ∈ Commas.brackets := by
  obtain rfl | rfl := hk <;> decide

theorem IsNestedLiteral.whole (h : IsNestedLiteral P l) : Commas.Whole l := by
  obtain ⟨k, x, hk, hx, rfl⟩ := h
  obtain ⟨ho, hc⟩ := mem_openers_and_closers (mem_brackets hk)
  exact Commas.whole_iff.2 (.opener ho (hx.closes_append (.closer hc .nil)))

theorem Closed.brackets {o c : Char} (hb : (o, c) ∈ Commas.brackets) (hx : Closed x) :
    Closed (o :: (x ++ [c])) := by
  have hparen : Closed ['('] ∧ Closed [')'] := by decide
  simp only [Commas.brackets, List.mem_cons, List.not_mem_nil, or_false, Prod.mk.injEq] at hb
  obtain ⟨rfl, rfl⟩ | ⟨rfl, rfl⟩ | ⟨rfl, rfl⟩ := hb
  · exact hparen.1.append (hx.append hparen.2)
  · exact hx.enclose (.inr rfl)
  · exact hx.enclose (.inl rfl)

theorem closed_ordinary {c : Char} (hc : IsOrdinary c) : Closed [c] := by
  simp only [IsOrdinary, Commas.quotes, Commas.openers, Commas.closers, Commas.brackets,
    List.map_cons, List.map_nil, List.mem_cons, List.not_mem_nil, or_false, not_or] at hc
  simp [Closed, trace, Context.ofOpener?, hc]

/-- Where single quotes hide nothing that opens or closes, a nested text closes all that it opens. -/
theorem Nested.closed (hx : Nested Closed x) : Closed x := by
  have hquote : Closed ['\''] := by decide
  induction hx with
  | nil => rfl
  | brackets hb _ _ ihx ihy =>
    rw [List.append_cons]
    exact (ihx.brackets hb).append ihy
  | doubleQuotes hs _ ih =>
    rw [List.append_cons]
    exact (Closed.string hs).append ih
  | singleQuotes _ hp _ ih => exact hquote.append (hp.append (hquote.append ih))
  | ordinary hc _ ih => exact (closed_ordinary hc).append ih

/-- The scan from the start of a text stops behind a literal, whatever follows it. -/
theorem span_at_start_iff (l v : Text) :
    span (l ++ v) 0 = .ok ⟨0, l.byteLength⟩ ↔ IsLiteral l := by
  have hb : BeginsWith (l ++ v) 0 l := ⟨v, Text.dropBytes?_append [] _⟩
  constructor
  · intro h
    obtain ⟨l', ⟨v', hv⟩, hl', hs⟩ := exists_of_span h
    have hlen : l.byteLength = l'.byteLength := by simpa using congrArg Span.stop hs
    obtain ⟨v'', hv''⟩ := hb
    rwa [Text.eq_of_byteLength_eq (Option.some.inj (hv''.symm.trans hv)) hlen]
  · intro hl
    rw [span_of_beginsWith hb hl, Nat.zero_add]

theorem IsNestedLiteral.isLiteral (h : IsNestedLiteral Closed l) : IsLiteral l := by
  obtain ⟨k, x, hk, hx, rfl⟩ := h
  exact ⟨k, x, hk, hx.closed.items hk, rfl⟩

/-- Of a properly nested literal, the first comma behind it is the first at the top level. The scan
comes to its end if and only if it is a literal for the scan, and so it is where what stands between
single quotes closes the braces, square brackets and double quotes that it opens. -/
theorem scans_of_isNestedLiteral (h : IsNestedLiteral (fun _ => True) l) :
    (∀ v, Commas.offset? (l ++ ',' :: v) = some l.byteLength) ∧
    (∀ v, span (l ++ v) 0 = .ok ⟨0, l.byteLength⟩ ↔ IsLiteral l) ∧
    (IsNestedLiteral Closed l → ∀ v, span (l ++ v) 0 = .ok ⟨0, l.byteLength⟩) := by
  refine ⟨fun v => ?_, span_at_start_iff l, fun hq v => ?_⟩
  · rw [Commas.offset?, Commas.cut?_append h.whole]
    rfl
  · exact (span_at_start_iff l v).2 hq.isLiteral

def quotedMarks : Text := "[\"\x7d'\\\"\",('\x7b\\',\x7d')]".toList

theorem quotedMarks_isNestedLiteral (hp : P "\x7b\\',\x7d".toList) : IsNestedLiteral P quotedMarks := by
  have hdouble : Quoted '"' "\x7d'\\\"".toList :=
    .plain (by decide) (by decide) (.plain (by decide) (by decide) (.escaped '"' .nil))
  have hsingle : Quoted '\'' "\x7b\\',\x7d".toList :=
    .plain (by decide) (by decide) (.escaped '\'' (.plain (by decide) (by decide)
      (.plain (by decide) (by decide) .nil)))
  exact ⟨.bracket, _, .inr rfl, .doubleQuotes hdouble <| .ordinary (by decide) <|
    .brackets (by decide) (.singleQuotes hsingle hp .nil) .nil, rfl⟩

theorem scans_of_quotedMarks : IsNestedLiteral (fun _ => True) quotedMarks ∧
    (∀ v, Commas.offset? (quotedMarks ++ ',' :: v) = some 18) ∧
    ∀ v, span (quotedMarks ++ v) 0 = .ok ⟨0, 18⟩ := by
  have h := scans_of_isNestedLiteral (quotedMarks_isNestedLiteral trivial)
  exact ⟨quotedMarks_isNestedLiteral trivial, h.1, h.2.2 (quotedMarks_isNestedLiteral (by decide))⟩

def quotedQuote : Text := "['\"']".toList

/-- The double quote opens a string for the scan, which finds no end. -/
theorem quotedQuote_unterminated : IsNestedLiteral (fun _ => True) quotedQuote ∧
    Commas.offset? (quotedQuote ++ [',']) = some quotedQuote.byteLength ∧
    span quotedQuote 0 = .error (.unterminated 0) := by
  have hq : Quoted '\'' ['"'] := .plain (by decide) (by decide) .nil
  exact ⟨⟨.bracket, _, .inr rfl, .singleQuotes hq trivial .nil, rfl⟩, by decide, by decide⟩

end Unscramble.Literal
