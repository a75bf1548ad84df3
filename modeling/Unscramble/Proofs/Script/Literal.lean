import Unscramble.Proofs.Outcome
import Unscramble.Proofs.Script.Commas
import Unscramble.Proofs.Text.Offsets
import Unscramble.Proofs.Text.Wildcard
import Unscramble.Script.Literal

/-! Where literals end: a text that closes what it opens is passed over. -/
namespace Unscramble.Literal
variable {c : Char} {x y v : Text} {ks : List Context}

def Context.opener : Context → Char
  | brace => '\x7b'
  | bracket => '['
  | quote | escape => '"'

def Context.enclose (k : Context) (x : Text) : Text := k.opener :: x ++ [k.closer]

theorem Context.enclose_append (k : Context) (x v : Text) :
    k.enclose x ++ v = k.opener :: (x ++ k.closer :: v) := by
  simp only [enclose, List.cons_append, List.append_assoc, List.nil_append]

theorem Context.not_mem_enclose {k : Context} (ho : c ≠ k.opener) (hc : c ≠ k.closer) (hx : c ∉ x) :
    c ∉ k.enclose x := by
  simp [enclose, ho, hc, hx]

/-- The contexts that `x` leaves behind from `ks` on, if it closes nothing around them. -/
def trace : List Context → Text → Option (List Context)
  | ks, [] => some ks
  | [], c :: t =>
    if c = '\x7d' || c = ']' then none else trace (Context.ofOpener? c).toList t
  | k :: ks, c :: t => trace (step k ks c) t

def Closed (x : Text) : Prop := trace [] x = some []

instance (x : Text) : Decidable (Closed x) := inferInstanceAs (Decidable (_ = _))

theorem trace_append (ks : List Context) (x y : Text) :
    trace ks (x ++ y) = (trace ks x).bind (trace · y) := by
  induction x generalizing ks with
  | nil => cases ks <;> rfl
  | cons c x ih =>
    cases ks with
    | nil =>
      simp only [List.cons_append, trace]
      split
      · rfl
      · exact ih _
    | cons k ks => exact ih _

theorem Closed.append (hx : Closed x) (hy : Closed y) : Closed (x ++ y) := by
  rw [Closed, trace_append, hx]
  exact hy

theorem closed_nil : Closed [] := rfl

theorem step_append (k : Context) (ks outer : List Context) (c : Char) :
    step k (ks ++ outer) c = step k ks c ++ outer := by
  cases k with
  | escape => rfl
  | quote =>
    simp only [step]
    split
    · rfl
    · split <;> rfl
  | brace =>
    simp only [step]
    split
    · rfl
    · split <;> rfl
  | bracket =>
    simp only [step]
    split
    · rfl
    · split <;> rfl

/-- Braces and brackets; other characters than closers leave them open. -/
def Context.IsLevel (k : Context) : Prop := k = .brace ∨ k = .bracket

theorem step_level {k : Context} (hk : k.IsLevel) (hc : ¬(c = '\x7d' || c = ']') = true) :
    step k ks c = (Context.ofOpener? c).toList ++ k :: ks := by
  simp only [Bool.or_eq_true, decide_eq_true_eq, not_or] at hc
  obtain rfl | rfl := hk <;>
  · simp only [step, Context.closer, hc.1, hc.2, if_false]
    cases Context.ofOpener? c <;> rfl

theorem trace_level {k : Context} (hk : k.IsLevel) (outer : List Context) {ks' : List Context}
    (h : trace ks x = some ks') : trace (ks ++ k :: outer) x = some (ks' ++ k :: outer) := by
  induction x generalizing ks with
  | nil =>
    cases ks <;>
    · cases h
      rfl
  | cons c x ih =>
    cases ks with
    | nil =>
      simp only [trace] at h
      split at h
      · cases h
      · next hc =>
        rw [List.nil_append, trace, step_level hk hc]
        exact ih h
    | cons j ks =>
      rw [List.cons_append, trace, step_append]
      exact ih h

theorem Closed.enclose {k : Context} (hk : k.IsLevel) (h : Closed x) : Closed (k.enclose x) := by
  have hx := trace_level hk [] h
  rw [Context.enclose, Closed, trace_append]
  obtain rfl | rfl := hk <;>
  · rw [List.nil_append] at hx
    exact (congrArg (Option.bind · (trace · _)) hx).trans rfl

def marks : List Char := ['\x7b', '\x7d', '[', ']', '"', '\\']

theorem closed_cons (hc : c ∉ marks) : Closed (c :: x) ↔ Closed x := by
  simp only [marks, List.mem_cons, List.not_mem_nil, or_false, not_or] at hc
  simp [Closed, trace, Context.ofOpener?, hc]

theorem closed_of_plain (h : ∀ c ∈ x, c ∉ marks) : Closed x := by
  induction x with
  | nil => rfl
  | cons c x ih => exact (closed_cons (h c (.head x))).2 (ih fun d hd => h d (.tail c hd))

theorem trace_quoted (h : Commas.Quoted '"' x) : trace [.quote] x = some [.quote] := by
  induction h with
  | nil => rfl
  | plain hq hb _ ih =>
    simp only [trace, step, hq, hb, if_false]
    exact ih
  | escaped c _ ih => exact ih

theorem Closed.string (h : Commas.Quoted '"' x) : Closed (Context.quote.enclose x) := by
  rw [Context.enclose, Closed, trace_append]
  exact (congrArg (Option.bind · (trace · ['"'])) (trace_quoted h)).trans rfl

theorem closed_quoted (h : ∀ c ∈ x, c ≠ '"' ∧ c ≠ '\\') : Closed (Context.quote.enclose x) :=
  .string (.of_plain h)

/-- Word characters open and close nothing, so that the form decides. -/
theorem trace_fits {f : Text} (h : Text.Fits f x) (ks : List Context) : trace ks f = trace ks x := by
  induction h generalizing ks with
  | nil => rfl
  | @cons s c f x hs _ ih =>
    have hb : s = '\x7b' ↔ c = '\x7b' := hs.eq_iff (by decide)
    have hb' : s = '\x7d' ↔ c = '\x7d' := hs.eq_iff (by decide)
    have hk : s = '[' ↔ c = '[' := hs.eq_iff (by decide)
    have hk' : s = ']' ↔ c = ']' := hs.eq_iff (by decide)
    have hq : s = '"' ↔ c = '"' := hs.eq_iff (by decide)
    have hs' : s = '\\' ↔ c = '\\' := hs.eq_iff (by decide)
    have ho : Context.ofOpener? s = Context.ofOpener? c := by
      simp only [Context.ofOpener?, hb, hk, hq]
    cases ks with
    | nil => simp only [trace, hb', hk', ho, ih]
    | cons k ks =>
      have hstep : step k ks s = step k ks c := by
        cases k <;> simp only [step, Context.closer, hb', hk', hq, hs', ho] <;> rfl
      simp only [trace, hstep, ih]

theorem Closed.of_fits {f : Text} (h : Text.Fits f x) (hf : Closed f) : Closed x :=
  (trace_fits h []).symm.trans hf

theorem closingOffset?_cons {k : Context} (o : Nat) (t : Text) :
    closingOffset? (k :: ks) o (c :: t) = closingOffset? (step k ks c) (o + c.utf8Size) t := rfl

theorem closingOffset?_nil (o : Nat) (t : Text) : closingOffset? [] o t = some o := by
  cases t <;> rfl

theorem closingOffset?_of_trace {k : Context} (hk : k.IsLevel) (outer : List Context)
    {ks' : List Context} (o : Nat) (v : Text) (h : trace ks x = some ks') :
    closingOffset? (ks ++ k :: outer) o (x ++ v) =
      closingOffset? (ks' ++ k :: outer) (o + x.byteLength) v := by
  induction x generalizing ks o with
  | nil =>
    cases ks <;>
    · cases h
      rfl
  | cons c x ih =>
    rw [Text.byteLength_cons, ← Nat.add_assoc]
    cases ks with
    | nil =>
      simp only [trace] at h
      split at h
      · cases h
      · next hc =>
        rw [List.nil_append, List.cons_append, closingOffset?_cons, step_level hk hc]
        exact ih _ h
    | cons j ks =>
      rw [List.cons_append, List.cons_append, closingOffset?_cons, step_append]
      exact ih _ h

theorem closingOffset?_closed {k : Context} (hk : k.IsLevel) (o : Nat) (v : Text) (h : Closed x) :
    closingOffset? [k] o (x ++ k.closer :: v) = some (o + x.byteLength + 1) := by
  have hx := closingOffset?_of_trace hk [] o (k.closer :: v) h
  rw [List.nil_append] at hx
  rw [hx, closingOffset?_cons]
  obtain rfl | rfl := hk <;> exact closingOffset?_nil _ v

theorem byteLength_enclose {k : Context} (hk : k.IsLevel) (x : Text) :
    Text.byteLength (k.enclose x) = x.byteLength + 2 := by
  have ho : k.opener.utf8Size = 1 ∧ k.closer.utf8Size = 1 := by
    obtain rfl | rfl := hk <;> exact ⟨rfl, rfl⟩
  simp only [Context.enclose, List.cons_append, Text.byteLength_cons, Text.byteLength_append,
    Text.byteLength_nil, ho]
  omega

theorem span_enclose {k : Context} (hk : k.IsLevel) (u : Text) (hx : Closed x) (v : Text) :
    span (u ++ (k.enclose x ++ v)) u.byteLength =
      .ok ⟨u.byteLength, Text.byteLength (u ++ k.enclose x)⟩ := by
  have ho : Context.ofLiteral? k.opener = some k ∧ k.opener.utf8Size = 1 := by
    obtain rfl | rfl := hk <;> exact ⟨rfl, rfl⟩
  rw [Text.byteLength_append, byteLength_enclose hk]
  simp only [span, Text.dropBytes?_append, Context.enclose_append, ho, closingOffset?_closed hk _ _ hx]
  congr 2
  omega

theorem covered_append (u x v : Text) :
    covered (u ++ (x ++ v)) ⟨u.byteLength, Text.byteLength (u ++ x)⟩ =
      .ok ⟨x, ⟨u.byteLength, Text.byteLength (u ++ x)⟩⟩ := by
  simp only [covered, Text.match?, ← List.append_assoc, Text.slice?_append, Option.map_some]

theorem at?_enclose {k : Context} (hk : k.IsLevel) (u : Text) (hx : Closed x) (v : Text) :
    at? (u ++ (k.enclose x ++ v)) u.byteLength =
      .ok ⟨k.enclose x, ⟨u.byteLength, Text.byteLength (u ++ k.enclose x)⟩⟩ := by
  rw [at?, span_enclose hk u hx v, Outcome.ok_bind, covered_append]

theorem inside_enclose {k : Context} (hk : k.IsLevel) (x : Text) :
    inside (k.enclose x) = .ok x := by
  have ho : k.opener.utf8Size = 1 := by obtain rfl | rfl := hk <;> rfl
  have hs := Text.slice?_append [k.opener] x [k.closer]
  have hlen : x.byteLength + 2 - 1 = Text.byteLength ([k.opener] ++ x) := by
    rw [Text.byteLength_append, Text.byteLength_cons, ho, Text.byteLength_nil]
    omega
  have hone : Text.byteLength [k.opener] = 1 := by rw [Text.byteLength_cons, ho, Text.byteLength_nil]
  rw [hone] at hs
  have hx : (k.enclose x).slice? ⟨1, Text.byteLength ([k.opener] ++ x)⟩ = some x := hs
  rw [inside, byteLength_enclose hk, if_pos (Nat.le_add_left 2 _), hlen]
  simp only [hx]

end Unscramble.Literal
