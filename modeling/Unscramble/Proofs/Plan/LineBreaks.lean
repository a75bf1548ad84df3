import Unscramble.Proofs.Script.FunctionHead
import Unscramble.Proofs.Script.Grammar

/-! Line breaks in the body of a throttling function. A scan for the end of the body stays in the
contexts that it is in when it comes to one, unless a backslash is in front. As the breaks are left
out before anything else is looked for, the same program is built, or the same failure comes out. -/
namespace Unscramble
open Outcome
variable {x y v w w' z : Text} {p c : Char}

def IsLineBreak (c : Char) : Prop := c = '\n' ∨ c = '\r'

/-- Behind the character `p`, the second text is the first one with line breaks put in anywhere but
right behind a backslash. -/
inductive Broken : Char → Text → Text → Prop
  | nil (p : Char) : Broken p [] []
  | keep (p : Char) {c : Char} {x y : Text} (h : Broken c x y) : Broken p (c :: x) (c :: y)
  | insert {p c : Char} {x y : Text} (hc : IsLineBreak c) (hp : p ≠ '\\') (h : Broken c x y) :
    Broken p x (c :: y)

instance (c : Char) : Decidable (IsLineBreak c) := inferInstanceAs (Decidable (_ ∨ _))

def isBroken : Char → Text → Text → Bool
  | _, x, [] => x.isEmpty
  | p, [], c :: y => decide (IsLineBreak c ∧ p ≠ '\\') && isBroken c [] y
  | p, d :: x, c :: y => (decide (d = c) && isBroken c x y) ||
      (decide (IsLineBreak c ∧ p ≠ '\\') && isBroken c (d :: x) y)

theorem isBroken_iff : isBroken p x y = true ↔ Broken p x y := by
  constructor
  · intro h
    induction y generalizing p x with
    | nil =>
      obtain rfl := List.isEmpty_iff.1 h
      exact .nil p
    | cons c y ih =>
      cases x with
      | nil =>
        obtain ⟨hc, hy⟩ := (Bool.and_eq_true _ _).mp h
        obtain ⟨hc, hp⟩ := of_decide_eq_true hc
        exact .insert hc hp (ih hy)
      | cons d x =>
        obtain h | h := (Bool.or_eq_true _ _).mp h
        · obtain ⟨hd, hy⟩ := (Bool.and_eq_true _ _).mp h
          obtain rfl := of_decide_eq_true hd
          exact .keep p (ih hy)
        · obtain ⟨hc, hy⟩ := (Bool.and_eq_true _ _).mp h
          obtain ⟨hc, hp⟩ := of_decide_eq_true hc
          exact .insert hc hp (ih hy)
  · intro h
    induction h with
    | nil => rfl
    | keep p _ ih => simp [isBroken, ih]
    | @insert p c x y hc hp _ ih => cases x <;> simp [isBroken, hc, hp, ih]

instance (p : Char) (x y : Text) : Decidable (Broken p x y) := decidable_of_iff _ isBroken_iff

theorem withoutLineBreaks_append (x y : Text) : ThrottlingProgram.withoutLineBreaks (x ++ y) =
    ThrottlingProgram.withoutLineBreaks x ++ ThrottlingProgram.withoutLineBreaks y :=
  List.filter_append x y

theorem withoutLineBreaks_broken (h : Broken p x y) :
    ThrottlingProgram.withoutLineBreaks y = ThrottlingProgram.withoutLineBreaks x := by
  induction h with
  | nil => rfl
  | @keep p c x y _ ih =>
    have hcons (z : Text) := withoutLineBreaks_append [c] z
    exact (hcons y).trans (ih ▸ (hcons x).symm)
  | @insert p c x y hc hp _ ih =>
    rw [← ih]
    obtain rfl | rfl := hc <;> rfl

namespace Literal
variable {k : Context} {ks : List Context} {o n : Nat} {t : Text}

theorem closingOffset?_add (ks : List Context) (o d : Nat) (t : Text) :
    closingOffset? ks (o + d) t = (closingOffset? ks o t).map (· + d) := by
  induction t generalizing ks o with
  | nil => cases ks <;> rfl
  | cons c t ih =>
    cases ks with
    | nil => rfl
    | cons k ks =>
      rw [closingOffset?_cons, closingOffset?_cons, ← ih]
      congr 1
      omega

/-- An escape is the innermost context only, right behind a backslash. -/
structure IsEscapedBy (ks : List Context) (p : Char) : Prop where
  outer : .escape ∉ ks.tail
  inner : ks.head? = some .escape → p = '\\'

theorem isEscapedBy_of_not_mem (h : .escape ∉ ks) : IsEscapedBy ks p where
  outer hm := h (List.mem_of_mem_tail hm)
  inner hh := absurd (List.mem_of_mem_head? hh) h

theorem isEscapedBy_step (h : IsEscapedBy (k :: ks) p) (c : Char) : IsEscapedBy (step k ks c) c := by
  have houter : Context.escape ∉ ks := h.outer
  have hlevel (hk : k.IsLevel) : IsEscapedBy (step k ks c) c := by
    refine isEscapedBy_of_not_mem ?_
    by_cases hc : c = k.closer
    · subst hc
      rwa [step_closer hk.ne_escape]
    · obtain rfl | rfl := hk <;>
      · simp only [step, if_neg hc]
        cases ho : Context.ofOpener? c with
        | none => simpa using houter
        | some j => simpa [Ne.symm (opener_of_ofOpener? ho).1] using houter
  cases k with
  | escape => exact isEscapedBy_of_not_mem houter
  | brace => exact hlevel (.inl rfl)
  | bracket => exact hlevel (.inr rfl)
  | quote =>
    simp only [step]
    split
    next hc => exact ⟨by simpa using houter, fun _ => hc⟩
    · split
      · exact isEscapedBy_of_not_mem houter
      · exact isEscapedBy_of_not_mem (by simpa using houter)

theorem step_lineBreak (ks : List Context) (hc : IsLineBreak c) (hk : k ≠ .escape) :
    step k ks c = k :: ks := by
  obtain rfl | rfl := hc <;> cases k <;> first | rfl | exact absurd rfl hk

/-- A scan ends as far behind the text with the breaks as it does behind the other. -/
theorem closingOffset?_broken (h : Broken p x y) (hks : IsEscapedBy ks p) (hn : 0 < n)
    (hx : closingOffset? ks o (x ++ v) = some (o + x.byteLength + n)) :
    closingOffset? ks o (y ++ v) = some (o + y.byteLength + n) := by
  induction h generalizing ks o with
  | nil => exact hx
  | @keep p c x y _ ih =>
    cases ks with
    | nil =>
      have ho := Option.some.inj ((closingOffset?_nil _ _).symm.trans hx)
      omega
    | cons k ks =>
      rw [List.cons_append, closingOffset?_cons, Text.byteLength_cons, ← Nat.add_assoc] at hx ⊢
      exact ih (isEscapedBy_step hks c) hx
  | @insert p c x y hc hp _ ih =>
    cases ks with
    | nil =>
      have ho := Option.some.inj ((closingOffset?_nil _ _).symm.trans hx)
      omega
    | cons k ks =>
      have hk : k ≠ .escape := fun he => hp (hks.inner (congrArg some he))
      have hstay := step_lineBreak ks hc hk
      rw [List.cons_append, closingOffset?_cons, hstay, Text.byteLength_cons, ← Nat.add_assoc]
      refine ih (hstay ▸ isEscapedBy_step hks c) ?_
      rw [closingOffset?_add, hx, Option.map_some]
      congr 1
      omega

theorem items_broken (hk : k.IsLevel) (h : Broken k.opener x y) (hx : Items k x) : Items k y := by
  have hscan := (closingOffset?_eq_some_iff hk).2 ⟨x, [], rfl, hx, (Nat.add_assoc 0 _ 1).symm⟩
  have hks : IsEscapedBy [k] k.opener :=
    isEscapedBy_of_not_mem fun hm => hk.ne_escape (List.mem_singleton.1 hm).symm
  have hy := closingOffset?_broken h hks Nat.zero_lt_one hscan
  obtain ⟨y', v', he, hy', hn⟩ := (closingOffset?_eq_some_iff hk).1 hy
  rwa [Text.eq_of_byteLength_eq he (by omega)]

end Literal

/-- Line breaks have been put between the braces of the body of a definition in a script. -/
inductive BreaksBody (d : Definition) : Text → Text → Prop
  | intro {x y : Text} (front back : Text)
    (hbody : d.body = ⟨Literal.Context.brace.enclose x, ⟨front.byteLength,
      Text.byteLength (front ++ Literal.Context.brace.enclose x)⟩⟩) (h : Broken '\x7b' x y) :
    BreaksBody d (front ++ Literal.Context.brace.enclose x ++ back)
      (front ++ Literal.Context.brace.enclose y ++ back)

namespace Definition
variable {name script script' : Text} {d : Definition} {m : Match}

theorem IsHead.unique {z' t t' : Text} (h : IsHead name w z t) (h' : IsHead name w' z' t')
    (hw : z ++ t <+: w') (hz : z'.byteLength = z.byteLength) : z' = z ∧ t' = t := by
  obtain ⟨u, hu⟩ := hw
  obtain ⟨u', hu'⟩ := h'.begins
  have he : z ++ (t ++ u) = z' ++ (t' ++ u') := by
    rw [← List.append_assoc, hu, ← hu', List.append_assoc]
  obtain rfl := Text.eq_of_byteLength_eq he.symm hz
  exact ⟨rfl, h.endsWithBrace.unique h'.endsWithBrace (List.append_cancel_left he)⟩

theorem withoutLineBreaks_enclose (h : Broken p x y) :
    ThrottlingProgram.withoutLineBreaks (Literal.Context.brace.enclose y) =
      ThrottlingProgram.withoutLineBreaks (Literal.Context.brace.enclose x) := by
  have hbraces (u : Text) : Literal.Context.brace.enclose u = ['\x7b'] ++ u ++ ['\x7d'] := rfl
  simp only [hbraces, withoutLineBreaks_append, withoutLineBreaks_broken h]

theorem find_broken (hd : find script name = .ok d) (hb : BreaksBody d script script')
    (hm : (Catalogue.functionDefinition name).firstMatch script' = .ok m)
    (hstart : m.span.start = d.whole.span.start) :
    ∃ d', find script' name = .ok d' ∧ ThrottlingProgram.withoutLineBreaks d'.whole.text =
      ThrottlingProgram.withoutLineBreaks d.whole.text := by
  obtain ⟨hfinder, z, a, x, v, hscript, hhead, hx, rfl⟩ := exists_of_find hd
  obtain @⟨x', y, front, back, hbody, hxy⟩ := hb
  obtain ⟨htext, hspan⟩ := Match.mk.inj hbody
  obtain rfl : x = x' := List.append_cancel_right (List.cons.inj htext).2
  obtain ⟨hlen, -⟩ := Span.mk.inj hspan
  have hparts : z ++ a ++ (Literal.Context.brace.enclose x ++ v) =
      front ++ (Literal.Context.brace.enclose x ++ back) := by
    rw [List.append_assoc, ← hscript, List.append_assoc]
  obtain rfl := Text.eq_of_byteLength_eq hparts hlen
  have hscript' : z ++ a ++ Literal.Context.brace.enclose y ++ back =
      z ++ (a ++ (Literal.Context.brace.enclose y ++ back)) := by simp only [List.append_assoc]
  rw [hscript'] at hm ⊢
  obtain ⟨z', hspan', hhead'⟩ := firstMatch_eq_ok_iff.1 hm
  have hbegins : z ++ (a ++ ['\x7b']) <+: z ++ (a ++ (Literal.Context.brace.enclose y ++ back)) :=
    ⟨y ++ '\x7d' :: back, by simp [Literal.Context.enclose_append, Literal.Context.opener,
      Literal.Context.closer]⟩
  have hz : z'.byteLength = z.byteLength := by
    rw [hspan'] at hstart
    exact hstart
  obtain ⟨rfl, ht⟩ := hhead.unique hhead' hbegins hz
  rw [ht] at hhead'
  refine ⟨_, find_of_isHead hfinder (Literal.items_broken (.inl rfl) hxy hx) rfl hhead', ?_⟩
  simp only [placed, withoutLineBreaks_append, withoutLineBreaks_enclose hxy]

end Definition

namespace ThrottlingProgram
variable {name script script' : Text} {d : Definition} {m : Match}

/-- Line breaks in the body of the entry function do not matter: if the entry function has the same
name and its definition still begins where it did, the same comes out. -/
theorem ofScript_broken (hname : functionName script = .ok name)
    (hd : Definition.find script name = .ok d) (hb : BreaksBody d script script')
    (hname' : functionName script' = .ok name)
    (hm : (Catalogue.functionDefinition name).firstMatch script' = .ok m)
    (hstart : m.span.start = d.whole.span.start) : ofScript script' = ofScript script := by
  obtain ⟨d', hd', htext⟩ := Definition.find_broken hd hb hm hstart
  simp only [ofScript, hname, hname', hd, hd', htext, ok_bind]

def sampleBody : Text :=
  "var b=[],c=[function(d)\x7bd.reverse()\x7d,b,\"\\\"\n\"];try\x7bc[0](c[1])\x7dcatch(f)\x7b\x7d".toList

def sampleBrokenBody : Text :=
  "\nvar b=\r\n[],c\n=[func\ntion(d)\x7bd.reverse()\x7d\n,b,\"\r\\\"\n\n\"\r];try\x7bc[0\n](c[1])\x7dcatch(f)\x7b\x7d\r\n".toList

def scriptOfBody (body : Text) : Text :=
  "N=function(a)".toList ++ Literal.Context.brace.enclose body ++
    ";a.D&&(b=a.get(\"n\"))&&(b=N(b))".toList

theorem ofScript_broken_sample :
    ofScript (scriptOfBody sampleBrokenBody) = ofScript (scriptOfBody sampleBody) ∧
    ofScript (scriptOfBody sampleBody) =
      .ok ⟨[⟨0, 1, none⟩], [.operation .reverse, .text ['b'], .text "\\\"".toList]⟩ := by
  have hname : functionName (scriptOfBody sampleBody) = .ok "N".toList := by decide +kernel
  have hname' : functionName (scriptOfBody sampleBrokenBody) = .ok "N".toList := by decide +kernel
  have hd : Definition.find (scriptOfBody sampleBody) "N".toList =
      .ok (.placed [] "N=function(a)".toList sampleBody) := by decide +kernel
  have hm : (Catalogue.functionDefinition "N".toList).firstMatch (scriptOfBody sampleBrokenBody) =
      .ok ⟨"N=function(a)\x7b".toList, ⟨0, 14⟩⟩ := by decide +kernel
  have hbreaks : BreaksBody (.placed [] "N=function(a)".toList sampleBody)
      (scriptOfBody sampleBody) (scriptOfBody sampleBrokenBody) :=
    .intro _ _ rfl (by decide +kernel)
  exact ⟨ofScript_broken hname hd hbreaks hname' hm rfl, by decide +kernel⟩

end ThrottlingProgram
end Unscramble
