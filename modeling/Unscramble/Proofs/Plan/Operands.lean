import Unscramble.Plan.ThrottlingScript
import Unscramble.Proofs.Operation.Forms
import Unscramble.Proofs.Pattern.Catalogue

/-! The operands that the array of a throttling function has been written from are read back. -/
namespace Unscramble
open Regex Catalogue Literal

/-- A text that is in double quotes what it is without. -/
def IsQuotable (t : Text) : Prop := ∀ c ∈ t, c ≠ '"' ∧ c ≠ '\\' ∧ c ≠ '\n' ∧ c ≠ '\r'

instance (t : Text) : Decidable (IsQuotable t) := decidable_of_iff _ List.all_iff_forall_prop

/-- Numbers are signed words, and texts need no escapes. -/
def Operand.IsWritable : Operand → Prop
  | integer v => Number.IsSigned v
  | text t => IsQuotable t
  | operation _ | itself => True

def Operand.written (literal : Operation → Text) : Operand → Text
  | integer v => Number.renderInt v
  | text t => Context.quote.enclose t
  | operation op => literal op
  | itself => "null".toList

namespace ThrottlingProgram

theorem mem_renderInt {v : Int} {c : Char} (h : c ∈ Number.renderInt v) :
    c.isDigit = true ∨ c = '-' := by
  cases v with
  | ofNat n => exact .inl (Number.isDigit_of_mem_render h)
  | negSucc n =>
    obtain rfl | h := List.mem_cons.1 h
    · exact .inr rfl
    · exact .inl (Number.isDigit_of_mem_render h)

theorem not_mem_renderInt {c : Char} (hc : c.isDigit = false) (hs : c ≠ '-') (v : Int) :
    c ∉ Number.renderInt v := fun hm =>
  (mem_renderInt hm).elim (fun h => absurd h (by simp [hc])) hs

theorem not_blank_of_mem_renderInt {v : Int} {c : Char} (h : c ∈ Number.renderInt v) :
    Text.isBlank c = false := by
  obtain h | rfl := mem_renderInt h
  · exact not_blank_of_nameChar (nameChar_of_isDigit h)
  · decide

theorem renderInt_ne_nil (v : Int) : Number.renderInt v ≠ [] := by
  cases v with
  | ofNat n => exact Number.render_ne_nil n
  | negSucc n => exact List.cons_ne_nil _ _

theorem isElement_renderInt (v : Int) : Elements.IsElement (Number.renderInt v) := by
  have hm : ∀ c ∈ Commas.marks, c.isDigit = false ∧ c ≠ '-' :=
    List.all_iff_forall_prop.1 (by decide)
  refine Elements.isElement_of_whole (renderInt_ne_nil v) (fun h => ?_)
    (Commas.whole_of_plain fun c hc h => not_mem_renderInt (hm c h).1 (hm c h).2 v hc)
    (Text.any_head? fun _ => not_blank_of_mem_renderInt)
    (Text.any_getLast? fun _ => not_blank_of_mem_renderInt)
  exact not_mem_renderInt (c := 'f') (by decide) (by decide) v (h.subset (.head _))

theorem trim_renderInt (v : Int) : Text.trim (Number.renderInt v) = Number.renderInt v :=
  Text.trimBy_plain fun _ => not_blank_of_mem_renderInt

variable {t : Text}

theorem isElement_enclose (h : IsQuotable t) : Elements.IsElement (Context.quote.enclose t) := by
  have hk : ¬Elements.keyword <+: Context.quote.enclose t := by
    intro h
    obtain ⟨v, hv⟩ := h
    exact absurd (List.cons.inj hv).1 (by decide)
  exact Elements.isElement_of_whole (by simp [Context.enclose]) hk
    (Commas.whole_quoted fun c hc => ⟨(h c hc).1, (h c hc).2.1⟩) rfl
    (Text.any_getLast?_concat _ ('"' :: t) '"')

theorem trim_enclose (t : Text) : Text.trim (Context.quote.enclose t) = Context.quote.enclose t :=
  Text.trimBy_concat (x := '"' :: t) rfl rfl

theorem quotedContent?_enclose (t : Text) :
    quotedContent? '"' (Context.quote.enclose t) = some t := by
  simp [Context.enclose, Context.opener, Context.closer, quotedContent?]

theorem quotedContent?_eq_none {q c : Char} (hc : c ≠ q) (t : Text) :
    quotedContent? q (c :: t) = none := by
  simp [quotedContent?, hc]

variable {literal : Operation → Text} {o : Operand} {parameters body : Text}

theorem trim_function (parameters body : Text) :
    Text.trim (Elements.function parameters body) = Elements.function parameters body := by
  refine Text.trimBy_eq_self rfl ?_
  rw [Elements.getLast?_function]
  rfl

theorem operandOf_enclose (t : Text) : operandOf (Context.quote.enclose t) = .text t := by
  have hnumber : Number.readSigned? (Context.quote.enclose t) = none :=
    Number.readSigned?_eq_none (by decide) (by decide) (by decide) _
  have hnull : Context.quote.enclose t ≠ "null".toList := fun h =>
    absurd (List.cons.inj h).1 (by decide)
  simp only [operandOf, trim_enclose, hnumber, if_neg hnull, quotedContent?_enclose, Option.some_or]

theorem operandOf_function {op : Operation}
    (h : Operation.classify? (Elements.function parameters body) = some op) :
    operandOf (Elements.function parameters body) = .operation op := by
  have hnumber : Number.readSigned? (Elements.function parameters body) = none :=
    Number.readSigned?_eq_none (by decide) (by decide) (by decide) _
  have hnull : Elements.function parameters body ≠ "null".toList := fun h =>
    absurd (List.cons.inj h).1 (by decide)
  have hdouble : quotedContent? '"' (Elements.function parameters body) = none :=
    quotedContent?_eq_none (by decide) _
  have hsingle : quotedContent? '\'' (Elements.function parameters body) = none :=
    quotedContent?_eq_none (by decide) _
  have hk : Elements.keyword.isPrefixOf (Elements.function parameters body) = true := by
    rw [List.isPrefixOf_iff_prefix]
    exact List.prefix_append ..
  simp only [operandOf, trim_function, hnumber, if_neg hnull, hdouble, hsingle, Option.or_none, hk,
    if_true, h]

theorem operandOf_null : operandOf "null".toList = .itself := by decide

theorem operandOf_written (hl : ∀ op, Operation.IsLiteral op (literal op)) (ho : o.IsWritable) :
    operandOf (o.written literal) = o := by
  cases o with
  | integer v => simp only [operandOf, Operand.written, trim_renderInt, Number.readSigned?_renderInt ho]
  | text t => exact operandOf_enclose t
  | operation op =>
    have hc := Operation.classify?_of_isLiteral (hl op)
    obtain ⟨ps, body, he, -⟩ := (hl op).exists_parts
    rw [he] at hc
    rw [Operand.written, he, operandOf_function hc]
  | itself => exact operandOf_null

theorem isElement_written (hl : ∀ op, Operation.IsLiteral op (literal op)) (ho : o.IsWritable) :
    Elements.IsElement (o.written literal) := by
  cases o with
  | integer v => exact isElement_renderInt v
  | text t => exact isElement_enclose ho
  | operation op =>
    obtain ⟨ps, body, he, hp, hb⟩ := (hl op).exists_parts
    rw [Operand.written, he]
    exact Elements.isElement_function hp hb
  | itself =>
    rw [Operand.written]
    exact Elements.isElement_of_whole (by decide) (by decide) (by decide) rfl rfl

theorem closed_written (hl : ∀ op, Operation.IsLiteral op (literal op)) (ho : o.IsWritable) :
    Closed (o.written literal) := by
  cases o with
  | integer v =>
    have hm : ∀ c ∈ Literal.marks, c.isDigit = false ∧ c ≠ '-' :=
      List.all_iff_forall_prop.1 (by decide)
    exact closed_of_plain fun c hc h => not_mem_renderInt (hm c h).1 (hm c h).2 v hc
  | text t => exact closed_quoted fun c hc => ⟨(ho c hc).1, (ho c hc).2.1⟩
  | operation op => exact (hl op).closed
  | itself =>
    rw [Operand.written]
    decide

theorem not_mem_written (hl : ∀ op, Operation.IsLiteral op (literal op)) (ho : o.IsWritable) :
    '\n' ∉ o.written literal ∧ '\r' ∉ o.written literal := by
  cases o with
  | integer v =>
    exact ⟨not_mem_renderInt (by decide) (by decide) v, not_mem_renderInt (by decide) (by decide) v⟩
  | text t =>
    have hn : '\n' ∉ t := fun hm => (ho _ hm).2.2.1 rfl
    have hr : '\r' ∉ t := fun hm => (ho _ hm).2.2.2 rfl
    simp [Operand.written, Context.enclose, Context.opener, Context.closer, hn, hr]
  | operation op => exact (hl op).free.2
  | itself =>
    rw [Operand.written]
    decide

theorem not_begins_quote {a b x : Text} {d e : Char} (ha : '"' ∉ a) (hx : '"' ∉ x) (hd : d ≠ e) :
    begins CharClass.contains (classesOf (a ++ '"' :: e :: b)) (x ++ ['"', d]) = false := by
  have hsingle {c c' : Char} (h : c ≠ c') : (CharClass.single c').contains c = false :=
    Bool.eq_false_iff.2 fun hc => h (contains_single.1 hc)
  induction a generalizing x with
  | nil =>
    cases x with
    | nil => simp [begins, classesOf, hsingle hd]
    | cons c x =>
      have hc := List.ne_of_not_mem_cons hx
      simp [begins, classesOf, hsingle hc.symm]
  | cons k a ih =>
    cases x with
    | nil =>
      have hk := List.ne_of_not_mem_cons ha
      simp [begins, classesOf, hsingle hk]
    | cons c x =>
      have hrest := ih (List.not_mem_of_not_mem_cons ha) (List.not_mem_of_not_mem_cons hx)
      simp only [classesOf, List.cons_append, List.map_cons, begins] at hrest ⊢
      rw [hrest, Bool.and_false]

theorem avoids_lookUp_enclose {d : Char} (hn : d ≠ 'n') (hp : d ≠ '.') (ht : '"' ∉ t) :
    Avoids (classesOf lookUp) (Context.quote.enclose t ++ [d]) := by
  have hinside : Avoids (classesOf lookUp) (t ++ ['"', d]) := by
    induction t with
    | nil => exact avoids_lookUp_of_not_mem (by simp [hp.symm])
    | cons c t ih =>
      have hparts : lookUp = ".get(".toList ++ '"' :: 'n' :: "\"))".toList := by decide
      have hc : begins CharClass.contains (classesOf lookUp) (c :: t ++ ['"', d]) = false :=
        hparts ▸ not_begins_quote (by decide) ht hn
      have hrest := ih (List.not_mem_of_not_mem_cons ht)
      rw [Avoids] at hrest ⊢
      rw [List.cons_append] at hc ⊢
      rw [avoids, hc, hrest]
      rfl
  have hquote : Avoids (classesOf lookUp) ['"'] := by decide
  have he : Context.quote.enclose t ++ [d] = ['"'] ++ (t ++ ['"', d]) := by
    simp [Context.enclose, Context.opener, Context.closer]
  exact he ▸ hquote.append hinside

theorem avoids_lookUp_written (hl : ∀ op, Operation.IsLiteral op (literal op)) (ho : o.IsWritable)
    {d : Char} (hn : d ≠ 'n') (hp : d ≠ '.') :
    Avoids (classesOf lookUp) (o.written literal ++ [d]) := by
  have hd : Avoids (classesOf lookUp) [d] :=
    avoids_lookUp_of_not_mem (by simpa using hp.symm)
  cases o with
  | integer v =>
    exact (avoids_lookUp_of_not_mem (not_mem_renderInt (by decide) (by decide) v)).append hd
  | text t => exact avoids_lookUp_enclose hn hp fun hm => (ho _ hm).1 rfl
  | operation op => exact (hl op).avoids_lookUp.append hd
  | itself =>
    rw [Operand.written]
    exact .append (by decide) hd

end ThrottlingProgram
end Unscramble
