import Unscramble.Proofs.Operation.Recognition
import Unscramble.Proofs.Regex.Avoids
import Unscramble.Proofs.Script.Elements

/-! The function literals that operations are written as, whatever their variables are called. -/
namespace Unscramble.Operation
open Regex Text

/-- The form of a function literal, with the body written in pieces. -/
structure Form where
  parameters : String
  body : List String

def Form.inner (f : Form) : Text := f.body.flatMap String.toList

def Form.text (f : Form) : Text := Elements.function f.parameters.toList f.inner

/-- What brings the second parameter into the range of indices. -/
def wrapping : List String := ["_=(_%_.length+", "_.length)%_.length;"]

/-- The forms of the function literals of an operation. -/
def forms : Operation → List Form
  | reverse => [⟨"_", ["_.reverse()"]⟩,
    ⟨"_", ["for(var _=_.length;_;)", "_.push(_.splice(--_,1)[0])"]⟩]
  | splice => [⟨"_,_", ["_.splice(0,_)"]⟩, ⟨"_,_", wrapping ++ ["_.splice(_,1)"]⟩]
  | swap => [⟨"_,_", ["var _=_[0];", "_[0]=_[_%_.length];", "_[_%_.length]=_"]⟩,
    ⟨"_,_", ["var _=_[0];", "_[0]=_[_%_.length];", "_[_]=_"]⟩,
    ⟨"_,_", wrapping ++ ["var _=_[0];", "_[0]=_[_];", "_[_]=_"]⟩]
  | unshift => [⟨"_,_", ["for(_=(_%_.length+", "_.length)%_.length;_--;)", "_.unshift(_.pop())"]⟩]
  | push => [⟨"_,_", ["_.push(_)"]⟩]
  | prepend => [⟨"_,_", ["_.splice(-_).reverse().", "forEach(function(_)\x7b", "_.unshift(_)\x7d)"]⟩,
    ⟨"_,_", wrapping ++
      ["_.splice(-_).reverse().", "forEach(function(_)\x7b", "_.unshift(_)\x7d)"]⟩]
  | nestedSplice => [⟨"_,_", ["_.splice(0,1,", "_.splice(_,1,_[0])[0])"]⟩,
    ⟨"_,_", wrapping ++ ["_.splice(0,1,", "_.splice(_,1,_[0])[0])"]⟩]
  | cipherDispatch => [⟨"_,_", ["for(var _=64,_=[];", "++_-_.length-32;)\x7b", "switch(_)\x7b",
      "case 58:_=96;continue;", "case 91:_=44;break;", "default:_.push(String.",
      "fromCharCode(_))\x7d\x7d", "_.forEach(function(_,_,_)\x7b", "this.push(_[_]=_[(",
      "_.indexOf(_)-_.indexOf(", "this[_])+_-32+_--)", "%_.length])\x7d,", "_.split(\"\"))"]⟩]

def IsLiteral (op : Operation) (t : Text) : Prop := ∃ f ∈ forms op, Fits f.text t

instance (op : Operation) (t : Text) : Decidable (IsLiteral op t) :=
  inferInstanceAs (Decidable (∃ f ∈ forms op, _))

def wrapped : Text := "e=(e%d.length+".toList ++ "d.length)%d.length;".toList

def minified : Operation → Text
  | .reverse => "function(d)\x7bd.reverse()\x7d".toList
  | .splice => "function(d,e)\x7b".toList ++ wrapped ++ "d.splice(e,1)\x7d".toList
  | .swap => "function(d,e)\x7b".toList ++ wrapped ++ "var f=d[0];d[0]=d[e];d[e]=f\x7d".toList
  | .unshift => "function(d,e)\x7bfor(e=(e%d.length+".toList ++ "d.length)%d.length;e--;)".toList ++
      "d.unshift(d.pop())\x7d".toList
  | .push => "function(d,e)\x7bd.push(e)\x7d".toList
  | .prepend => "function(d,e)\x7b".toList ++ wrapped ++ "d.splice(-e).reverse().".toList ++
      "forEach(function(f)\x7bd.unshift(f)\x7d)\x7d".toList
  | .nestedSplice => "function(d,e)\x7b".toList ++ wrapped ++ "d.splice(0,1,".toList ++
      "d.splice(e,1,d[0])[0])\x7d".toList
  | .cipherDispatch => "function(d,e)\x7bfor(var f=64,h=[];".toList ++ "++f-h.length-32;)\x7b".toList ++
      "switch(f)\x7bcase 58:f=96;continue;".toList ++ "case 91:f=44;break;".toList ++
      "default:h.push(String.".toList ++ "fromCharCode(f))\x7d\x7d".toList ++
      "d.forEach(function(l,m,n)\x7b".toList ++ "this.push(n[m]=h[(".toList ++
      "h.indexOf(l)-h.indexOf(".toList ++ "this[m])+m-32+f--)".toList ++
      "%h.length])\x7d,e.split(\"\"))\x7d".toList

theorem isLiteral_minified (op : Operation) : IsLiteral op (minified op) := by
  cases op <;> decide +kernel

theorem forms_settled (op : Operation) :
    (forms op).all (fun f => settles op (Template.ofForm f.text) catalogue) = true := by
  cases op <;> decide +kernel

theorem classify?_of_isLiteral {op : Operation} {t : Text} (h : IsLiteral op t) :
    classify? t = some op := by
  obtain ⟨f, hf, ht⟩ := h
  exact classify?_of_signed (signed_of_fits ht) (List.all_eq_true.1 (forms_settled op) f hf)

structure Form.IsSound (f : Form) : Prop where
  parameters : ')' ∉ f.parameters.toList
  inner : Literal.Closed f.inner
  closed : Literal.Closed f.text
  whole : Commas.Whole f.text
  free : '&' ∉ f.text ∧ '\n' ∉ f.text ∧ '\r' ∉ f.text
  functionAssigned : avoids CharClass.mayContain functionAssigned f.text = true
  spacedAssignment : avoids CharClass.mayContain spacedAssignment f.text = true
  lookUp : avoids CharClass.mayContain (classesOf lookUp) f.text = true

instance (f : Form) : Decidable f.IsSound :=
  decidable_of_iff (_ ∧ _ ∧ _ ∧ _ ∧ _ ∧ _ ∧ _ ∧ _)
    ⟨fun ⟨a, b, c, d, e, f, g, h⟩ => ⟨a, b, c, d, e, f, g, h⟩,
     fun ⟨a, b, c, d, e, f, g, h⟩ => ⟨a, b, c, d, e, f, g, h⟩⟩

theorem forms_sound (op : Operation) : ∀ f ∈ forms op, f.IsSound := by
  cases op <;> decide +kernel

theorem Form.fits_text {f : Form} {t : Text} (h : Fits f.text t) :
    ∃ ps body, t = Elements.function ps body ∧ Fits f.parameters.toList ps ∧ Fits f.inner body := by
  obtain ⟨k, v1, rfl, hk, h1⟩ := h.split
  obtain ⟨o, v2, rfl, ho, h2⟩ := Fits.split (f := ['(']) h1
  obtain ⟨ps, v3, rfl, hp, h3⟩ := h2.split
  obtain ⟨c, v4, rfl, hc, h4⟩ := Fits.split (f := [')']) h3
  obtain ⟨b, v5, rfl, hb, h5⟩ := Fits.split (f := ['\x7b']) h4
  obtain ⟨body, e, rfl, hi, he⟩ := h5.split
  rw [hk.eq (by decide), ho.eq (by decide), hc.eq (by decide), hb.eq (by decide), he.eq (by decide)]
  exact ⟨ps, body, rfl, hp, hi⟩

namespace IsLiteral
variable {op : Operation} {t : Text}

theorem exists_parts (h : IsLiteral op t) :
    ∃ ps body, t = Elements.function ps body ∧ ')' ∉ ps ∧ Literal.Closed body := by
  obtain ⟨f, hf, ht⟩ := h
  have hs := forms_sound op f hf
  obtain ⟨ps, body, he, hp, hb⟩ := Form.fits_text ht
  exact ⟨ps, body, he, fun hm => hs.parameters ((hp.mem_iff (by decide)).2 hm), hs.inner.of_fits hb⟩

theorem closed (h : IsLiteral op t) : Literal.Closed t := by
  obtain ⟨f, hf, ht⟩ := h
  exact (forms_sound op f hf).closed.of_fits ht

theorem whole (h : IsLiteral op t) : Commas.Whole t := by
  obtain ⟨f, hf, ht⟩ := h
  exact (forms_sound op f hf).whole.of_fits ht

theorem free (h : IsLiteral op t) : '&' ∉ t ∧ '\n' ∉ t ∧ '\r' ∉ t := by
  obtain ⟨f, hf, ht⟩ := h
  have hs := (forms_sound op f hf).free
  have hfree {d : Char} (hd : isWord d = false) (hno : d ∉ f.text) : d ∉ t :=
    fun hm => hno ((ht.mem_iff hd).2 hm)
  exact ⟨hfree (by decide) hs.1, hfree (by decide) hs.2.1, hfree (by decide) hs.2.2⟩

theorem avoids_functionAssigned (h : IsLiteral op t) : Avoids functionAssigned t := by
  obtain ⟨f, hf, ht⟩ := h
  exact .of_fits ht (forms_sound op f hf).functionAssigned

theorem avoids_spacedAssignment (h : IsLiteral op t) : Avoids spacedAssignment t := by
  obtain ⟨f, hf, ht⟩ := h
  exact .of_fits ht (forms_sound op f hf).spacedAssignment

theorem avoids_lookUp (h : IsLiteral op t) : Avoids (classesOf lookUp) t := by
  obtain ⟨f, hf, ht⟩ := h
  exact .of_fits ht (forms_sound op f hf).lookUp

end IsLiteral

variable {op : Operation} {t : Text}

def Form.bodyText (f : Form) : Text := Literal.Context.brace.enclose f.inner

theorem Form.text_eq (f : Form) : f.text = header [f.parameters.toList] ++ f.bodyText := by
  rw [header, List.intercalate_singleton, List.append_assoc, List.cons_append, List.append_assoc]
  rfl

theorem parameters_plain (op : Operation) : ∀ f ∈ forms op, Plain f.parameters.toList := by
  cases op <;> decide +kernel

theorem classify?_of_bodyText {f : Form} (hf : f ∈ forms op) (h : Fits f.bodyText t) :
    classify? t = some op := by
  have hhead : Fits (header [f.parameters.toList]) (header [f.parameters.toList]) := .refl _
  have htext := hhead.append h
  rw [← f.text_eq] at htext
  have hplain : ∀ p ∈ [f.parameters.toList], Plain p :=
    List.forall_mem_singleton.2 (parameters_plain op f hf)
  rw [← classify?_header hplain t]
  exact classify?_of_isLiteral ⟨f, hf, htext⟩

/-- The recognition is a search for templates: the first of the catalogue that occurs in the text
decides, and there is no operation if none occurs. The parameters in front of a body make no difference,
and a function literal of an operation, or its body alone, is recognised as this operation. -/
theorem classify?_by_templates (t : Text) :
    (∀ op, classify? t = some op ↔ ∃ before s after, catalogue = before ++ s :: after ∧
      s.operation = op ∧ s.OccursIn t ∧ ∀ s' ∈ before, ¬s'.OccursIn t) ∧
    (classify? t = none ↔ ∀ s ∈ catalogue, ¬s.OccursIn t) ∧
    (∀ ps : List Text, (∀ p ∈ ps, Plain p) → classify? (header ps ++ t) = classify? t) ∧
    ∀ op, ∀ f ∈ forms op, Fits f.text t ∨ Fits f.bodyText t → classify? t = some op :=
  ⟨fun _ => classify?_eq_some_iff, classify?_eq_none_iff, fun _ hps => classify?_header hps t,
    fun _ f hf ht => ht.elim (fun h => classify?_of_isLiteral ⟨f, hf, h⟩) (classify?_of_bodyText hf)⟩

theorem classify?_pushing : classify? "function(d,e1$)\x7ba.push(b)\x7d".toList = some push := by
  obtain ⟨-, -, hheader, hforms⟩ := classify?_by_templates "\x7ba.push(b)\x7d".toList
  have hbody := hforms push ⟨"_,_", ["_.push(_)"]⟩ (.head _) (.inr (by decide))
  exact (hheader ["d".toList, "e1$".toList] (by decide)).trans hbody

end Unscramble.Operation
