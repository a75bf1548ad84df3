import Unscramble.Proofs.Pattern.Catalogue
import Unscramble.Proofs.Pattern.Set
import Unscramble.Proofs.Text.Wildcard

/-! The grammar of calls, and what the expressions for a whole statement find: a call of their kind, and
nothing else. -/
namespace Unscramble
open Regex Catalogue

inductive QuoteMark where
  | single | double
  deriving DecidableEq, Repr

def QuoteMark.char : QuoteMark → Char
  | single => '\''
  | double => '"'

/-- How the called name stands behind the object: after a dot, or in brackets between two quotation
marks, which need not be of one kind. -/
inductive Access where
  | member
  | indexed (opening closing : QuoteMark)
  deriving DecidableEq, Repr

namespace Access

def before : Access → Text
  | member => ".".toList
  | indexed q _ => ['[', q.char]

def behind : Access → Text
  | member => []
  | indexed _ q => [q.char, ']']

def isIndexed : Access → Bool
  | member => false
  | indexed _ _ => true

end Access

/-- An argument: blanks, and a number in decimal digits of any script. -/
@[ext]
structure WrittenNumber where
  blanks : Text
  digits : Text
  isBlank : ∀ d ∈ blanks, Text.isBlank d = true
  ne_nil : digits ≠ []
  isDigit : ∀ d ∈ digits, Text.isDigit d = true

@[ext]
structure WrittenCall where
  object : Text
  access : Access
  name : Text
  parameter : Text
  number : Option WrittenNumber
  isName_object : IsName object
  isName_name : IsName name
  isName_parameter : IsName parameter

namespace WrittenCall

def ending : Option WrittenNumber → Text
  | none => ")".toList
  | some n => ",".toList ++ (n.blanks ++ (n.digits ++ ")".toList))

def text (c : WrittenCall) : Text :=
  c.object ++ (c.access.before ++ (c.name ++ (c.access.behind ++ ("(".toList ++
    (c.parameter ++ ending c.number)))))

theorem not_head_of_quoteMark (q : QuoteMark) (v : Text) :
    (q.char :: v).head?.any nameChar.contains = false := by
  cases q <;> rfl

theorem char_injective {q r : QuoteMark} (h : q.char = r.char) : q = r := by
  cases q <;> cases r <;> first | rfl | exact absurd h (by decide)

theorem not_head_of_digits (n : WrittenNumber) (v : Text) :
    (n.digits ++ v).head?.any CharClass.blank.contains = false := by
  obtain ⟨blanks, _ | ⟨d, t⟩, -, hne, hd⟩ := n
  · exact absurd rfl hne
  · refine Bool.eq_false_iff.2 fun hb => ?_
    have hdigit : Text.isDigit d = true := hd d (.head t)
    rw [Text.isDigit_of_isBlank hb] at hdigit
    cases hdigit

theorem ending_injective {m n : Option WrittenNumber} (h : ending m = ending n) : m = n := by
  cases m with
  | none =>
    cases n with
    | none => rfl
    | some n => cases h
  | some m =>
    cases n with
    | none => cases h
    | some n =>
      have hrest : m.blanks ++ (m.digits ++ ")".toList) = n.blanks ++ (n.digits ++ ")".toList) :=
        (List.cons.inj h).2
      obtain ⟨hb, hdigits⟩ := run_append_inj (c := .blank) m.isBlank n.isBlank
        (not_head_of_digits m _) (not_head_of_digits n _) hrest
      obtain ⟨hd, -⟩ := run_append_inj (c := .digit) m.isDigit n.isDigit rfl rfl hdigits
      exact congrArg some (WrittenNumber.ext hb hd)

theorem access_injective {a b : Access} {x y v w : Text} (hx : IsName x) (hy : IsName y)
    (h : a.before ++ (x ++ (a.behind ++ ("(".toList ++ v))) =
      b.before ++ (y ++ (b.behind ++ ("(".toList ++ w)))) : a = b ∧ x = y ∧ v = w := by
  cases a with
  | member =>
    cases b with
    | member =>
      have h : x ++ ("(".toList ++ v) = y ++ ("(".toList ++ w) := (List.cons.inj h).2
      obtain ⟨hxy, hrest⟩ := run_append_inj hx.2 hy.2 rfl rfl h
      exact ⟨rfl, hxy, (List.cons.inj hrest).2⟩
    | indexed r r' => exact absurd (List.cons.inj h).1 (by decide)
  | indexed q q' =>
    cases b with
    | member => exact absurd (List.cons.inj h).1 (by decide)
    | indexed r r' =>
      obtain ⟨hopening, h⟩ := List.cons.inj (List.cons.inj h).2
      have h : x ++ q'.char :: ("](".toList ++ v) = y ++ r'.char :: ("](".toList ++ w) := h
      obtain ⟨hxy, hrest⟩ := run_append_inj hx.2 hy.2 (not_head_of_quoteMark q' _)
        (not_head_of_quoteMark r' _) h
      obtain ⟨hclosing, hrest⟩ := List.cons.inj hrest
      rw [char_injective hopening, char_injective hclosing]
      exact ⟨rfl, hxy, List.append_cancel_left hrest⟩

theorem text_injective {c d : WrittenCall} (h : c.text = d.text) : c = d := by
  have hbefore (a : Access) (v : Text) : (a.before ++ v).head?.any nameChar.contains = false := by
    cases a <;> rfl
  have hending (n : Option WrittenNumber) : (ending n).head?.any nameChar.contains = false := by
    cases n <;> rfl
  -- a name ends at the first character that no name has, so both texts are cut at the same places
  obtain ⟨hobject, h⟩ := run_append_inj c.isName_object.2 d.isName_object.2 (hbefore ..) (hbefore ..) h
  obtain ⟨haccess, hname, h⟩ := access_injective c.isName_name d.isName_name h
  obtain ⟨hparameter, h⟩ := run_append_inj c.isName_parameter.2 d.isName_parameter.2 (hending _)
    (hending _) h
  exact WrittenCall.ext hobject haccess hname hparameter (ending_injective h)

def accessPart : Bool → Regex
  | false => memberCall
  | true => indexedCall

def endingPart : Bool → Regex
  | false => Catalogue.text ")"
  | true => Catalogue.argument

def expression (indexed numbered : Bool) : Regex :=
  sequence (.look .textStart :: ([identifier, accessPart indexed, endingPart numbered] ++
    [.look .textEnd]))

theorem patterns_transformCall : transformCall.patterns =
    [expression false true, expression true true, expression false false, expression true false] :=
  rfl

theorem spells_quoteMark {z : Text} (h : Spells (oneChar '"' ['\'']) z) :
    ∃ q : QuoteMark, z = [q.char] := by
  obtain ⟨d, hd, rfl⟩ := h
  have hor : d = '"' ∨ d = '\'' := by
    rw [CharClass.oneOf, List.map_cons, List.map_nil, CharClass.union, CharClass.union,
      CharClass.contains, Bool.or_eq_true] at hd
    exact hd.imp contains_single.1 contains_single.1
  obtain rfl | rfl := hor
  · exact ⟨.double, rfl⟩
  · exact ⟨.single, rfl⟩

theorem spells_accessPart {indexed : Bool} {z : Text} (h : Spells (accessPart indexed) z) :
    ∃ (a : Access) (name parameter : Text), a.isIndexed = indexed ∧ IsName name ∧ IsName parameter ∧
      z = a.before ++ (name ++ (a.behind ++ ("(".toList ++ parameter))) := by
  cases indexed with
  | false =>
    obtain ⟨_, _, rfl, h1, h⟩ := spells_sequence_cons.1 h
    obtain ⟨name, _, rfl, h2, h⟩ := spells_sequence_cons.1 h
    obtain ⟨_, parameter, rfl, h3, h4⟩ := spells_sequence_cons.1 h
    rw [spells_literal.1 h1, spells_literal.1 h3]
    exact ⟨.member, name, parameter, rfl, isName_of_spells h2, isName_of_spells h4, rfl⟩
  | true =>
    obtain ⟨_, _, rfl, h1, h⟩ := spells_sequence_cons.1 h
    obtain ⟨_, _, rfl, h2, h⟩ := spells_sequence_cons.1 h
    obtain ⟨name, _, rfl, h3, h⟩ := spells_sequence_cons.1 h
    obtain ⟨_, _, rfl, h4, h⟩ := spells_sequence_cons.1 h
    obtain ⟨_, parameter, rfl, h5, h6⟩ := spells_sequence_cons.1 h
    obtain ⟨q, rfl⟩ := spells_quoteMark h2
    obtain ⟨q', rfl⟩ := spells_quoteMark h4
    rw [spells_literal.1 h1, spells_literal.1 h5]
    exact ⟨.indexed q q', name, parameter, rfl, isName_of_spells h3, isName_of_spells h6, rfl⟩

theorem spells_endingPart {numbered : Bool} {z : Text} (h : Spells (endingPart numbered) z) :
    ∃ n, n.isSome = numbered ∧ z = ending n := by
  cases numbered with
  | false => exact ⟨none, rfl, spells_literal.1 h⟩
  | true =>
    obtain ⟨_, _, rfl, h1, h⟩ := spells_sequence_cons.1 h
    obtain ⟨blanks, _, rfl, h2, h⟩ := spells_sequence_cons.1 h
    obtain ⟨digits, _, rfl, h3, h4⟩ := spells_sequence_cons.1 h
    have hrun : Spells (plus true (char .digit)) digits := h3
    obtain ⟨hne, hd⟩ := spells_plus.1 hrun
    rw [spells_literal.1 h1, spells_literal.1 h4]
    exact ⟨some ⟨blanks, digits, spells_star.1 h2, List.length_pos_iff.1 hne, hd⟩, rfl, rfl⟩

theorem exists_of_search? {indexed numbered : Bool} {w : Text} {h : Hit}
    (hs : (expression indexed numbered).search? w = some h) :
    ∃ c : WrittenCall, c.text = w ∧ c.access.isIndexed = indexed ∧ c.number.isSome = numbered := by
  have hl : (expression indexed numbered).loopsAreRuns = true := by
    cases indexed <;> cases numbered <;> decide
  have hw := spells_of_search?_whole hl hs
  obtain ⟨object, _, rfl, h1, hw⟩ := spells_sequence_cons.1 hw
  obtain ⟨_, _, rfl, h2, h3⟩ := spells_sequence_cons.1 hw
  obtain ⟨a, name, parameter, ha, hname, hparameter, rfl⟩ := spells_accessPart h2
  obtain ⟨n, hn, rfl⟩ := spells_endingPart h3
  refine ⟨⟨object, a, name, parameter, n, isName_of_spells h1, hname, hparameter⟩, ?_, ha, hn⟩
  simp only [text, List.append_assoc]

section
variable {rs : List Regex} {d : Char} {v x : Text}

theorem bars_accessPart (hd : nameChar.contains d = true) (indexed : Bool) :
    Bars (accessPart indexed :: rs) (d :: x) := by
  cases indexed <;> exact .sequence (bars_text_of_contains hd rfl)

theorem bars_endingPart (hd : nameChar.contains d = true) (numbered : Bool) :
    Bars (endingPart numbered :: rs) (d :: x) := by
  cases numbered with
  | false => exact bars_text_of_contains hd rfl
  | true => exact .sequence (bars_text_of_contains hd rfl)

theorem bars_quoteMark (hd : nameChar.contains d = true) :
    Bars (oneChar '"' ['\''] :: rs) (d :: x) := by
  refine .char (Bool.eq_false_iff.2 fun hq => ?_)
  obtain ⟨q, hq⟩ := spells_quoteMark ⟨d, hq, rfl⟩
  rw [(List.cons.inj hq).1] at hd
  cases q <;> exact absurd hd (by decide)

theorem reads_name {u : Text} {ms : List Mark} (hx : IsName x)
    (hv : v.head?.any nameChar.contains = false)
    (hno : ∀ {d w}, nameChar.contains d = true → Bars rs (d :: w)) (h : Reads rs v u ms) :
    Reads (identifier :: rs) (x ++ v) (x ++ u) (ms.map (.behind x)) :=
  .run hx.isRun hv (fun z d w hw _ => hno (hx.2 d (hw ▸ List.mem_append_right z (.head w)))) h

theorem reads_capturedName {g u : Text} {ms : List Mark} (hx : IsName x)
    (hv : v.head?.any nameChar.contains = false)
    (hno : ∀ {d w}, nameChar.contains d = true → Bars rs (d :: w)) (h : Reads rs v u ms) :
    Reads (named g identifier :: rs) (x ++ v) (x ++ u) (ms.map (.behind x) ++ [⟨.named g, [], x⟩]) :=
  .namedRun hx.isRun hv (fun z d w hw _ => hno (hx.2 d (hw ▸ List.mem_append_right z (.head w)))) h

theorem reads_ending (n : Option WrittenNumber) :
    Reads [endingPart n.isSome, .look .textEnd] (ending n) (ending n)
      (n.toList.map fun n => ⟨.named argumentGroup, ",".toList ++ n.blanks, n.digits⟩) := by
  cases n with
  | none => exact reads_text ")" reads_textEnd
  | some n =>
    have hdigits : IsRun .digit 1 n.digits := ⟨List.length_pos_iff.2 n.ne_nil, n.isDigit⟩
    have hblanks : IsRun .blank 0 n.blanks := ⟨Nat.zero_le _, n.isBlank⟩
    have hnumber := reads_captured (g := argumentGroup) hdigits rfl rfl (reads_text ")" reads_textEnd)
    refine (reads_text "," (.run hblanks (not_head_of_digits n _) (fun z d w hw _ => ?_)
      hnumber)).sequence.of_marks (by simp [Mark.behind])
    have hd : Text.isDigit d = false :=
      Text.isDigit_of_isBlank (n.isBlank d (hw ▸ List.mem_append_right z (.head w)))
    exact .takesRun (y := []) ((takes_repeated true 1 .digit).group _) hd fun z v hz hl => by
      obtain ⟨rfl, -⟩ := List.append_eq_nil_iff.1 hz.symm
      exact absurd hl (by decide)

def marks (c : WrittenCall) : List Mark :=
  (c.number.toList.map fun n => ⟨.named argumentGroup, c.object ++ (c.access.before ++ (c.name ++
      (c.access.behind ++ ("(".toList ++ (c.parameter ++ (",".toList ++ n.blanks)))))), n.digits⟩) ++
    [⟨.named nameGroup, c.object ++ c.access.before, c.name⟩]

theorem reads_text_marks (c : WrittenCall) :
    Reads ([identifier, accessPart c.access.isIndexed, endingPart c.number.isSome] ++
      [.look .textEnd]) c.text c.text c.marks := by
  obtain ⟨object, access, name, parameter, number, ho, hn, hp⟩ := c
  have hending : (ending number).head?.any nameChar.contains = false := by cases number <;> rfl
  have hparameter := reads_name hp hending (fun hd => bars_endingPart hd _) (reads_ending number)
  cases access with
  | member =>
    have hname := reads_text "." <| reads_captured (g := nameGroup) hn.isRun rfl rfl <|
      reads_text "(" hparameter
    refine (reads_name ho rfl (fun hd => bars_accessPart hd false) hname.sequence).of_marks ?_
    cases number <;> simp [marks, Access.before, Access.behind, Mark.behind]
  | indexed q q' =>
    have hquote (q : QuoteMark) : (CharClass.oneOf '"' ['\'']).contains q.char = true := by
      cases q <;> decide
    have hclosing := Reads.char (hquote q') (reads_text "](" hparameter)
    have hname := reads_capturedName (g := nameGroup) hn (not_head_of_quoteMark q' _) bars_quoteMark
      hclosing
    have hcall := reads_text "[" (Reads.char (hquote q) hname)
    refine (reads_name ho rfl (fun hd => bars_accessPart hd true) hcall.sequence).of_marks ?_
    cases number <;> simp [marks, Access.before, Access.behind, Mark.behind]

theorem search?_text (c : WrittenCall) :
    (expression c.access.isIndexed c.number.isSome).search? c.text = some (.reading 0 c.text c.marks) := by
  refine search?_at_start ?_ ((c.reads_text_marks.at rfl).look (l := .textStart) rfl)
  cases c.access.isIndexed <;> cases c.number.isSome <;> decide

theorem first_text (c : WrittenCall) :
    ∃ m, transformCall.first c.text = .ok (.reading 0 c.text c.marks, m) ∧ m.text = c.name := by
  have hgroup : ∃ m, (Hit.reading 0 c.text c.marks).group? nameGroup = some m ∧ m.text = c.name := by
    have hne : nameGroup ≠ argumentGroup := by decide
    cases hn : c.number with
    | none =>
      rw [marks, hn]
      exact ⟨_, PatternSet.group?_reading .., rfl⟩
    | some n =>
      rw [marks, hn]
      exact ⟨_, (PatternSet.group?_reading_of_ne hne).trans (PatternSet.group?_reading ..), rfl⟩
  obtain ⟨m, hm, hname⟩ := hgroup
  have hmem : expression c.access.isIndexed c.number.isSome ∈ transformCall.patterns := by
    rw [patterns_transformCall]
    cases c.access.isIndexed <;> cases c.number.isSome <;> simp
  have hno : ∀ r ∈ transformCall.patterns, r ≠ expression c.access.isIndexed c.number.isSome →
      r.search? c.text = none := by
    have hother (indexed numbered : Bool) (hne : expression indexed numbered ≠
        expression c.access.isIndexed c.number.isSome) :
        (expression indexed numbered).search? c.text = none := by
      cases hs : (expression indexed numbered).search? c.text with
      | none => rfl
      | some h =>
        -- what is found is a call of the other kind, and a text is that of one call
        obtain ⟨d, hd, hi, hn⟩ := exists_of_search? hs
        rw [← hi, ← hn, text_injective hd] at hne
        exact absurd rfl hne
    rw [patterns_transformCall]
    simp only [List.mem_cons, List.not_mem_nil, or_false, forall_eq_or_imp, forall_eq]
    exact ⟨hother _ _, hother _ _, hother _ _, hother _ _⟩
  refine ⟨m, ?_, hname⟩
  have hfirst : PatternSet.firstIn transformCall.group c.text transformCall.patterns =
      some (.reading 0 c.text c.marks, m) := PatternSet.firstIn_eq_some hmem c.search?_text hm hno
  rw [PatternSet.first, hfirst]

/-- A text in which one of the expressions finds something is that of a call. -/
theorem exists_of_first {w : Text} {found : Hit × Match} (h : transformCall.first w = .ok found) :
    ∃ c : WrittenCall, c.text = w := by
  have hm : transformCall.firstMatch w = .ok found.2 := by
    rw [PatternSet.firstMatch, h]
    rfl
  obtain ⟨r, hr, hit, hs, -⟩ := PatternSet.exists_search?_of_firstMatch hm
  rw [patterns_transformCall] at hr
  simp only [List.mem_cons, List.not_mem_nil, or_false] at hr
  obtain rfl | rfl | rfl | rfl := hr
  all_goals
    obtain ⟨c, hc, -⟩ := exists_of_search? hs
    exact ⟨c, hc⟩

end
end WrittenCall
end Unscramble
