import Mathlib.Data.List.Infix
import Mathlib.Data.List.TakeWhile
import Unscramble.Plan.ThrottlingScript
import Unscramble.Proofs.Outcome
import Unscramble.Proofs.Pattern.Catalogue
import Unscramble.Proofs.Pattern.Set

/-! The calls that stand in a block. The search for steps finds every one of them, from left to
right, and nothing else. -/
namespace Unscramble
open Regex Catalogue

structure WrittenStep where
  operation : Text
  first : Text
  second : Option Text
  deriving DecidableEq, Repr

namespace WrittenStep

def ending : Option Text → Text
  | none => ")".toList
  | some k => ",c[".toList ++ (k ++ ("]".toList ++ ")".toList))

def text (s : WrittenStep) : Text :=
  "c[".toList ++ (s.operation ++ ("](c[".toList ++ (s.first ++ ("]".toList ++ ending s.second))))

def indices (s : WrittenStep) : List Text := s.operation :: s.first :: s.second.toList

def IsNumbered (s : WrittenStep) : Prop := ∀ d ∈ s.indices, IsRun .digit 1 d

/-- The step that is meant, if all the indices are those of operands. -/
def step (count : Nat) (s : WrittenStep) : Except Failure Step := do
  let index (d : Text) := ThrottlingProgram.indexOf count ⟨d, ⟨0, 0⟩⟩
  let operation ← index s.operation
  let first ← index s.first
  match s.second with
  | none => return ⟨operation, first, none⟩
  | some k => return ⟨operation, first, some (← index k)⟩

def number? (before behind : String) (t : Text) : Option (Text × Text) := do
  let t ← t.dropPrefix? before.toList
  let d := t.takeWhile CharClass.digit.contains
  let v ← (t.dropWhile CharClass.digit.contains).dropPrefix? behind.toList
  if d.isEmpty then none else some (d, v)

/-- The head `c[operation](` of a call. -/
def head? (t : Text) : Option (Text × Text) := number? "c[" "](" t

def read? (t : Text) : Option WrittenStep := do
  let (operation, t) ← head? t
  let (first, t) ← number? "c[" "]" t
  match number? ",c[" "])" t with
  | some (second, _) => return ⟨operation, first, some second⟩
  | none => (t.dropPrefix? ")".toList).map fun _ => ⟨operation, first, none⟩

/-- The operations of the call heads in a text, from left to right. -/
def headsIn (t : Text) : List Text := t.tails.filterMap fun t => (head? t).map (·.1)

def callsIn (t : Text) : List WrittenStep := t.tails.filterMap read?

section
variable {before behind : String} {d t v x : Text} {s : WrittenStep}

theorem number?_append (hd : IsRun .digit 1 d) (hx : x.head?.any CharClass.digit.contains = false) :
    number? before behind (before.toList ++ (d ++ x)) =
      (x.dropPrefix? behind.toList).map fun v => (d, v) := by
  have hne : d.isEmpty = false := by
    rw [List.isEmpty_eq_false_iff, ← List.length_pos_iff]
    exact hd.1
  have htake : (d ++ x).takeWhile CharClass.digit.contains = d := by
    rw [List.takeWhile_append_of_pos hd.2]
    cases x with
    | nil => exact List.append_nil d
    | cons c x =>
      have hc : ¬CharClass.digit.contains c = true := Bool.eq_false_iff.1 hx
      rw [List.takeWhile_cons_of_neg hc, List.append_nil]
  have hdrop : (d ++ x).dropWhile CharClass.digit.contains = x := by
    rw [List.dropWhile_append_of_pos hd.2, Text.dropWhile_eq_self hx]
  simp only [number?, List.dropPrefix?_append_of_beq _ (beq_self_eq_true _), Option.bind_eq_bind,
    Option.bind_some, htake, hdrop, hne]
  cases x.dropPrefix? behind.toList <;> rfl

theorem number?_written (hd : IsRun .digit 1 d)
    (hb : behind.toList.head?.map CharClass.digit.contains = some false) (v : Text) :
    number? before behind (before.toList ++ (d ++ (behind.toList ++ v))) = some (d, v) := by
  have hx : (behind.toList ++ v).head?.any CharClass.digit.contains = false := by
    cases hl : behind.toList with
    | nil => simp [hl] at hb
    | cons c x => simpa [hl] using hb
  rw [number?_append hd hx, List.dropPrefix?_append_of_beq _ (beq_self_eq_true _)]
  rfl

theorem number?_eq_some (h : number? before behind t = some (d, v)) :
    IsRun .digit 1 d ∧ t = before.toList ++ (d ++ (behind.toList ++ v)) := by
  simp only [number?, Option.bind_eq_bind, Option.bind_eq_some_iff, List.dropPrefix?_eq_some_iff,
    beq_iff_eq] at h
  obtain ⟨x, ⟨_, rfl, rfl⟩, w, ⟨_, hx, rfl⟩, hw⟩ := h
  split at hw
  · cases hw
  next hne =>
    obtain ⟨rfl, rfl⟩ := Prod.mk.inj (Option.some.inj hw)
    refine ⟨⟨?_, fun c hc => List.mem_takeWhile_imp hc⟩, ?_⟩
    · exact List.length_pos_iff.2 (by simpa using hne)
    · rw [← hx, List.takeWhile_append_dropWhile]

theorem head?_text (hs : s.IsNumbered) (v : Text) :
    ∃ w, head? (s.text ++ v) = some (s.operation, w) := by
  have ht : s.text ++ v = "c[".toList ++ (s.operation ++ ("](".toList ++
      ("c[".toList ++ (s.first ++ ("]".toList ++ (ending s.second ++ v)))))) := by
    simp [text]
  rw [ht]
  exact ⟨_, number?_written (hs _ (.head _)) (by decide) _⟩

theorem read?_text (hs : s.IsNumbered) (v : Text) : read? (s.text ++ v) = some s := by
  obtain ⟨operation, first, second⟩ := s
  have ho (w : Text) : head? ("c[".toList ++ (operation ++ ("](".toList ++ w))) =
      some (operation, w) := number?_written (hs operation (.head _)) (by decide) w
  have hf (w : Text) : number? "c[" "]" ("c[".toList ++ (first ++ ("]".toList ++ w))) =
      some (first, w) := number?_written (hs first (.tail _ (.head _))) (by decide) w
  cases second with
  | none =>
    have ht : text ⟨operation, first, none⟩ ++ v = "c[".toList ++ (operation ++ ("](".toList ++
        ("c[".toList ++ (first ++ ("]".toList ++ (")".toList ++ v)))))) := by
      simp [text, ending]
    have hn : number? ",c[" "])" (")".toList ++ v) = none := rfl
    simp only [ht, read?, ho, hf, Option.bind_eq_bind, Option.bind_some, hn,
      List.dropPrefix?_append_of_beq _ (beq_self_eq_true _), Option.map_some]
  | some k =>
    have hk : number? ",c[" "])" (",c[".toList ++ (k ++ ("])".toList ++ v))) = some (k, v) :=
      number?_written (hs k (.tail _ (.tail _ (.head _)))) (by decide) v
    have ht : text ⟨operation, first, some k⟩ ++ v = "c[".toList ++ (operation ++ ("](".toList ++
        ("c[".toList ++ (first ++ ("]".toList ++ (",c[".toList ++ (k ++ ("])".toList ++ v)))))))) := by
      simp [text, ending]
    simp only [ht, read?, ho, hf, Option.bind_eq_bind, Option.bind_some, hk]
    rfl

theorem eq_text_of_read? (h : read? t = some s) : s.IsNumbered ∧ ∃ v, t = s.text ++ v := by
  simp only [read?, head?, Option.bind_eq_bind, Option.bind_eq_some_iff, Prod.exists] at h
  obtain ⟨operation, x, hx, first, y, hy, h⟩ := h
  obtain ⟨ho, rfl⟩ := number?_eq_some hx
  obtain ⟨hf, rfl⟩ := number?_eq_some hy
  cases hk : number? ",c[" "])" y with
  | none =>
    simp only [hk, Option.map_eq_some_iff, List.dropPrefix?_eq_some_iff, beq_iff_eq] at h
    obtain ⟨v, ⟨_, rfl, rfl⟩, rfl⟩ := h
    refine ⟨?_, v, by simp [text, ending]⟩
    simp [IsNumbered, indices, ho, hf]
  | some found =>
    obtain ⟨second, v⟩ := found
    obtain ⟨hd, rfl⟩ := number?_eq_some hk
    simp only [hk] at h
    obtain rfl := Option.some.inj h
    refine ⟨?_, v, by simp [text, ending]⟩
    simp [IsNumbered, indices, ho, hf, hd]

theorem head?_of_ne {c : Char} (hc : c ≠ 'c') (t : Text) : head? (c :: t) = none := by
  have hd : (c :: t).dropPrefix? "c[".toList = none := by
    simp [List.dropPrefix?, hc]
  simp only [head?, number?, hd]
  rfl

theorem head?_argument {c : Char} (hd : IsRun .digit 1 d) (hc : c ≠ '(') (t : Text) :
    head? ("c[".toList ++ (d ++ ("]".toList ++ c :: t))) = none := by
  have hn : ("]".toList ++ c :: t).dropPrefix? "](".toList = none := by
    simp [List.dropPrefix?, hc]
  rw [head?, number?_append hd rfl, hn]
  rfl

theorem head?_of_read? (h : read? t = some s) : (head? t).map (·.1) = some s.operation := by
  obtain ⟨hs, v, rfl⟩ := eq_text_of_read? h
  obtain ⟨w, hw⟩ := head?_text hs v
  rw [hw]
  rfl

variable {β : Type} {f : Text → Option β}

theorem filterMap_tails_cons (c : Char) (t : Text) :
    (c :: t).tails.filterMap f = (f (c :: t)).toList ++ t.tails.filterMap f := by
  rw [List.tails_cons, List.filterMap_cons]
  cases f (c :: t) <;> rfl

theorem filterMap_tails_append (hf : ∀ t, head? t = none → f t = none) (hx : 'c' ∉ x) (t : Text) :
    (x ++ t).tails.filterMap f = t.tails.filterMap f := by
  induction x with
  | nil => rfl
  | cons c x ih =>
    obtain ⟨hc, hx⟩ := not_or.1 (List.mem_cons.not.1 hx)
    rw [List.cons_append, filterMap_tails_cons, hf _ (head?_of_ne (Ne.symm hc) _), ih hx]
    rfl

theorem not_mem_run (hd : IsRun .digit 1 d) : 'c' ∉ d := fun h => absurd (hd.2 'c' h) (by decide)

theorem filterMap_tails_argument (hf : ∀ t, head? t = none → f t = none) (hd : IsRun .digit 1 d)
    {c : Char} (hc : c ≠ '(') (t : Text) :
    ("c[".toList ++ (d ++ ("]".toList ++ c :: t))).tails.filterMap f =
      (c :: t).tails.filterMap f := by
  have hn : 'c' ∉ '[' :: (d ++ [']']) := by simp [not_mem_run hd]
  have hr : "c[".toList ++ (d ++ ("]".toList ++ c :: t)) =
      'c' :: ('[' :: (d ++ [']']) ++ c :: t) := by simp
  rw [hr, filterMap_tails_cons, hf _ (hr ▸ head?_argument hd hc t), filterMap_tails_append hf hn]
  rfl

theorem filterMap_tails_text (hf : ∀ t, head? t = none → f t = none) (hs : s.IsNumbered)
    (v : Text) :
    (s.text ++ v).tails.filterMap f = (f (s.text ++ v)).toList ++ v.tails.filterMap f := by
  obtain ⟨operation, first, second⟩ := s
  have ho := not_mem_run (hs operation (.head _))
  have hn : 'c' ∉ '[' :: (operation ++ [']', '(']) := by simp [ho]
  have hf1 := hs first (.tail _ (.head _))
  have ht : text ⟨operation, first, second⟩ ++ v = 'c' :: ('[' :: (operation ++ [']', '(']) ++
      ("c[".toList ++ (first ++ ("]".toList ++ (ending second ++ v))))) := by
    simp [text]
  have hbehind : ("c[".toList ++ (first ++ ("]".toList ++ (ending second ++ v)))).tails.filterMap f =
      v.tails.filterMap f := by
    cases second with
    | none =>
      refine (filterMap_tails_argument hf hf1 (c := ')') (by decide) v).trans ?_
      exact filterMap_tails_append hf (x := [')']) (by decide) v
    | some k =>
      have hk := hs k (.tail _ (.tail _ (.head _)))
      have he : ending (some k) ++ v = ',' :: ("c[".toList ++ (k ++ ("]".toList ++ ')' :: v))) := by
        simp [ending]
      rw [he, filterMap_tails_argument hf hf1 (by decide)]
      refine (filterMap_tails_append hf (x := [',']) (by decide) _).trans ?_
      refine (filterMap_tails_argument hf hk (by decide) v).trans ?_
      exact filterMap_tails_append hf (x := [')']) (by decide) v
  rw [ht, filterMap_tails_cons, filterMap_tails_append hf hn, hbehind]

theorem callsIn_text (hs : s.IsNumbered) (v : Text) : callsIn (s.text ++ v) = s :: callsIn v := by
  rw [callsIn, filterMap_tails_text (fun t h => by simp [read?, h]) hs, read?_text hs]
  rfl

end

section
variable {count : Nat} {s : WrittenStep} {p : Place} {u v w z : Text}

def stepParts : List Regex :=
  [Catalogue.text "c[", named operationGroup digits, Catalogue.text "](c[", named firstGroup digits,
    Catalogue.text "]", optional true (sequence [Catalogue.text ",c[", named secondGroup digits,
      Catalogue.text "]"]), Catalogue.text ")"]

theorem reads_ending {k : Option Text} (hk : ∀ d ∈ k, IsRun .digit 1 d) (v : Text) : Reads
    [optional true (sequence [Catalogue.text ",c[", named secondGroup digits, Catalogue.text "]"]),
      Catalogue.text ")"]
    (ending k ++ v) (ending k) (k.toList.map fun k => ⟨.named secondGroup, ",c[".toList, k⟩) := by
  cases k with
  | none => exact .skip (reads_text ")" (.nil v)) (.sequence (bars_text rfl))
  | some k =>
    have hsecond : Reads ([Catalogue.text ",c[", named secondGroup digits, Catalogue.text "]"] ++
          [Catalogue.text ")"])
        (",c[".toList ++ (k ++ ("]".toList ++ (")".toList ++ v))))
        (",c[".toList ++ (k ++ ("]".toList ++ (")".toList ++ []))))
        [⟨.named secondGroup, ",c[".toList, k⟩] :=
      reads_text ",c[" <| reads_captured (hk k rfl) rfl rfl <|
        reads_text "]" <| reads_text ")" (.nil v)
    have htext : ending (some k) ++ v =
        ",c[".toList ++ (k ++ ("]".toList ++ (")".toList ++ v))) := by
      simp only [ending, List.append_assoc]
    rw [htext]
    exact hsecond.sequence.take (bars_text rfl)

def marks (s : WrittenStep) : List Mark :=
  (s.second.toList.map fun k => ⟨.named secondGroup, "c[".toList ++ (s.operation ++
      ("](c[".toList ++ (s.first ++ "],c[".toList))), k⟩) ++
    [⟨.named firstGroup, "c[".toList ++ (s.operation ++ "](c[".toList), s.first⟩,
      ⟨.named operationGroup, "c[".toList, s.operation⟩]

theorem reads_text_marks (hs : s.IsNumbered) (v : Text) :
    Reads stepParts (s.text ++ v) s.text (marks s) := by
  obtain ⟨operation, first, second⟩ := s
  have hsecond : ∀ d ∈ second, IsRun .digit 1 d := fun d hd =>
    hs d (.tail _ (.tail _ (Option.mem_toList.2 hd)))
  have hfirst := reads_captured (g := firstGroup) (hs first (.tail _ (.head _))) rfl rfl
    (reads_text "]" (reads_ending hsecond v))
  have hoperation := reads_text "c[" <| reads_captured (g := operationGroup)
    (hs operation (.head _)) rfl rfl (reads_text "](c[" hfirst)
  have htext : text ⟨operation, first, second⟩ ++ v = "c[".toList ++ (operation ++ ("](c[".toList ++
      (first ++ ("]".toList ++ (ending second ++ v))))) := by
    simp only [text, List.append_assoc]
  rw [htext]
  cases second <;> exact hoperation

theorem stepOf_reading (s : WrittenStep) (o : Nat) (u : Text) :
    ThrottlingProgram.stepOf count (.reading o u (marks s)) = s.step count := by
  have ho : operationGroup ≠ firstGroup ∧ operationGroup ≠ secondGroup := by decide
  have hf : firstGroup ≠ secondGroup := by decide
  have hs : secondGroup ≠ firstGroup ∧ secondGroup ≠ operationGroup := by decide
  have hnone : (Hit.reading o u []).group? secondGroup = none := rfl
  obtain ⟨operation, first, second⟩ := s
  cases second with
  | none =>
    simp only [ThrottlingProgram.stepOf, step, marks, Option.toList_none, List.map_nil,
      List.nil_append, PatternSet.group?_reading, PatternSet.group?_reading_of_ne ho.1,
      PatternSet.group?_reading_of_ne hs.1, PatternSet.group?_reading_of_ne hs.2, hnone]
    rfl
  | some k =>
    simp only [ThrottlingProgram.stepOf, step, marks, Option.toList_some, List.map_cons,
      List.map_nil, List.singleton_append, PatternSet.group?_reading,
      PatternSet.group?_reading_of_ne ho.1, PatternSet.group?_reading_of_ne ho.2,
      PatternSet.group?_reading_of_ne hf]
    rfl

theorem spells_step (h : Spells throttlingStep z) : ∃ s : WrittenStep, s.IsNumbered ∧ z = s.text := by
  obtain ⟨_, _, rfl, h1, h⟩ := spells_sequence_cons.1 h
  obtain ⟨operation, _, rfl, h2, h⟩ := spells_sequence_cons.1 h
  obtain ⟨_, _, rfl, h3, h⟩ := spells_sequence_cons.1 h
  obtain ⟨first, _, rfl, h4, h⟩ := spells_sequence_cons.1 h
  obtain ⟨_, _, rfl, h5, h⟩ := spells_sequence_cons.1 h
  obtain ⟨x, y, rfl, h6, h7⟩ := spells_sequence_cons.1 h
  obtain rfl := spells_literal.1 h1
  obtain rfl := spells_literal.1 h3
  obtain rfl := spells_literal.1 h5
  obtain rfl := spells_literal.1 h7
  have hrun {d : Text} (hd : Spells (plus true (.char .digit)) d) : IsRun .digit 1 d :=
    spells_plus.1 hd
  have ho := hrun h2
  have hf := hrun h4
  obtain rfl | hx := spells_optional.1 h6
  · exact ⟨⟨operation, first, none⟩, by simp [IsNumbered, indices, ho, hf], by simp [text, ending]⟩
  · obtain ⟨_, _, rfl, h8, h⟩ := spells_sequence_cons.1 hx
    obtain ⟨second, _, rfl, h9, h10⟩ := spells_sequence_cons.1 h
    obtain rfl := spells_literal.1 h8
    obtain rfl := spells_literal.1 h10
    have hk := hrun h9
    exact ⟨⟨operation, first, some second⟩, by simp [IsNumbered, indices, ho, hf, hk],
      by simp [text, ending]⟩

theorem opens_step (hr : p.rest = s.text ++ v) (hs : s.IsNumbered) : Opens throttlingStep p :=
  ((reads_text_marks hs v).at hr).opens

theorem exists_of_opens (h : Opens throttlingStep p) :
    ∃ (s : WrittenStep) (v : Text), s.IsNumbered ∧ p.rest = s.text ++ v := by
  obtain ⟨z, v, hz, hsp⟩ := spells_of_opens h
  obtain ⟨s, hs, rfl⟩ := spells_step hsp
  exact ⟨s, v, hs, hz⟩

theorem read?_eq_none (hr : p.rest = v) (h : ¬Opens throttlingStep p) : read? v = none := by
  cases hs : read? v with
  | none => rfl
  | some s =>
    obtain ⟨hn, w, rfl⟩ := eq_text_of_read? hs
    exact absurd (opens_step hr hn) h

theorem callsIn_append (h : ∀ u₁ u₂, u = u₁ ++ u₂ → u₂ ≠ [] → read? (u₂ ++ v) = none) :
    callsIn (u ++ v) = callsIn v := by
  induction u with
  | nil => rfl
  | cons c u ih =>
    have hn : read? (c :: (u ++ v)) = none := h [] (c :: u) rfl (List.cons_ne_nil c u)
    have hu := ih fun u₁ u₂ he => h (c :: u₁) u₂ (he ▸ rfl)
    rw [callsIn, List.cons_append, filterMap_tails_cons, hn]
    exact hu

/-- A search from a place finds nothing where no call is left, and the first call that is left where
there is one. -/
theorem searchAt_step (hp : p.IsIn w) :
    (searchAt throttlingStep p = none ∧ callsIn p.rest = []) ∨
      ∃ (u : Text) (s : WrittenStep) (v : Text), p.rest = u ++ s.text ++ v ∧
        searchAt throttlingStep p =
          some (.reading (p.offset + u.byteLength) s.text (marks s), p.took (u ++ s.text)) ∧
        callsIn p.rest = s :: callsIn v := by
  have hl : throttlingStep.loopsAreRuns = true := by decide
  have hf := finds_searchAt hl hp
  cases hfound : searchAt throttlingStep p with
  | none =>
    rw [hfound] at hf
    refine .inl ⟨rfl, ?_⟩
    have hn := callsIn_append (u := p.rest) (v := []) fun u₁ u₂ hu _ =>
      read?_eq_none (Place.rest_took (by rw [List.append_nil]; exact hu)) (hf u₁ u₂ hu)
    rw [List.append_nil] at hn
    rw [hn]
    rfl
  | some found =>
    rw [hfound] at hf
    obtain ⟨u, x, t, hr, ht, -, -, hno⟩ := hf
    obtain ⟨s, v, hs, hv⟩ := exists_of_opens ⟨t, ht⟩
    rw [Place.rest_took hr] at hv
    subst hv
    have hread : ReadsAt throttlingStep (p.took u) s.text (marks s) :=
      (reads_text_marks hs v).at (Place.rest_took hr)
    have hc : callsIn (u ++ (s.text ++ v)) = callsIn (s.text ++ v) := by
      refine callsIn_append fun u₁ u₂ hu hne => read?_eq_none ?_ (hno u₁ u₂ hu hne)
      exact Place.rest_took (by rw [hr, hu, List.append_assoc])
    refine .inr ⟨u, s, v, by rw [hr, List.append_assoc], ?_, ?_⟩
    · rw [← hfound]
      exact searchAt_of_readsAt hl hp hr hread hno
    · rw [hr, hc, callsIn_text hs]

theorem mapM_searchAllFrom {bound : Nat} (hp : p.IsIn w) (hb : p.rest.length < bound) :
    (searchAllFrom throttlingStep bound p).mapM (ThrottlingProgram.stepOf count) =
      (callsIn p.rest).mapM (step count) := by
  induction bound generalizing p with
  | zero => exact absurd hb (Nat.not_lt_zero _)
  | succ bound ih =>
    obtain ⟨hn, hc⟩ | ⟨u, s, v, hr, hfound, hc⟩ := searchAt_step hp
    · rw [searchAllFrom, hn, hc]
      rfl
    · have hlen := congrArg List.length hr
      have hs : 0 < s.text.length := by simp [text]
      simp only [List.length_append] at hlen
      have hrest := Place.rest_took hr
      have hnext := ih (Place.took_isIn hp hr) (by rw [hrest]; omega)
      rw [hrest] at hnext
      have hpos : 0 < Text.byteLength s.text := Nat.lt_of_lt_of_le Nat.one_pos (Nat.le_add_right _ _)
      have hspan : (Hit.reading (p.offset + u.byteLength) s.text (marks s)).whole.span.isEmpty =
          false := by
        simp only [Hit.reading, Span.isEmpty, beq_eq_false_iff_ne]
        omega
      simp only [searchAllFrom, hfound, hspan, Bool.false_eq_true, if_false, List.mapM_cons, hc,
        stepOf_reading, hnext]

/-- The steps of a block are what its calls mean. -/
theorem stepsOf_eq (block : Text) (count : Nat) : ThrottlingProgram.stepsOf block count =
    (callsIn block).mapM (step count) >>= fun
      | [] => .error (.extraction .noSteps)
      | steps => .ok steps := by
  rw [ThrottlingProgram.stepsOf, searchAll,
    mapM_searchAllFrom (Place.start_isIn block) (Nat.lt_succ_self block.length)]
  rfl

end

end WrittenStep
end Unscramble
