import Unscramble.Proofs.Pattern.Catalogue
import Unscramble.Proofs.Pattern.Set
import Unscramble.Proofs.Regex.Avoids

/-! What the expressions of throttling scripts find. -/
namespace Unscramble.Catalogue
open Regex
variable {name array callee pre tail y z g v w : Text}

/-- The parameter is looked up as a guard. -/
def Guarded (t : Text) : Prop := ∃ y g v, t = y ++ (lookUp ++ (g ++ ("&&".toList ++ v))) ∧
  ∀ d ∈ g, CharClass.blank.contains d = true

theorem not_guarded {t : Text} (h : ¬lookUp <:+: t) : ¬Guarded t := by
  intro h
  obtain ⟨y, g, v, rfl, -⟩ := h
  exact h ⟨y, _, List.append_assoc ..⟩

theorem not_guarded_nil : ¬Guarded [] := not_guarded (by decide)

/-- What is behind the guard: the parameter is set to what the call of the entry function gives. -/
def guardedCall (callee v : Text) : Text :=
  "&&(".toList ++ ("b".toList ++ ("=".toList ++ (callee ++ ("(".toList ++ ("b".toList ++
    (")".toList ++ (",a.set(\"n\",b))".toList ++ ("\x7d;".toList ++ v))))))))

theorem eq_of_guard (hpre : Avoids (classesOf lookUp) pre) (hc : '.' ∉ callee)
    (ht : ¬Guarded tail) (hg : ∀ d ∈ g, CharClass.blank.contains d = true)
    (h : pre ++ (lookUp ++ guardedCall callee tail) = y ++ (lookUp ++ (g ++ ("&&".toList ++ v)))) :
    y = pre := by
  obtain ⟨x, rfl⟩ := hpre.prefix_of_begins h.symm (begins_classesOf ..)
  rw [List.append_assoc] at h
  have hx := List.append_cancel_left h
  cases x with
  | nil => exact List.append_nil pre
  | cons c x =>
    have hset : Avoids (classesOf lookUp) (",a.set(\"n\",b))".toList ++ "\x7d;".toList) := by decide
    have hcall : Avoids (classesOf lookUp) (lookUp.tail ++ ("&&(b=".toList ++ (callee ++
        ("(b)".toList ++ (",a.set(\"n\",b))".toList ++ "\x7d;".toList))))) :=
      .append (by decide) <| .append (by decide) <| (avoids_lookUp_of_not_mem hc).append <|
        .append (by decide) hset
    have he : x ++ (lookUp ++ (g ++ ("&&".toList ++ v))) = lookUp.tail ++ ("&&(b=".toList ++ (callee ++
        ("(b)".toList ++ (",a.set(\"n\",b))".toList ++ "\x7d;".toList)))) ++ tail := by
      simp only [List.append_assoc]
      exact (List.cons.inj hx).2.symm
    obtain ⟨x', rfl⟩ := hcall.prefix_of_begins he (begins_classesOf ..)
    rw [List.append_assoc] at he
    exact absurd ⟨x', g, v, (List.append_cancel_left he).symm, hg⟩ ht

def alternationParts : List Regex :=
  [text "a.get(\"n\"))", gap, text "&&", star false (char (.except (.oneOf ';' ['\x7d']))),
    text "||", gap, named nameGroup identifier]

def alternation : Regex :=
  sequence ([text "a.", char letter, gap, text "&&", gap, text "(", char lower, gap, text "=", gap] ++
    alternationParts)

theorem exists_parts_of_spells_alternation (h : Spells alternation z) :
    ∃ a g b q, z = a ++ (lookUp ++ (g ++ ("&&".toList ++ (b ++ '|' :: q)))) ∧
      (∀ d ∈ g, CharClass.blank.contains d = true) ∧ '\x7d' ∉ b := by
  obtain ⟨a, v, rfl, hv⟩ := exists_of_spells_append h
  obtain ⟨l, v1, rfl, hl, hv1⟩ := spells_sequence_cons.1 hv
  obtain ⟨g, v2, rfl, hg, hv2⟩ := spells_sequence_cons.1 hv1
  obtain ⟨s, v3, rfl, hs, hv3⟩ := spells_sequence_cons.1 hv2
  obtain ⟨b, v4, rfl, hb, hv4⟩ := spells_sequence_cons.1 hv3
  obtain ⟨o, q, rfl, ho, -⟩ := spells_sequence_cons.1 hv4
  have hbrace : (CharClass.except (.oneOf ';' ['\x7d'])).contains '\x7d' = false := by decide
  rw [spells_literal.1 hl, spells_literal.1 hs, spells_literal.1 ho]
  refine ⟨a ++ ['a'], g, b, '|' :: q, ?_, spells_star.1 hg, fun hm => ?_⟩
  · simp only [List.append_assoc, List.singleton_append]
    rfl
  · rw [spells_star.1 hb _ hm] at hbrace
    cases hbrace

theorem not_opens_alternation (hpre : Avoids (classesOf lookUp) pre) (hc : '.' ∉ callee)
    (hbar : '|' ∉ callee) (ht : ¬Guarded tail)
    (hw : pre ++ (lookUp ++ guardedCall callee tail) = y ++ z) :
    ¬Opens alternation ((Place.start (pre ++ (lookUp ++ guardedCall callee tail))).took y) := by
  intro ho
  obtain ⟨x, w, hx, hsp⟩ := spells_of_opens ho
  obtain ⟨a, g, b, q, rfl, hg, hb⟩ := exists_parts_of_spells_alternation hsp
  rw [Place.rest_took hw] at hx
  have he : pre ++ (lookUp ++ guardedCall callee tail) =
      y ++ a ++ (lookUp ++ (g ++ ("&&".toList ++ (b ++ '|' :: (q ++ w))))) := by
    rw [hw, hx]
    simp only [List.append_assoc, List.cons_append]
  have hpre' := eq_of_guard hpre hc ht hg he
  rw [hpre'] at he
  have hcall := List.append_cancel_left (List.append_cancel_left he)
  cases g with
  | cons d g => exact absurd (hg d (.head g)) ((List.cons.inj hcall).1 ▸ by decide)
  | nil =>
    have hend : "(b=".toList ++ (callee ++ ("(b)".toList ++ ",a.set(\"n\",b))".toList)) ++
        '\x7d' :: (';' :: tail) = b ++ '|' :: (q ++ w) := by
      simp only [List.append_assoc]
      exact (List.cons.inj (List.cons.inj hcall).2).2
    cases Text.mem_or_mem_of_append_eq (by decide) hend with
    | inl hm => exact hb hm
    | inr hm =>
      have hno : '|' ∉ "(b=".toList ∧ '|' ∉ "(b)".toList ∧ '|' ∉ ",a.set(\"n\",b))".toList := by
        decide
      simp only [List.mem_append, hno, hbar, or_self] at hm

theorem search?_alternation (hpre : Avoids (classesOf lookUp) pre) (hc : '.' ∉ callee)
    (hbar : '|' ∉ callee) (ht : ¬Guarded tail) :
    alternation.search? (pre ++ (lookUp ++ guardedCall callee tail)) = none :=
  search?_eq_none (by decide) fun _ _ hw => not_opens_alternation hpre hc hbar ht hw

def callPrefix : Text := ".get(\"n\"))&&(b=".toList

section
variable {rs : List Regex} {u : Text} {ms : List Mark}

theorem eq_of_opens (hpre : Avoids (classesOf lookUp) pre) (hc : '.' ∉ callee)
    (ht : ¬Guarded tail) (hw : pre ++ (lookUp ++ guardedCall callee tail) = y ++ z)
    (ho : Opens (sequence (text ".get(\"n\"))&&(" :: rs))
      ((Place.start (pre ++ (lookUp ++ guardedCall callee tail))).took y)) : y = pre := by
  obtain ⟨x, w, hx, hsp⟩ := spells_of_opens ho
  obtain ⟨l, q, rfl, hl, -⟩ := spells_sequence_cons.1 hsp
  rw [Place.rest_took hw, spells_literal.1 hl] at hx
  have hg : ∀ d ∈ ([] : Text), CharClass.blank.contains d = true := by simp
  refine eq_of_guard (g := []) (v := '(' :: (q ++ w)) hpre hc ht hg ?_
  rw [hw, hx]
  simp only [List.append_assoc]
  rfl

theorem search?_guarded (hpre : Avoids (classesOf lookUp) pre) (hc : '.' ∉ callee)
    (ht : ¬Guarded tail) (hl : (sequence (text ".get(\"n\"))&&(" :: rs)).loopsAreRuns = true)
    (h : Reads (text ".get(\"n\"))&&(" :: rs) (lookUp ++ guardedCall callee tail) u ms) :
    (sequence (text ".get(\"n\"))&&(" :: rs)).search?
      (pre ++ (lookUp ++ guardedCall callee tail)) = some (.reading pre.byteLength u ms) := by
  refine search?_of_readsAt hl rfl (h.at (Place.rest_took rfl)) fun u₁ u₂ hu hne ho => hne ?_
  have he := eq_of_opens (z := u₂ ++ (lookUp ++ guardedCall callee tail)) hpre hc ht
    (by rw [← List.append_assoc u₁, ← hu]) ho
  rw [he] at hu
  exact List.append_cancel_left (hu.symm.trans (List.append_nil pre).symm)

theorem search?_guarded_eq_none (hpre : Avoids (classesOf lookUp) pre) (hc : '.' ∉ callee)
    (ht : ¬Guarded tail) (hl : (sequence (text ".get(\"n\"))&&(" :: rs)).loopsAreRuns = true)
    (h : Bars (text ".get(\"n\"))&&(" :: rs) (lookUp ++ guardedCall callee tail)) :
    (sequence (text ".get(\"n\"))&&(" :: rs)).search?
      (pre ++ (lookUp ++ guardedCall callee tail)) = none := by
  refine search?_eq_none hl fun y z hw ho => ?_
  obtain rfl := eq_of_opens hpre hc ht hw ho
  exact h.not_opens (Place.rest_took rfl) ho

end

theorem throttlingFunction_direct (hpre : Avoids (classesOf lookUp) pre) (hn : IsName name)
    (ht : ¬Guarded tail) : ∃ m,
      throttlingFunction.firstMatch (pre ++ (lookUp ++ guardedCall name tail)) = .ok m ∧
        m.text = name := by
  have hdot := hn.not_mem (c := '.') (by decide)
  have hcall : Reads [named nameGroup identifier, text "(", char nameChar, text ")"]
      (name ++ ("(".toList ++ ("b".toList ++ (")".toList ++ (",a.set(\"n\",b))".toList ++
        ("\x7d;".toList ++ tail))))))
      (name ++ ("(".toList ++ ("b".toList ++ (")".toList ++ []))))
      [⟨.named nameGroup, [], name⟩] :=
    reads_captured hn.isRun rfl rfl <| reads_text "(" <| .char (by decide) <| reads_text ")" (.nil _)
  have hguarded : Reads [text ".get(\"n\"))&&(", char nameChar, text "=", named nameGroup identifier,
      text "(", char nameChar, text ")"] (lookUp ++ guardedCall name tail)
      (callPrefix ++ (name ++ "(b)".toList)) [⟨.named nameGroup, callPrefix, name⟩] :=
    reads_text ".get(\"n\"))&&(" <| .char (by decide) <| reads_text "=" hcall
  have hnone := search?_alternation hpre hdot (hn.not_mem (by decide)) ht
  have hsearch := search?_guarded hpre hdot ht (by decide) hguarded
  exact ⟨_, (PatternSet.firstMatch_of_search?_eq_none rfl hnone).trans
    (PatternSet.firstMatch_of_search? rfl hsearch (PatternSet.group?_reading ..)), rfl⟩

def elementAt (array : Text) (i : Nat) : Text :=
  array ++ ("[".toList ++ (Number.render i ++ "]".toList))

theorem not_mem_elementAt {d : Char} (ha : IsName array) (hd : nameChar.contains d = false)
    (hb : d ∉ "[]".toList) (i : Nat) : d ∉ elementAt array i := by
  have hb' : d ≠ '[' ∧ d ≠ ']' := by simpa using hb
  simp [elementAt, ha.not_mem hd, (isName_render i).not_mem hd, hb']

theorem guardedCall_elementAt (array : Text) (i : Nat) (tail : Text) :
    guardedCall (elementAt array i) tail =
      "&&(".toList ++ ("b".toList ++ ("=".toList ++ (array ++ ("[".toList ++ (Number.render i ++
        ("](".toList ++ ("b".toList ++ (")".toList ++ (",a.set(\"n\",b))".toList ++
          ("\x7d;".toList ++ tail)))))))))) := by
  simp only [guardedCall, elementAt, List.append_assoc]
  rfl

theorem throttlingFunction_indirect (hpre : Avoids (classesOf lookUp) pre) (ha : IsName array)
    (ht : ¬Guarded tail) (i : Nat) :
    throttlingFunction.firstMatch (pre ++ (lookUp ++ guardedCall (elementAt array i) tail)) =
      .error (.noMatch .throttlingFunction) := by
  have hdot := not_mem_elementAt (d := '.') ha (by decide) (by decide) i
  have hbar := not_mem_elementAt (d := '|') ha (by decide) (by decide) i
  have hcall : Bars (text ".get(\"n\"))&&(" :: [char nameChar, text "=", named nameGroup identifier,
      text "(", char nameChar, text ")"]) (lookUp ++ guardedCall (elementAt array i) tail) := by
    rw [guardedCall_elementAt]
    exact .behind ".get(\"n\"))&&(".toList <| .behindChar <| .behind "=".toList <|
      bars_captured ha.isRun rfl rfl (bars_text rfl)
  have hfirst := search?_alternation hpre hdot hbar ht
  have hsecond := search?_guarded_eq_none hpre hdot ht (by decide) hcall
  exact (PatternSet.firstMatch_of_search?_eq_none rfl hfirst).trans
    ((PatternSet.firstMatch_of_search?_eq_none rfl hsecond).trans (PatternSet.firstMatch_nil ..))

theorem throttlingArray_firstMatch (hpre : Avoids (classesOf lookUp) pre) (ha : IsName array)
    (ht : ¬Guarded tail) (i : Nat) : ∃ m v,
      throttlingArray.firstMatch (pre ++ (lookUp ++ guardedCall (elementAt array i) tail)) = .ok m ∧
        m.text = array ∧
          (pre ++ (lookUp ++ guardedCall (elementAt array i) tail)).dropBytes? m.span.stop =
            some ("[".toList ++ (Number.render i ++ ("]".toList ++ v))) := by
  have hdot := not_mem_elementAt (d := '.') ha (by decide) (by decide) i
  have hindex : Reads [digits, text "](", char nameChar, text ")"]
      (Number.render i ++ ("](".toList ++ ("b".toList ++ (")".toList ++
        (",a.set(\"n\",b))".toList ++ ("\x7d;".toList ++ tail))))))
      (Number.render i ++ ("](".toList ++ ("b".toList ++ (")".toList ++ [])))) [] :=
    reads_run (isRun_render i) rfl rfl <| reads_text "](" <| .char (by decide) <|
      reads_text ")" (.nil _)
  have hguarded : Reads [text ".get(\"n\"))&&(", char nameChar, text "=",
      named arrayGroup identifier, text "[", digits, text "](", char nameChar, text ")"]
      (lookUp ++ guardedCall (elementAt array i) tail)
      (callPrefix ++ (array ++ ("[".toList ++ (Number.render i ++ "](b)".toList))))
      [⟨.named arrayGroup, callPrefix, array⟩] := by
    rw [guardedCall_elementAt]
    exact reads_text ".get(\"n\"))&&(" <| .char (by decide) <| reads_text "=" <|
      reads_captured ha.isRun rfl rfl (reads_text "[" hindex)
  have hsearch := search?_guarded hpre hdot ht (by decide) hguarded
  have hparts : pre ++ (lookUp ++ guardedCall (elementAt array i) tail) =
      pre ++ (callPrefix ++ array) ++ ("[".toList ++ (Number.render i ++ ("]".toList ++
        ("(b)".toList ++ (",a.set(\"n\",b))".toList ++ ("\x7d;".toList ++ tail)))))) := by
    rw [guardedCall_elementAt]
    simp only [List.append_assoc]
    rfl
  have hdrop := Text.dropBytes?_append (pre ++ (callPrefix ++ array)) ("[".toList ++
    (Number.render i ++ ("]".toList ++ ("(b)".toList ++ (",a.set(\"n\",b))".toList ++
      ("\x7d;".toList ++ tail))))))
  rw [← hparts] at hdrop
  simp only [Text.byteLength_append, ← Nat.add_assoc] at hdrop
  exact ⟨_, _, PatternSet.firstMatch_of_search? rfl hsearch (PatternSet.group?_reading ..), rfl,
    hdrop⟩

theorem indexSuffix_search? (i : Nat) (v : Text) : ∃ h m,
    indexSuffix.search? ("[".toList ++ (Number.render i ++ ("]".toList ++ v))) = some h ∧
      h.group? indexGroup = some m ∧ m.text = Number.render i := by
  have hindex : Reads [text "[", named indexGroup digits, text "]"]
      ("[".toList ++ (Number.render i ++ ("]".toList ++ v)))
      ("[".toList ++ (Number.render i ++ ("]".toList ++ [])))
      [⟨.named indexGroup, "[".toList, Number.render i⟩] :=
    reads_text "[" <| reads_captured (isRun_render i) rfl rfl (reads_text "]" (.nil v))
  exact ⟨_, _, search?_at_start (by decide) ((hindex.at rfl).look (l := .textStart) rfl),
    PatternSet.group?_reading .., rfl⟩

theorem tryBlock_firstMatch (v : Text) : ∃ m,
    tryBlock.firstMatch (";".toList ++ ("try".toList ++ ("\x7b".toList ++ v))) = .ok m ∧
      m.span.start = Text.byteLength ";try".toList := by
  have hopen : Reads [text ";", gap, text "try", gap, named openGroup (text "\x7b")]
      (";".toList ++ ("try".toList ++ ("\x7b".toList ++ v)))
      (";".toList ++ ("try".toList ++ ("\x7b".toList ++ [])))
      [⟨.named openGroup, ";try".toList, "\x7b".toList⟩] :=
    reads_text ";" <| reads_gap rfl <| reads_text "try" <|
      reads_gap rfl <| .namedLiteral openGroup "\x7b".toList (.nil v)
  have hsearch := search?_at_start (by decide) (hopen.at rfl)
  exact ⟨_, PatternSet.firstMatch_of_search? rfl hsearch (PatternSet.group?_reading ..),
    Nat.zero_add _⟩

end Unscramble.Catalogue
