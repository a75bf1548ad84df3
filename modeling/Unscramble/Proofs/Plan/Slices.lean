import Unscramble.Plan.SignatureScript
import Unscramble.Proofs.Plan.Heads
import Unscramble.Proofs.Regex.Inside
import Unscramble.Proofs.Script.Definition
import Unscramble.Proofs.Script.Slicing

/-! Building a plan from a script, whatever the script is: every slice that is cut out is there, and
no list that is asked for its elements lacks them. -/
namespace Unscramble
open Outcome Regex Catalogue
variable {script name t x y : Text} {s s' : Span} {m : Match}

namespace Text

theorem exists_slice?_join (hx : t.slice? s = some x) (hy : t.slice? s' = some y)
    (h : s.start ≤ s'.stop) : ∃ z, t.slice? ⟨s.start, s'.stop⟩ = some z := by
  obtain ⟨u, v, rfl, hu, -⟩ := slice?_eq_some_iff.1 hx
  obtain ⟨u', v', ht, -, hv'⟩ := slice?_eq_some_iff.1 hy
  rw [List.append_assoc] at ht
  obtain ⟨k, hk, -⟩ | ⟨k, hk, hr⟩ := List.append_eq_append_iff.1 ht
  · exact ⟨k, slice?_eq_some_iff.2 ⟨u, v', by rw [List.append_assoc, ht, hk], hu, by rw [← hk, hv']⟩⟩
  · have hlength : byteLength k = 0 := by
      have hu' := congrArg byteLength hk
      rw [byteLength_append, hu, hv'] at hu'
      omega
    refine ⟨[], slice?_eq_some_iff.2 ⟨u, x ++ v, by simp, hu, ?_⟩⟩
    rw [List.append_nil, hk, byteLength_append, hv', hlength]
    rfl

theorem exists_dropBytes?_of_slice? (hx : t.slice? s = some x) : ∃ v, t.dropBytes? s.stop = some v := by
  obtain ⟨u, v, rfl, -, hstop⟩ := slice?_eq_some_iff.1 hx
  exact ⟨v, hstop ▸ dropBytes?_append (u ++ x) v⟩

end Text

theorem PatternSet.isDefined_firstMatch (p : PatternSet) (t : Text) : IsDefined (p.firstMatch t) := by
  obtain he | ⟨m, he⟩ := p.firstMatch_cases t
  · exact he ▸ .error (by simp)
  · exact he ▸ .ok m

namespace Literal

theorem isDefined_inside {l : Text} (h : IsLiteral l) : IsDefined (inside l) := by
  obtain ⟨k, x, hk, -, rfl⟩ := h
  exact inside_enclose hk x ▸ .ok x

theorem isDefined_at? (text : Text) (start : Nat) : IsDefined (at? text start) := by
  obtain ⟨f, he, hf⟩ | ⟨m, he, -⟩ := at?_cases text start
  · exact he ▸ .error hf
  · exact he ▸ .ok m

theorem of_at? {text : Text} {start : Nat} (h : at? text start = .ok m) :
    IsLiteral m.text ∧ text.slice? m.span = some m.text := by
  obtain ⟨f, he, -⟩ | ⟨m', he, hl, hs⟩ := at?_cases text start
  · cases he.symm.trans h
  · obtain rfl := Except.ok.inj (he.symm.trans h)
    exact ⟨hl, hs⟩

end Literal

theorem Catalogue.isDefined_finder (k : Kind) (name : Text) : IsDefined (finder k name) := by
  obtain h | h := finder_cases k name
  · exact h ▸ .ok _
  · exact h ▸ .error (by simp)

namespace Definition

theorem loopsAreRuns_functionDefinition (name : Text) :
    ∀ r ∈ (functionDefinition name).patterns, r.loopsAreRuns = true := by
  have hbound : (sequence [text "function", blanks, literal name, parameterAndBrace]).loopsAreRuns =
      true := by
    rw [loopsAreRuns_sequence]
    simp only [List.all_cons, loopsAreRuns_literal]
    decide
  exact List.forall_mem_cons.2 ⟨loopsAreRuns_definition name,
    List.forall_mem_singleton.2 (by rw [named, loopsAreRuns, hbound])⟩

theorem head_ne_nil (h : (functionDefinition name).firstMatch script = .ok m) : m.text ≠ [] := by
  obtain ⟨-, r, hr, inner, hinner, hspells⟩ :=
    PatternSet.isSlice_of_firstMatch (loopsAreRuns_functionDefinition name) h
  have hword (s : String) (hs : s.toList ≠ []) : ¬Spells (text s) [] := fun h =>
    hs (spells_literal.1 h).symm
  obtain rfl | rfl : r = definition name ∨ r = named definitionGroup
      (sequence [text "function", blanks, literal name, parameterAndBrace]) := by
    simpa [functionDefinition, definition, headerParts] using hr
  · have hgroups : (definition name).groups = [(.named definitionGroup, sequence (headerParts name))] := by
      simp only [definition, headerParts, named, groups_sequence, groups, List.flatMap_cons,
        List.flatMap_nil, groups_literal, List.nil_append, List.append_nil]
      rfl
    obtain ⟨-, rfl⟩ := Prod.mk.inj (List.mem_singleton.1 (hgroups ▸ hinner))
    exact ne_nil_of_spells (r := text "=") (by simp [headerParts]) (hword _ (by decide)) hspells
  · have hgroups : (named definitionGroup (sequence
        [text "function", blanks, literal name, parameterAndBrace])).groups =
        [(.named definitionGroup, sequence [text "function", blanks, literal name,
          parameterAndBrace])] := by
      simp only [named, groups_sequence, groups, List.flatMap_cons, List.flatMap_nil, groups_literal,
        List.nil_append, List.append_nil]
      rfl
    obtain ⟨-, rfl⟩ := Prod.mk.inj (List.mem_singleton.1 (hgroups ▸ hinner))
    exact ne_nil_of_spells (r := text "function") (.head _) (hword _ (by decide)) hspells

theorem lastOffset_of_slice? (hs : t.slice? s = some x) (hx : x ≠ []) :
    ∃ n, lastOffset s = .ok n ∧ s.start ≤ n := by
  obtain ⟨u, v, -, hu, hv⟩ := Text.slice?_eq_some_iff.1 hs
  cases x with
  | nil => exact absurd rfl hx
  | cons c x =>
    have hc := c.utf8Size_pos
    rw [Text.byteLength_append, Text.byteLength_cons] at hv
    obtain ⟨start, stop⟩ := s
    cases stop with
    | zero => exact absurd hv (by simp only; omega)
    | succ n => exact ⟨n, rfl, by simp only at hu hv ⊢; omega⟩

theorem find_cases (script name : Text) :
    (∃ f, find script name = .error f ∧ f ≠ .undefinedAccess) ∨
      ∃ d, find script name = .ok d ∧ Literal.IsLiteral d.body.text := by
  rw [find]
  obtain hr | hr := finder_cases .function name
  swap
  · exact .inl ⟨.badPattern, by rw [hr, error_bind], by simp⟩
  rw [hr, ok_bind, Kind.set]
  obtain he | ⟨head, he⟩ := (functionDefinition name).firstMatch_cases script
  · exact .inl ⟨.noMatch _, by rw [he, error_bind], by simp⟩
  obtain ⟨hslice, -⟩ := PatternSet.isSlice_of_firstMatch (loopsAreRuns_functionDefinition name) he
  obtain ⟨n, hn, hle⟩ := lastOffset_of_slice? hslice (head_ne_nil he)
  rw [he, ok_bind, hn, ok_bind]
  cases hs : Literal.span script n with
  | error f => exact .inl ⟨f, rfl, fun hf => Literal.isDefined_span script n (hf ▸ hs)⟩
  | ok body =>
    obtain ⟨hstart, l, hl, hliteral⟩ := Literal.slice?_of_span hs
    obtain ⟨u, v, -, hu, hv⟩ := Text.slice?_eq_some_iff.1 hl
    have hstop : head.span.start ≤ body.stop := by
      rw [Text.byteLength_append] at hv
      omega
    obtain ⟨whole, hwhole⟩ := Text.exists_slice?_join hslice hl hstop
    refine .inr ⟨⟨⟨whole, head.span.start, body.stop⟩, ⟨l, body⟩⟩, ?_, hliteral⟩
    rw [ok_bind, Literal.covered_of_slice? hwhole, ok_bind, Literal.covered_of_slice? hl]
    rfl

theorem isDefined_isPresent (script name : Text) : IsDefined (isPresent script name) :=
  (isDefined_finder .function name).bind fun _ _ => .ok _

theorem isDefined_find (script name : Text) : IsDefined (find script name) := by
  obtain ⟨f, he, hf⟩ | ⟨d, he, -⟩ := find_cases script name
  · exact he ▸ .error hf
  · exact he ▸ .ok d

end Definition

namespace SignaturePlan

theorem isDefined_operationsOf (object : Text) : IsDefined (operationsOf object) := by
  rw [operationsOf]
  split
  · exact .error (by simp)
  · exact .ok _

theorem isDefined_ofScript (script : Text) : IsDefined (ofScript script) := by
  rw [ofScript]
  refine (PatternSet.isDefined_firstMatch _ _).bind fun name _ => ?_
  refine (Definition.isDefined_find _ _).bind fun definition hd => ?_
  obtain ⟨f, he, -⟩ | ⟨d, he, hbody⟩ := Definition.find_cases script name.text
  · cases he.symm.trans hd
  obtain rfl := Except.ok.inj (he.symm.trans hd)
  refine (Literal.isDefined_inside hbody).bind fun inner _ => ?_
  simp only
  split
  · exact .error (by simp)
  next hmany =>
    split
    next hcalls =>
      -- of three statements one is neither the first nor the last
      have hlength := congrArg List.length hcalls
      rw [List.length_dropLast, List.length_drop, List.length_nil] at hlength
      omega
    next call calls _ =>
      refine (PatternSet.isDefined_firstMatch _ _).bind fun object _ => ?_
      refine (isDefined_finder _ _).bind fun finder _ => ?_
      refine (PatternSet.isDefined_firstMatch _ _).bind fun opening _ => ?_
      refine (Literal.isDefined_at? _ _).bind fun literal hl => ?_
      refine (Literal.isDefined_inside (Literal.of_at? hl).1).bind fun entries _ => ?_
      exact (isDefined_operationsOf entries).bind fun _ _ => .ok _

end SignaturePlan

namespace ThrottlingProgram

theorem isDefined_nameFromArray (script : Text) : IsDefined (nameFromArray script) := by
  rw [nameFromArray]
  refine (PatternSet.isDefined_firstMatch _ _).bind fun array ha => ?_
  have hruns : ∀ r ∈ throttlingArray.patterns, r.loopsAreRuns = true := by decide
  obtain ⟨v, hv⟩ := Text.exists_dropBytes?_of_slice? (PatternSet.isSlice_of_firstMatch hruns ha).1
  simp only [hv]
  split
  · exact .error (by simp)
  · refine (isDefined_finder _ _).bind fun finder _ => ?_
    refine (PatternSet.isDefined_firstMatch _ _).bind fun opening _ => ?_
    refine (Literal.isDefined_at? _ _).bind fun literal _ => ?_
    refine (Elements.isDefined_ofLiteral _).bind fun elements _ => ?_
    split
    · exact .error (by simp)
    · exact .ok _

theorem isDefined_functionName (script : Text) : IsDefined (functionName script) := by
  rw [functionName]
  obtain he | ⟨name, he⟩ := throttlingFunction.firstMatch_cases script
  · rw [he]
    exact isDefined_nameFromArray script
  · rw [he]
    refine (Definition.isDefined_isPresent script name.text).bind fun present _ => ?_
    split
    · exact .ok _
    · exact isDefined_nameFromArray script

theorem isDefined_indexOf (count : Nat) (m : Match) : IsDefined (indexOf count m) := by
  rw [indexOf]
  split
  · exact .error (by simp)
  · split
    · exact .ok _
    · exact .error (by simp)

theorem isDefined_step (count : Nat) (s : WrittenStep) : IsDefined (s.step count) := by
  rw [WrittenStep.step]
  refine (isDefined_indexOf _ _).bind fun operation _ => ?_
  refine (isDefined_indexOf _ _).bind fun first _ => ?_
  cases s.second with
  | none => exact .ok _
  | some k => exact (isDefined_indexOf _ _).bind fun _ _ => .ok _

theorem isDefined_stepsOf (block : Text) (count : Nat) : IsDefined (stepsOf block count) := by
  rw [WrittenStep.stepsOf_eq]
  refine (IsDefined.mapM fun s _ => isDefined_step count s).bind fun steps _ => ?_
  cases steps with
  | nil => exact .error (by simp)
  | cons s ss => exact .ok _

theorem isDefined_ofScript (script : Text) : IsDefined (ofScript script) := by
  rw [ofScript]
  refine (isDefined_functionName script).bind fun name _ => ?_
  refine (Definition.isDefined_find _ _).bind fun definition _ => ?_
  simp only
  split
  · exact .error (by simp)
  · refine (Literal.isDefined_at? _ _).bind fun array ha => ?_
    refine (Elements.isDefined_ofLiteral _).bind fun elements _ => ?_
    obtain ⟨v, hv⟩ := Text.exists_dropBytes?_of_slice? (Literal.of_at? ha).2
    simp only [hv]
    refine (PatternSet.isDefined_firstMatch _ _).bind fun opening _ => ?_
    refine (Literal.isDefined_at? _ _).bind fun block _ => ?_
    exact (isDefined_stepsOf _ _).bind fun _ _ => .ok _

end ThrottlingProgram

/-- Whatever the text and the offset are, what is done on octets and slices comes out as on
characters, and nothing outside the text or inside a character is asked for. -/
theorem cuts_no_character (t : Text) :
    (∀ start, Literal.octetSpan t start = Literal.span t start ∧
      (∀ s, Literal.span t start = .ok s → s.start = start ∧ ∃ l, t.slice? s = some l) ∧
      IsDefined (Literal.span t start) ∧ IsDefined (Literal.at? t start)) ∧
    (Commas.octetOffset? t = Commas.offset? t ∧
      (∀ i, Commas.offset? t = some i →
        ∃ a b, t.takeBytes? i = some a ∧ t.dropBytes? (i + 1) = some b ∧ t = a ++ ',' :: b) ∧
      Commas.slicedPieces (t.length + 1) t = .ok (Commas.pieces t)) ∧
    (Elements.slicedElements t = Elements.ofLiteral t ∧ IsDefined (Elements.ofLiteral t)) ∧
    (∀ quote ∈ ['"', '\''], ThrottlingProgram.slicedContent quote t =
      .ok (ThrottlingProgram.quotedContent? quote t)) ∧
    IsDefined (SignaturePlan.ofScript t) ∧ IsDefined (ThrottlingProgram.functionName t) ∧
    IsDefined (ThrottlingProgram.ofScript t) := by
  refine ⟨fun start => ⟨Literal.octetSpan_eq_span t start, fun s hs => ?_,
    Literal.isDefined_span t start, Literal.isDefined_at? t start⟩,
    ⟨Commas.octetOffset?_eq_offset? t, fun i hi => ?_,
      Commas.slicedPieces_eq_pieces (Nat.lt_succ_self _)⟩,
    ⟨Elements.slicedElements_eq t, Elements.isDefined_ofLiteral t⟩, fun quote hq => ?_,
    SignaturePlan.isDefined_ofScript t, ThrottlingProgram.isDefined_functionName t,
    ThrottlingProgram.isDefined_ofScript t⟩
  · obtain ⟨hstart, l, hl, -⟩ := Literal.slice?_of_span hs
    exact ⟨hstart, l, hl⟩
  · obtain ⟨⟨a, b⟩, hcut, rfl⟩ := Option.map_eq_some_iff.1 hi
    obtain rfl := Commas.eq_of_cutFrom? hcut
    exact ⟨a, b, Text.takeBytes?_append a _, Text.dropBytes?_behind rfl a b, rfl⟩
  · refine ThrottlingProgram.slicedContent_eq ?_ t
    obtain rfl | rfl := List.mem_pair.1 hq <;> rfl

def escapedLetter : Text := "\u00e9[\"\\\u00e9]\",1],\u00fc".toList

theorem cuts_no_escapedLetter :
    (Literal.span escapedLetter 2 = .ok ⟨2, 12⟩ ∧ ∃ l, escapedLetter.slice? ⟨2, 12⟩ = some l) ∧
    (Commas.offset? escapedLetter = some 12 ∧ ∃ a b, escapedLetter.takeBytes? 12 = some a ∧
      escapedLetter.dropBytes? 13 = some b ∧ escapedLetter = a ++ ',' :: b) ∧
    '"' ∈ ['"', '\''] ∧ ThrottlingProgram.slicedContent '"' escapedLetter = .ok none := by
  have hspan : Literal.span escapedLetter 2 = .ok ⟨2, 12⟩ := by decide
  have hoffset : Commas.offset? escapedLetter = some 12 := by decide
  obtain ⟨hliteral, ⟨-, hcomma, -⟩, -, hquoted, -⟩ := cuts_no_character escapedLetter
  exact ⟨⟨hspan, ((hliteral 2).2.1 _ hspan).2⟩, ⟨hoffset, hcomma 12 hoffset⟩, by decide,
    hquoted '"' (by decide)⟩

end Unscramble
