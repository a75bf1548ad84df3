import Unscramble.Proofs.Pattern.Room
import Unscramble.Proofs.Regex.Avoids
import Unscramble.Script.Definition

/-! The definition of a function is found where it stands, if no function is assigned before. -/
namespace Unscramble.Definition
open Regex Catalogue
variable {script name parameter body pre v : Text}

def header (name parameter v : Text) : Text :=
  name ++ ("=".toList ++ ("function".toList ++ ("(".toList ++ (parameter ++ (")".toList ++ v)))))

def headerParts (name : Text) : List Regex :=
  [literal name, gap, text "=", gap, text "function", parameterAndBrace]

theorem reads_header (hp : IsName parameter) (v : Text) :
    Reads (headerParts name) (header name parameter ("\x7b".toList ++ v))
      (header name parameter ("\x7b".toList ++ [])) [] := by
  have hend : Reads [gap, text ")", gap, text "\x7b"] (")".toList ++ ("\x7b".toList ++ v))
      (")".toList ++ ("\x7b".toList ++ [])) [] :=
    reads_gap rfl <| reads_text ")" <| reads_gap rfl <| reads_text "\x7b" (.nil v)
  -- a shorter parameter leaves a character that is no blank in front of the parenthesis
  have hparameter : Reads [identifier, gap, text ")", gap, text "\x7b"]
      (parameter ++ (")".toList ++ ("\x7b".toList ++ v)))
      (parameter ++ (")".toList ++ ("\x7b".toList ++ []))) [] := by
    refine .run hp.isRun rfl (fun z d w hz _ => ?_) hend
    have hd := hp.2 d (hz ▸ List.mem_append_right z (.head w))
    exact bars_gap (not_blank_of_nameChar hd) (bars_text_of_contains hd rfl)
  have hargument : Reads ([gap, text "(", gap, identifier, gap, text ")", gap, text "\x7b"] ++ [])
      ("(".toList ++ (parameter ++ (")".toList ++ ("\x7b".toList ++ v))))
      ("(".toList ++ (parameter ++ (")".toList ++ ("\x7b".toList ++ [])))) [] :=
    reads_gap rfl <| reads_text "(" <| reads_gap hp.head_not_blank hparameter
  exact .literal name <| reads_gap rfl <| reads_text "=" <|
    reads_gap rfl <| reads_text "function" <| .sequence hargument

theorem spells_gap {z : Text} : Spells gap z ↔ ∀ d ∈ z, CharClass.blank.contains d = true :=
  spells_star

/-- A definition assigns a function to the name, which stands at the start or behind one character. -/
theorem exists_parts_of_spells {z : Text}
    (h : Spells (sequence [ownName, named definitionGroup (sequence (headerParts name))]) z) :
    ∃ a g g' q, z = a ++ (name ++ (g ++ ('=' :: (g' ++ ("function".toList ++ q))))) ∧ a.length ≤ 1 ∧
      (∀ d ∈ g, CharClass.blank.contains d = true) ∧ ∀ d ∈ g', CharClass.blank.contains d = true := by
  obtain ⟨a, z1, rfl, ha, h⟩ := spells_sequence_cons.1 h
  have hheader : Spells (sequence (headerParts name)) z1 := h
  obtain ⟨n, z2, rfl, hn, h⟩ := spells_sequence_cons.1 hheader
  obtain ⟨g, z3, rfl, hg, h⟩ := spells_sequence_cons.1 h
  obtain ⟨e, z4, rfl, he, h⟩ := spells_sequence_cons.1 h
  obtain ⟨g', z5, rfl, hg', h⟩ := spells_sequence_cons.1 h
  obtain ⟨f, q, rfl, hf, -⟩ := spells_sequence_cons.1 h
  rw [spells_literal.1 hn, spells_literal.1 he, spells_literal.1 hf]
  refine ⟨a, g, g', q, rfl, ?_, spells_gap.1 hg, spells_gap.1 hg'⟩
  obtain ha | ⟨d, -, rfl⟩ := ha
  · rw [show a = [] from ha]
    exact Nat.zero_le 1
  · exact Nat.le_refl 1

theorem begins_assigned {g q : Text} (hg : ∀ d ∈ g, CharClass.blank.contains d = true) :
    begins CharClass.contains functionAssigned ('=' :: (g ++ ("function".toList ++ q))) = true ∨
      begins CharClass.contains spacedAssignment ('=' :: (g ++ ("function".toList ++ q))) = true := by
  cases g with
  | nil => exact .inl (begins_classesOf "=fu".toList ("nction".toList ++ q))
  | cons d g =>
    refine .inr ?_
    simp only [spacedAssignment, List.cons_append, begins, hg d (.head g), Bool.and_true]
    rfl

theorem not_opens_before (hn : IsName name) (hf : Avoids functionAssigned pre)
    (hs : Avoids spacedAssignment pre) {u₁ u₂ r : Text} (hpre : pre = u₁ ++ u₂) (hne : u₂ ≠ [])
    {p : Place} (hp : p.rest = u₂ ++ ';' :: r) :
    ¬Opens (sequence [ownName, named definitionGroup (sequence (headerParts name))]) p := by
  intro ho
  obtain ⟨z, w, hz, hsp⟩ := spells_of_opens ho
  obtain ⟨a, g, g', q, rfl, ha, hg, hg'⟩ := exists_parts_of_spells hsp
  have hz' : u₂ ++ ';' :: r =
      a ++ (name ++ g) ++ ('=' :: (g' ++ ("function".toList ++ (q ++ w)))) := by
    rw [← hp, hz]
    simp only [List.append_assoc, List.cons_append]
  -- the semicolon would stand in the name or in the gap behind it
  have hshort : ¬pre <+: u₁ ++ (a ++ (name ++ g)) := by
    intro h
    obtain ⟨s, hs⟩ := h
    rw [hpre, List.append_assoc] at hs
    have hs' : u₂ ++ s = a ++ (name ++ g) := List.append_cancel_left hs
    rw [← hs', List.append_assoc] at hz'
    have hsemi : ';' ∈ s := by
      cases s with
      | nil => cases List.append_cancel_left hz'
      | cons d s => exact (List.cons.inj (List.append_cancel_left hz')).1 ▸ .head s
    have hmem : ';' ∈ name ++ g := by
      obtain ⟨c, hc, rfl⟩ | ⟨c, -, hc⟩ := List.append_eq_append_iff.1 hs'
      · have hlen := List.length_pos_iff.2 hne
        rw [hc, List.length_append] at ha
        have hnil : c = [] := List.length_eq_zero_iff.1 (by omega)
        rwa [hnil, List.nil_append] at hsemi
      · exact hc ▸ List.mem_append_right c hsemi
    cases List.mem_append.1 hmem with
    | inl hm => exact hn.not_mem (by decide) hm
    | inr hm => exact absurd (hg _ hm) (by decide)
  have he : u₁ ++ (a ++ (name ++ g)) ++ ('=' :: (g' ++ ("function".toList ++ (q ++ w)))) =
      pre ++ ';' :: r := by
    rw [hpre, List.append_assoc, ← hz', List.append_assoc]
  cases begins_assigned hg' with
  | inl hb => exact hshort (hf.prefix_of_begins he hb)
  | inr hb => exact hshort (hs.prefix_of_begins he hb)

theorem header_append (name parameter u v : Text) :
    header name parameter (u ++ v) = header name parameter u ++ v := by
  simp only [header, List.append_assoc]

def definition (name : Text) : Regex :=
  sequence [ownName, named definitionGroup (sequence (headerParts name))]

theorem loopsAreRuns_definition (name : Text) : (definition name).loopsAreRuns = true := by
  have hh : (sequence (headerParts name)).loopsAreRuns = true := by
    rw [loopsAreRuns_sequence, headerParts, List.all_cons, loopsAreRuns_literal]
    decide
  rw [definition, loopsAreRuns_sequence, List.all_cons, List.all_cons, named, loopsAreRuns, hh]
  decide

theorem reads_definition (name : Text) (hp : IsName parameter) (v : Text) :
    Reads [named definitionGroup (sequence (headerParts name))]
      (header name parameter ['\x7b'] ++ v) (header name parameter ['\x7b'])
      [⟨.named definitionGroup, [], header name parameter ['\x7b']⟩] := by
  have hinner : Reads (headerParts name) (header name parameter ['\x7b'] ++ v)
      (header name parameter ['\x7b']) [] := by
    rw [← header_append]
    exact reads_header hp v
  have h : Reads [named definitionGroup (sequence (headerParts name))]
      (header name parameter ['\x7b'] ++ v) (header name parameter ['\x7b'] ++ []) _ :=
    .named hinner (.nil v)
  rwa [List.append_nil] at h

def found (u name parameter : Text) : Match :=
  ⟨header name parameter ['\x7b'],
    ⟨u.byteLength, u.byteLength + (header name parameter ['\x7b']).byteLength⟩⟩

theorem bars_ownerChar (hn : IsName name) (v : Text) {rs : List Regex} :
    Bars (.char (.except ownerChar) :: rs) (header name parameter v) := by
  obtain ⟨hne, hc⟩ := hn
  cases name with
  | nil => exact absurd rfl hne
  | cons d name =>
    refine Bars.char ?_
    simp only [CharClass.contains, ownerChar_of_nameChar (hc d (.head name)), Bool.not_true]

theorem firstMatch_at_start (hn : IsName name) (hp : IsName parameter) (v : Text) :
    (functionDefinition name).firstMatch (header name parameter ['\x7b'] ++ v) =
      .ok (found [] name parameter) := by
  have hr := reads_definition name hp v
  have hchar : Bars [.char (.except ownerChar), named definitionGroup (sequence (headerParts name))]
      (header name parameter ['\x7b'] ++ v) := by
    rw [← header_append]
    exact bars_ownerChar hn _
  have hat : ReadsAt (definition name) (Place.start (header name parameter ['\x7b'] ++ v)) _ _ :=
    .left ((hr.at rfl).look rfl) (hchar.not_opens rfl)
  have hs := search?_at_start (loopsAreRuns_definition name) hat
  refine PatternSet.firstMatch_of_search? rfl hs ?_
  exact (PatternSet.group?_reading ..).trans (by simp [found])

theorem firstMatch_behind (hn : IsName name) (hp : IsName parameter) (hne : pre ≠ [])
    (hf : Avoids functionAssigned pre) (hs : Avoids spacedAssignment pre) (v : Text) :
    (functionDefinition name).firstMatch (pre ++ ';' :: (header name parameter ['\x7b'] ++ v)) =
      .ok (found (pre ++ [';']) name parameter) := by
  have hrest (u₁ u₂ : Text) (hu : pre = u₁ ++ u₂) :
      ((Place.start (pre ++ ';' :: (header name parameter ['\x7b'] ++ v))).took u₁).rest =
        u₂ ++ ';' :: (header name parameter ['\x7b'] ++ v) :=
    Place.rest_took (by rw [hu, List.append_assoc]; rfl)
  have hr := (reads_definition name hp v).char (c := .except ownerChar) (d := ';') (by decide)
  have hat : ReadsAt (definition name)
      ((Place.start (pre ++ ';' :: (header name parameter ['\x7b'] ++ v))).took pre) _ _ :=
    .right (hr.at (hrest pre [] (List.append_nil pre).symm)) (not_opens_look (meets_textStart_took hne))
  have hsearch := search?_of_readsAt (loopsAreRuns_definition name) rfl hat fun u₁ u₂ hu hu₂ =>
    not_opens_before hn hf hs hu hu₂ (hrest u₁ u₂ hu)
  refine PatternSet.firstMatch_of_search? rfl hsearch ?_
  refine (PatternSet.group?_reading ..).trans ?_
  simp [found]

theorem lastOffset_found (u name parameter : Text) :
    lastOffset (found u name parameter).span =
      .ok (Text.byteLength (u ++ header name parameter [])) := by
  have hh : header name parameter ['\x7b'] = header name parameter [] ++ ['\x7b'] :=
    header_append name parameter [] ['\x7b']
  have hlen : Text.byteLength ['\x7b'] = 1 := rfl
  simp only [lastOffset, found, hh, Text.byteLength_append, hlen, ← Nat.add_assoc]

def defined (u name parameter body : Text) : Definition :=
  ⟨⟨header name parameter (Literal.Context.brace.enclose body), ⟨u.byteLength, Text.byteLength
      (u ++ header name parameter (Literal.Context.brace.enclose body))⟩⟩,
    ⟨Literal.Context.brace.enclose body, ⟨Text.byteLength (u ++ header name parameter []),
      Text.byteLength (u ++ header name parameter (Literal.Context.brace.enclose body))⟩⟩⟩

theorem find_of_firstMatch {u : Text} (hr : finder .function name = .ok (functionDefinition name))
    (hb : Literal.Closed body)
    (hscript : script = u ++ (header name parameter (Literal.Context.brace.enclose body) ++ v))
    (hm : (functionDefinition name).firstMatch script = .ok (found u name parameter)) :
    find script name = .ok (defined u name parameter body) := by
  have hparts : header name parameter (Literal.Context.brace.enclose body) =
      header name parameter [] ++ Literal.Context.brace.enclose body := header_append name parameter [] _
  have hscript' : script =
      u ++ header name parameter [] ++ (Literal.Context.brace.enclose body ++ v) := by
    rw [hscript, hparts]
    simp only [List.append_assoc]
  have hspan := Literal.span_enclose (k := .brace) (.inl rfl) (u ++ header name parameter []) hb v
  have hcover := Literal.covered_append (u ++ header name parameter [])
    (Literal.Context.brace.enclose body) v
  have hwhole := Literal.covered_append u (header name parameter (Literal.Context.brace.enclose body)) v
  rw [← hscript'] at hspan hcover
  rw [← hscript] at hwhole
  rw [List.append_assoc, ← hparts] at hspan hcover
  simp only [find, hr, hm, Outcome.ok_bind, lastOffset_found, hspan, hcover]
  simp only [found, hwhole, Outcome.ok_bind, Outcome.pure_eq]
  rfl

theorem header_enclose (name parameter body v : Text) :
    header name parameter (Literal.Context.brace.enclose body) ++ v =
      header name parameter ['\x7b'] ++ (body ++ '\x7d' :: v) := by
  rw [← header_append, ← header_append, Literal.Context.enclose_append]
  rfl

theorem find_at_start (hr : finder .function name = .ok (functionDefinition name))
    (hn : IsName name) (hp : IsName parameter) (hb : Literal.Closed body) (v : Text) :
    find (header name parameter (Literal.Context.brace.enclose body) ++ v) name =
      .ok (defined [] name parameter body) := by
  refine find_of_firstMatch hr hb rfl ?_
  rw [header_enclose]
  exact firstMatch_at_start hn hp _

theorem find_behind (hr : finder .function name = .ok (functionDefinition name))
    (hn : IsName name) (hp : IsName parameter) (hne : pre ≠ [])
    (hf : Avoids functionAssigned pre) (hs : Avoids spacedAssignment pre)
    (hb : Literal.Closed body) (v : Text) :
    find (pre ++ ';' :: (header name parameter (Literal.Context.brace.enclose body) ++ v)) name =
      .ok (defined (pre ++ [';']) name parameter body) := by
  refine find_of_firstMatch (v := v) hr hb (by simp) ?_
  rw [header_enclose]
  exact firstMatch_behind hn hp hne hf hs _

end Unscramble.Definition
