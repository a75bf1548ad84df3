import Mathlib.Data.Nat.Find
import Unscramble.Proofs.Plan.Slices
import Unscramble.Proofs.Regex.Choice

/-! The heads of function definitions: what the search for a function finds in any script. An
assigned head stands at the start or behind a character that no longer name could end with; if there
is none, a declared one is found. Of several the leftmost counts. -/
namespace Unscramble.Definition
open Regex Catalogue
open Text (Blank)
variable {name script t u v w y z : Text} {m : Match} {P : Text → Text → Prop}

def IsParameters (t : Text) : Prop :=
  ∃ g₁ g₂ p g₃ g₄, Blank g₁ ∧ Blank g₂ ∧ IsName p ∧ Blank g₃ ∧ Blank g₄ ∧
    t = g₁ ++ ("(".toList ++ (g₂ ++ (p ++ (g₃ ++ (")".toList ++ (g₄ ++ "\x7b".toList))))))

def IsAssigned (name t : Text) : Prop :=
  ∃ g g' q, Blank g ∧ Blank g' ∧ IsParameters q ∧
    t = name ++ (g ++ ("=".toList ++ (g' ++ ("function".toList ++ q))))

/-- `function name(parameter){` with any blanks, one of which must be in front of the name. -/
def IsDeclared (name t : Text) : Prop :=
  ∃ g q, g ≠ [] ∧ Blank g ∧ IsParameters q ∧ t = "function".toList ++ (g ++ (name ++ q))

def StandsFree (z : Text) : Prop := ∀ c, z.getLast? = some c → ownerChar.contains c = false

/-- A text of a kind stands behind `z` and none of the kind behind a shorter text. -/
structure IsLeftmost (P : Text → Text → Prop) (w z t : Text) : Prop where
  kind : P z t
  begins : z ++ t <+: w
  first : ∀ z' t', P z' t' → z' ++ t' <+: w → z.length ≤ z'.length

theorem exists_isLeftmost (h : ∃ z t, P z t ∧ z ++ t <+: w) : ∃ z t, IsLeftmost P w z t := by
  classical
  have hlengths : ∃ n, ∃ z t, P z t ∧ z ++ t <+: w ∧ z.length = n := by
    obtain ⟨z, t, hP, ht⟩ := h
    exact ⟨_, z, t, hP, ht, rfl⟩
  obtain ⟨z, t, hP, ht, hn⟩ := Nat.find_spec hlengths
  exact ⟨z, t, hP, ht, fun z' t' hP' ht' => hn ▸ Nat.find_min' hlengths ⟨z', t', hP', ht', rfl⟩⟩

theorem spells_parameterAndBrace : Spells parameterAndBrace t ↔ IsParameters t := by
  constructor
  · intro h
    obtain ⟨g₁, _, rfl, hg₁, h⟩ := spells_sequence_cons.1 h
    obtain ⟨_, _, rfl, hopen, h⟩ := spells_sequence_cons.1 h
    obtain ⟨g₂, _, rfl, hg₂, h⟩ := spells_sequence_cons.1 h
    obtain ⟨p, _, rfl, hp, h⟩ := spells_sequence_cons.1 h
    obtain ⟨g₃, _, rfl, hg₃, h⟩ := spells_sequence_cons.1 h
    obtain ⟨_, _, rfl, hclose, h⟩ := spells_sequence_cons.1 h
    obtain ⟨g₄, _, rfl, hg₄, hbrace⟩ := spells_sequence_cons.1 h
    rw [spells_literal.1 hopen, spells_literal.1 hclose, spells_literal.1 hbrace]
    exact ⟨g₁, g₂, p, g₃, g₄, spells_gap.1 hg₁, spells_gap.1 hg₂, isName_of_spells hp,
      spells_gap.1 hg₃, spells_gap.1 hg₄, rfl⟩
  · intro h
    obtain ⟨g₁, g₂, p, g₃, g₄, hg₁, hg₂, hp, hg₃, hg₄, rfl⟩ := h
    refine spells_sequence_cons.2 ⟨g₁, _, rfl, spells_gap.2 hg₁, ?_⟩
    refine spells_sequence_cons.2 ⟨_, _, rfl, spells_literal.2 rfl, ?_⟩
    refine spells_sequence_cons.2 ⟨g₂, _, rfl, spells_gap.2 hg₂, ?_⟩
    refine spells_sequence_cons.2 ⟨p, _, rfl, spells_plus.2 hp.isRun, ?_⟩
    refine spells_sequence_cons.2 ⟨g₃, _, rfl, spells_gap.2 hg₃, ?_⟩
    refine spells_sequence_cons.2 ⟨_, _, rfl, spells_literal.2 rfl, ?_⟩
    exact spells_sequence_cons.2 ⟨g₄, _, rfl, spells_gap.2 hg₄, spells_literal.2 rfl⟩

theorem spells_headerParts : Spells (sequence (headerParts name)) t ↔ IsAssigned name t := by
  constructor
  · intro h
    obtain ⟨_, _, rfl, hn, h⟩ := spells_sequence_cons.1 h
    obtain ⟨g, _, rfl, hg, h⟩ := spells_sequence_cons.1 h
    obtain ⟨_, _, rfl, he, h⟩ := spells_sequence_cons.1 h
    obtain ⟨g', _, rfl, hg', h⟩ := spells_sequence_cons.1 h
    obtain ⟨_, q, rfl, hf, hq⟩ := spells_sequence_cons.1 h
    rw [spells_literal.1 hn, spells_literal.1 he, spells_literal.1 hf]
    exact ⟨g, g', q, spells_gap.1 hg, spells_gap.1 hg', spells_parameterAndBrace.1 hq, rfl⟩
  · intro h
    obtain ⟨g, g', q, hg, hg', hq, rfl⟩ := h
    refine spells_sequence_cons.2 ⟨name, _, rfl, spells_literal.2 rfl, ?_⟩
    refine spells_sequence_cons.2 ⟨g, _, rfl, spells_gap.2 hg, ?_⟩
    refine spells_sequence_cons.2 ⟨_, _, rfl, spells_literal.2 rfl, ?_⟩
    refine spells_sequence_cons.2 ⟨g', _, rfl, spells_gap.2 hg', ?_⟩
    exact spells_sequence_cons.2 ⟨_, q, rfl, spells_literal.2 rfl, spells_parameterAndBrace.2 hq⟩

def declarationParts (name : Text) : List Regex :=
  [text "function", blanks, literal name, parameterAndBrace]

theorem spells_declarationParts :
    Spells (sequence (declarationParts name)) t ↔ IsDeclared name t := by
  constructor
  · intro h
    obtain ⟨_, _, rfl, hf, h⟩ := spells_sequence_cons.1 h
    obtain ⟨g, _, rfl, hg, h⟩ := spells_sequence_cons.1 h
    obtain ⟨_, q, rfl, hn, hq⟩ := spells_sequence_cons.1 h
    rw [spells_literal.1 hn, spells_literal.1 hf]
    obtain ⟨hlen, hblank⟩ := spells_plus.1 hg
    exact ⟨g, q, List.length_pos_iff.1 hlen, hblank, spells_parameterAndBrace.1 hq, rfl⟩
  · intro h
    obtain ⟨g, q, hne, hg, hq, rfl⟩ := h
    refine spells_sequence_cons.2 ⟨_, _, rfl, spells_literal.2 rfl, ?_⟩
    refine spells_sequence_cons.2 ⟨g, _, rfl, spells_plus.2 ⟨List.length_pos_iff.2 hne, hg⟩, ?_⟩
    exact spells_sequence_cons.2 ⟨name, q, rfl, spells_literal.2 rfl, spells_parameterAndBrace.2 hq⟩

/-- The brace at the end of a head is the only one that is not in the name, so that no head goes on as
another one. -/
structure EndsWithBrace (n : Nat) (t : Text) : Prop where
  count : t.count '\x7b' = n + 1
  last : ∃ a, t = a ++ ['\x7b']

theorem EndsWithBrace.append {n k : Nat} (hz : z.count '\x7b' = k) (h : EndsWithBrace n t) :
    EndsWithBrace (k + n) (z ++ t) where
  count := by rw [List.count_append, hz, h.count, Nat.add_assoc]
  last := by
    obtain ⟨a, rfl⟩ := h.last
    exact ⟨z ++ a, (List.append_assoc ..).symm⟩

theorem EndsWithBrace.eq_nil_of_append {n : Nat} (h : EndsWithBrace n z)
    (h' : EndsWithBrace n (z ++ w)) : w = [] := by
  have hcount : w.count '\x7b' = 0 := by
    have hsum := h'.count
    rw [List.count_append, h.count] at hsum
    omega
  obtain ⟨a, ha⟩ := h'.last
  obtain rfl | ⟨w', c, rfl⟩ := List.eq_nil_or_concat' w
  · rfl
  · rw [← List.append_assoc] at ha
    obtain ⟨-, hc⟩ := List.append_inj' ha rfl
    exact absurd (hc ▸ List.mem_append_right w' (.head _)) (List.count_eq_zero.1 hcount)

theorem EndsWithBrace.unique {n : Nat} (ht : EndsWithBrace n t) (hu : EndsWithBrace n u)
    (h : t ++ v = u ++ w) : u = t := by
  obtain ⟨k, rfl, -⟩ | ⟨k, rfl, -⟩ := List.append_eq_append_iff.1 h
  · rw [ht.eq_nil_of_append hu, List.append_nil]
  · rw [hu.eq_nil_of_append ht, List.append_nil]

theorem count_blank (h : Blank z) : z.count '\x7b' = 0 :=
  List.count_eq_zero.2 fun hm => absurd (h _ hm) (by decide)

theorem endsWithBrace_of_isParameters (h : IsParameters t) : EndsWithBrace 0 t := by
  obtain ⟨g₁, g₂, p, g₃, g₄, hg₁, hg₂, hp, hg₃, hg₄, rfl⟩ := h
  have hname : p.count '\x7b' = 0 := List.count_eq_zero.2 (hp.not_mem (by decide))
  have hbrace : EndsWithBrace 0 "\x7b".toList := ⟨rfl, [], rfl⟩
  exact .append (count_blank hg₁) <| .append (k := 0) rfl <| .append (count_blank hg₂) <|
    .append hname <| .append (count_blank hg₃) <| .append (k := 0) rfl <|
    .append (count_blank hg₄) hbrace

theorem endsWithBrace_of_isAssigned (h : IsAssigned name t) :
    EndsWithBrace (name.count '\x7b') t := by
  obtain ⟨g, g', q, hg, hg', hq, rfl⟩ := h
  exact .append rfl <| .append (count_blank hg) <| .append (k := 0) rfl <|
    .append (count_blank hg') <| .append (k := 0) rfl (endsWithBrace_of_isParameters hq)

theorem endsWithBrace_of_isDeclared (h : IsDeclared name t) :
    EndsWithBrace (name.count '\x7b') t := by
  obtain ⟨g, q, -, hg, hq, rfl⟩ := h
  have hbehind : EndsWithBrace (0 + (name.count '\x7b' + 0)) (g ++ (name ++ q)) :=
    .append (count_blank hg) (.append rfl (endsWithBrace_of_isParameters hq))
  rw [Nat.zero_add, Nat.add_zero] at hbehind
  have h := EndsWithBrace.append (k := 0) (z := "function".toList) rfl hbehind
  rwa [Nat.zero_add] at h

theorem isLookFree_headerParts (name : Text) : (sequence (headerParts name)).isLookFree = true := by
  rw [isLookFree_sequence, headerParts, List.all_cons, isLookFree_literal]
  decide

theorem groups_headerParts (name : Text) : (sequence (headerParts name)).groups = [] := by
  rw [groups_sequence, headerParts, List.flatMap_cons, groups_literal]
  decide

theorem isLookFree_declarationParts (name : Text) :
    (sequence (declarationParts name)).isLookFree = true := by
  simp only [isLookFree_sequence, declarationParts, List.all_cons, isLookFree_literal]
  decide

theorem groups_declarationParts (name : Text) : (sequence (declarationParts name)).groups = [] := by
  simp only [groups_sequence, declarationParts, List.flatMap_cons, groups_literal]
  decide

theorem reads_assigned (h : IsAssigned name t) (v : Text) :
    Reads [named definitionGroup (sequence (headerParts name))] (t ++ v) t
      [⟨.named definitionGroup, [], t⟩] := by
  have hinner : Reads (headerParts name) (t ++ v) t [] :=
    reads_of_spells (isLookFree_headerParts name) (groups_headerParts name) (spells_headerParts.2 h) v
      fun z y hz hs => (endsWithBrace_of_isAssigned h).unique
        (endsWithBrace_of_isAssigned (spells_headerParts.1 hs)) hz
  have hnamed : Reads [named definitionGroup (sequence (headerParts name))] (t ++ v) (t ++ [])
      [⟨.named definitionGroup, [], t⟩] := .named hinner (.nil v)
  rwa [List.append_nil] at hnamed

theorem reads_declared (h : IsDeclared name t) (v : Text) :
    Reads [named definitionGroup (sequence (declarationParts name))] (t ++ v) t
      [⟨.named definitionGroup, [], t⟩] := by
  have hinner : Reads (declarationParts name) (t ++ v) t [] :=
    reads_of_spells (isLookFree_declarationParts name) (groups_declarationParts name)
      (spells_declarationParts.2 h) v
      fun z y hz hs => (endsWithBrace_of_isDeclared h).unique
        (endsWithBrace_of_isDeclared (spells_declarationParts.1 hs)) hz
  have hnamed : Reads [named definitionGroup (sequence (declarationParts name))] (t ++ v) (t ++ [])
      [⟨.named definitionGroup, [], t⟩] := .named hinner (.nil v)
  rwa [List.append_nil] at hnamed

def AssignedBehind (name z t : Text) : Prop := StandsFree z ∧ IsAssigned name t

theorem standsFree_concat {c : Char} (h : ownerChar.contains c = false) (y : Text) :
    StandsFree (y ++ [c]) := by
  intro d hd
  rw [List.getLast?_concat] at hd
  exact Option.some.inj hd ▸ h

theorem assigned_of_opens_start (ho : Opens (sequence [.look .textStart,
    named definitionGroup (sequence (headerParts name))]) ((Place.start w).took y)) :
    y = [] ∧ ∃ t, AssignedBehind name [] t ∧ [] ++ t <+: w := by
  by_cases hy : y = []
  · subst hy
    obtain ⟨t, v, ht, hspells⟩ := spells_of_opens (opens_anchored ho)
    exact ⟨rfl, t, ⟨nofun, spells_headerParts.1 hspells⟩, v, ht.symm⟩
  · exact absurd ho (not_opens_look (meets_textStart_took hy))

theorem assigned_of_opens_behind (hw : w = y ++ v) (ho : Opens (sequence [.char (.except ownerChar),
    named definitionGroup (sequence (headerParts name))]) ((Place.start w).took y)) :
    ∃ d t, AssignedBehind name (y ++ [d]) t ∧ y ++ [d] ++ t <+: w := by
  obtain ⟨_, x, hx, hspells⟩ := spells_of_opens ho
  obtain ⟨_, t, rfl, ⟨d, hd, rfl⟩, ht⟩ := spells_sequence_cons.1 hspells
  have hfree : ownerChar.contains d = false := by simpa [CharClass.contains] using hd
  have hv : v = [d] ++ t ++ x := (Place.rest_took (p := .start w) hw).symm.trans hx
  refine ⟨d, t, ⟨standsFree_concat hfree y, spells_headerParts.1 ht⟩, x, ?_⟩
  rw [hw, hv]
  simp only [List.append_assoc]

/-- The expression can be matched where a head begins at the start or one character later. -/
theorem not_opens_definition (hw : w = y ++ v)
    (hno : ∀ z t, AssignedBehind name z t → z ++ t <+: w → y.length + 1 < z.length) :
    ¬Opens (definition name) ((Place.start w).took y) := by
  intro ho
  cases opens_alt.1 ho with
  | inl ho =>
    obtain ⟨-, t, ht, hw⟩ := assigned_of_opens_start ho
    exact absurd (hno _ t ht hw) (Nat.not_lt_zero _)
  | inr ho =>
    obtain ⟨d, t, ht, hw⟩ := assigned_of_opens_behind hw ho
    exact absurd (hno _ t ht hw) (by simp)

theorem search?_assigned_start (h : IsAssigned name t) (v : Text) : ∃ hit,
    (definition name).search? (t ++ v) = some hit ∧
      hit.group? definitionGroup = some ⟨t, ⟨0, t.byteLength⟩⟩ := by
  have hat := ((reads_assigned h v).at (p := .start (t ++ v)) rfl).look (l := .textStart) rfl
  refine ⟨_, search?_left (loopsAreRuns_definition name) hat, ?_⟩
  exact (PatternSet.group?_reading ..).trans (by simp)

theorem search?_assigned_behind {c : Char} (h : IsAssigned name t) (hc : ownerChar.contains c = false)
    (hw : w = y ++ c :: (t ++ v))
    (hlater : ∀ z' t', AssignedBehind name z' t' → z' ++ t' <+: w → y.length < z'.length) : ∃ hit,
    (definition name).search? w = some hit ∧ hit.group? definitionGroup =
      some ⟨t, ⟨Text.byteLength (y ++ [c]), Text.byteLength (y ++ [c]) + t.byteLength⟩⟩ := by
  have hexcept : (CharClass.except ownerChar).contains c = true := by simp [CharClass.contains, hc]
  have hat : ReadsAt (definition name) ((Place.start w).took y) _ _ :=
    .right (((reads_assigned h v).char hexcept).at (Place.rest_took hw)) fun ho => by
      obtain ⟨rfl, t', ht', hw'⟩ := assigned_of_opens_start ho
      exact absurd (hlater _ t' ht' hw') (Nat.not_lt_zero _)
  have hsearch := search?_of_readsAt (loopsAreRuns_definition name) hw hat fun u₁ u₂ hu hne => by
    have hu₂ := List.length_pos_iff.2 hne
    refine not_opens_definition (v := u₂ ++ c :: (t ++ v)) (by rw [hw, hu, List.append_assoc]) ?_
    intro z' t' hz' ht'
    have hlt := hlater z' t' hz' ht'
    rw [hu, List.length_append] at hlt
    omega
  refine ⟨_, hsearch, (PatternSet.group?_reading ..).trans ?_⟩
  simp

theorem search?_assigned (h : IsLeftmost (AssignedBehind name) w z t) : ∃ hit,
    (definition name).search? w = some hit ∧
      hit.group? definitionGroup = some ⟨t, ⟨z.byteLength, z.byteLength + t.byteLength⟩⟩ := by
  obtain ⟨⟨hfree, hassigned⟩, ⟨v, hw⟩, hfirst⟩ := h
  obtain rfl | ⟨y, c, rfl⟩ := List.eq_nil_or_concat' z
  · obtain ⟨hit, hsearch, hgroup⟩ := search?_assigned_start hassigned v
    exact ⟨hit, hw ▸ hsearch, by simpa using hgroup⟩
  · have hw' : w = y ++ c :: (t ++ v) := by
      rw [← hw]
      simp only [List.append_assoc, List.singleton_append]
      rfl
    refine search?_assigned_behind hassigned (hfree c List.getLast?_concat) hw' fun z' t' hz ht => ?_
    have hle := hfirst z' t' hz ht
    rw [List.length_append] at hle
    exact hle

theorem search?_unassigned (h : ∀ z t, AssignedBehind name z t → ¬z ++ t <+: w) :
    (definition name).search? w = none :=
  search?_eq_none (loopsAreRuns_definition name) fun _ _ hw =>
    not_opens_definition hw fun z t hz ht => absurd ht (h z t hz)

def declaration (name : Text) : Regex := named definitionGroup (sequence (declarationParts name))

theorem loopsAreRuns_declaration (name : Text) : (declaration name).loopsAreRuns = true :=
  loopsAreRuns_functionDefinition name _ (.tail _ (.head _))

theorem declared_of_opens (hw : w = y ++ v) (ho : Opens (declaration name) ((Place.start w).took y)) :
    ∃ t, IsDeclared name t ∧ y ++ t <+: w := by
  obtain ⟨t, x, hx, hspells⟩ := spells_of_opens ho
  rw [Place.rest_took hw] at hx
  exact ⟨t, spells_declarationParts.1 hspells, x, by rw [hw, hx, List.append_assoc]⟩

theorem search?_declared (h : IsLeftmost (fun _ => IsDeclared name) w z t) : ∃ hit,
    (declaration name).search? w = some hit ∧
      hit.group? definitionGroup = some ⟨t, ⟨z.byteLength, z.byteLength + t.byteLength⟩⟩ := by
  obtain ⟨hdeclared, ⟨v, hw⟩, hfirst⟩ := h
  have hw' : w = z ++ (t ++ v) := by rw [← hw, List.append_assoc]
  have hat : ReadsAt (declaration name) ((Place.start w).took z) _ _ :=
    (reads_declared hdeclared v).at (Place.rest_took hw')
  have hsearch := search?_of_readsAt (loopsAreRuns_declaration name) hw' hat fun u₁ u₂ hu hne ho => by
    have hw₁ : w = u₁ ++ (u₂ ++ (t ++ v)) := by rw [hw', hu, List.append_assoc]
    obtain ⟨t', ht', hb⟩ := declared_of_opens hw₁ ho
    have hle := hfirst u₁ t' ht' hb
    have hu₂ := List.length_pos_iff.2 hne
    rw [hu, List.length_append] at hle
    omega
  refine ⟨_, hsearch, (PatternSet.group?_reading ..).trans ?_⟩
  simp

theorem search?_undeclared (h : ∀ z t, IsDeclared name t → ¬z ++ t <+: w) :
    (declaration name).search? w = none :=
  search?_eq_none (loopsAreRuns_declaration name) fun y _ hw ho => by
    obtain ⟨t, ht, hb⟩ := declared_of_opens hw ho
    exact h y t ht hb

/-- The head of a definition of the name that counts: the leftmost assigned one, or, if there is
none, the leftmost declared one. -/
def IsHead (name w z t : Text) : Prop :=
  IsLeftmost (AssignedBehind name) w z t ∨
    (∀ z' t', AssignedBehind name z' t' → ¬z' ++ t' <+: w) ∧
      IsLeftmost (fun _ => IsDeclared name) w z t

theorem firstMatch_of_isHead (h : IsHead name script z t) :
    (functionDefinition name).firstMatch script =
      .ok ⟨t, ⟨z.byteLength, z.byteLength + t.byteLength⟩⟩ := by
  obtain hassigned | ⟨hno, hdeclared⟩ := h
  · obtain ⟨hit, hsearch, hgroup⟩ := search?_assigned hassigned
    exact PatternSet.firstMatch_of_search? rfl hsearch hgroup
  · obtain ⟨hit, hsearch, hgroup⟩ := search?_declared hdeclared
    refine (PatternSet.firstMatch_of_search?_eq_none rfl (search?_unassigned hno)).trans ?_
    exact PatternSet.firstMatch_of_search? rfl hsearch hgroup

theorem firstMatch_of_no_head (hassigned : ∀ z t, AssignedBehind name z t → ¬z ++ t <+: script)
    (hdeclared : ∀ z t, IsDeclared name t → ¬z ++ t <+: script) :
    (functionDefinition name).firstMatch script = .error (.noMatch .functionDefinition) :=
  (PatternSet.firstMatch_of_search?_eq_none rfl (search?_unassigned hassigned)).trans
    ((PatternSet.firstMatch_of_search?_eq_none rfl (search?_undeclared hdeclared)).trans
      (PatternSet.firstMatch_nil ..))

theorem isHead_cases (name w : Text) : (∃ z t, IsHead name w z t) ∨
    (∀ z t, AssignedBehind name z t → ¬z ++ t <+: w) ∧ ∀ z t, IsDeclared name t → ¬z ++ t <+: w := by
  by_cases ha : ∃ z t, AssignedBehind name z t ∧ z ++ t <+: w
  · obtain ⟨z, t, h⟩ := exists_isLeftmost ha
    exact .inl ⟨z, t, .inl h⟩
  have hassigned (z t : Text) (h : AssignedBehind name z t) : ¬z ++ t <+: w :=
    fun hb => ha ⟨z, t, h, hb⟩
  by_cases hd : ∃ z t, IsDeclared name t ∧ z ++ t <+: w
  · obtain ⟨z, t, h⟩ := exists_isLeftmost (P := fun _ => IsDeclared name) hd
    exact .inl ⟨z, t, .inr ⟨hassigned, h⟩⟩
  · exact .inr ⟨hassigned, fun z t h hb => hd ⟨z, t, h, hb⟩⟩

theorem firstMatch_eq_ok_iff : (functionDefinition name).firstMatch script = .ok m ↔
    ∃ z, m.span = ⟨z.byteLength, z.byteLength + m.text.byteLength⟩ ∧ IsHead name script z m.text := by
  constructor
  · intro h
    obtain ⟨z, t, hhead⟩ | ⟨ha, hd⟩ := isHead_cases name script
    · obtain rfl := Except.ok.inj ((firstMatch_of_isHead hhead).symm.trans h)
      exact ⟨z, rfl, hhead⟩
    · cases (firstMatch_of_no_head ha hd).symm.trans h
  · intro h
    obtain ⟨z, hspan, hhead⟩ := h
    rw [firstMatch_of_isHead hhead, ← hspan]

/-- Nothing is found where there is no head at all, and nothing else can fail. -/
theorem firstMatch_eq_error_iff {f : Failure} :
    (functionDefinition name).firstMatch script = .error f ↔ f = .noMatch .functionDefinition ∧
      (∀ z t, AssignedBehind name z t → ¬z ++ t <+: script) ∧
        ∀ z t, IsDeclared name t → ¬z ++ t <+: script := by
  constructor
  · intro h
    obtain ⟨z, t, hhead⟩ | hno := isHead_cases name script
    · cases (firstMatch_of_isHead hhead).symm.trans h
    · exact ⟨Except.error.inj (h.symm.trans (firstMatch_of_no_head hno.1 hno.2)), hno⟩
  · intro h
    obtain ⟨rfl, hassigned, hdeclared⟩ := h
    exact firstMatch_of_no_head hassigned hdeclared

theorem IsHead.endsWithBrace (h : IsHead name w z t) : EndsWithBrace (name.count '\x7b') t := by
  obtain h | ⟨-, h⟩ := h
  · exact endsWithBrace_of_isAssigned h.kind.2
  · exact endsWithBrace_of_isDeclared h.kind

theorem IsHead.begins (h : IsHead name w z t) : z ++ t <+: w := by
  obtain h | ⟨-, h⟩ := h
  · exact h.begins
  · exact h.begins

def placed (z a x : Text) : Definition :=
  ⟨⟨a ++ Literal.Context.brace.enclose x,
      ⟨z.byteLength, Text.byteLength (z ++ (a ++ Literal.Context.brace.enclose x))⟩⟩,
    ⟨Literal.Context.brace.enclose x, ⟨Text.byteLength (z ++ a),
      Text.byteLength (z ++ (a ++ Literal.Context.brace.enclose x))⟩⟩⟩

theorem lastOffset_head (z a : Text) :
    lastOffset ⟨z.byteLength, z.byteLength + Text.byteLength (a ++ ['\x7b'])⟩ =
      .ok (Text.byteLength (z ++ a)) := by
  have hbrace : Text.byteLength ['\x7b'] = 1 := rfl
  rw [Text.byteLength_append, Text.byteLength_append, hbrace, ← Nat.add_assoc]
  rfl

theorem find_of_isHead {a x : Text} (hr : finder .function name = .ok (functionDefinition name))
    (hx : Literal.Items .brace x)
    (hscript : script = z ++ (a ++ (Literal.Context.brace.enclose x ++ v)))
    (h : IsHead name script z (a ++ ['\x7b'])) : find script name = .ok (placed z a x) := by
  have hbody : script = z ++ a ++ (Literal.Context.brace.enclose x ++ v) := by
    rw [hscript, List.append_assoc]
  have hliteral : Literal.IsLiteral (Literal.Context.brace.enclose x) := ⟨_, x, .inl rfl, hx, rfl⟩
  have hbegins : Literal.BeginsWith script (Text.byteLength (z ++ a)) (Literal.Context.brace.enclose x) :=
    ⟨v, hbody ▸ Text.dropBytes?_append (z ++ a) _⟩
  have hspan := Literal.span_of_beginsWith hbegins hliteral
  have hcover := Literal.covered_append (z ++ a) (Literal.Context.brace.enclose x) v
  have hwhole := Literal.covered_append z (a ++ Literal.Context.brace.enclose x) v
  rw [← hbody, List.append_assoc] at hcover
  rw [List.append_assoc a, ← hscript] at hwhole
  rw [← Text.byteLength_append, List.append_assoc] at hspan
  rw [find, hr, Outcome.ok_bind, firstMatch_of_isHead h, Outcome.ok_bind, lastOffset_head, Outcome.ok_bind, hspan,
    Outcome.ok_bind, hwhole, Outcome.ok_bind, hcover]
  rfl

theorem exists_of_find {d : Definition} (h : find script name = .ok d) :
    finder .function name = .ok (functionDefinition name) ∧ ∃ z a x v,
      script = z ++ (a ++ (Literal.Context.brace.enclose x ++ v)) ∧
        IsHead name script z (a ++ ['\x7b']) ∧ Literal.Items .brace x ∧ d = placed z a x := by
  obtain ⟨hfinder, hfound⟩ := bind_finder_eq_ok.1 h
  obtain ⟨m, hm, hbody⟩ := Outcome.bind_eq_ok.1 hfound
  obtain ⟨z, hspan, hhead⟩ := firstMatch_eq_ok_iff.1 hm
  obtain ⟨a, ha⟩ := hhead.endsWithBrace.last
  obtain ⟨r, hr⟩ := hhead.begins
  rw [ha] at hspan hhead hr
  rw [hspan, lastOffset_head, Outcome.ok_bind] at hbody
  obtain ⟨s, hs, -⟩ := Outcome.bind_eq_ok.1 hbody
  obtain ⟨l, ⟨v, hv⟩, ⟨k, x, hk, hx, rfl⟩, -⟩ := Literal.exists_of_span hs
  have hdrop : script.dropBytes? (Text.byteLength (z ++ a)) = some ('\x7b' :: r) := by
    have hr' : z ++ a ++ ('\x7b' :: r) = script := by
      rw [← hr]
      simp
    rw [← hr']
    exact Text.dropBytes?_append _ _
  rw [Literal.Context.enclose_append, hdrop] at hv
  obtain ⟨ho, rfl⟩ := List.cons.inj (Option.some.inj hv)
  obtain rfl : k = .brace := by
    obtain rfl | rfl := hk
    · rfl
    · exact absurd ho (by decide)
  have hscript : script = z ++ (a ++ (Literal.Context.brace.enclose x ++ v)) := by
    rw [← hr, Literal.Context.enclose_append]
    simp
    rfl
  exact ⟨hfinder, z, a, x, v, hscript, hhead, hx,
    Except.ok.inj (h.symm.trans (find_of_isHead hfinder hx hscript hhead))⟩

end Unscramble.Definition
