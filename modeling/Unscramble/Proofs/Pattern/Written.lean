import Unscramble.Pattern.Finder
import Unscramble.Proofs.Outcome
import Unscramble.Proofs.Pattern.Catalogue
import Unscramble.Proofs.Pattern.Set
import Unscramble.Proofs.Regex.Alike
import Unscramble.Proofs.Regex.Element
import Unscramble.Proofs.Text.Ranges

/-! Pattern sets from what is written for them. Whatever name is put in, with a backslash in front of
each character that means something in expressions, the set can be read, has its group and finds what
the catalogue finds. -/
namespace Unscramble
open Regex

namespace Regex.Element
open Written (reserved)
variable {e : Element} {es : List Element} {ms ns : List Text} {n : Nat} {r : Regex} {rs : List Regex}

/-- The element is read as something that is searched for like `r`. Its groups have the names `ns`,
and it is nested at most `n` deep. -/
structure Writes (e : Element) (ns : List Text) (n : Nat) (r : Regex) : Prop where
  read : e.IsRead
  depth : e.piece.depth ≤ n
  names : e.piece.names = ns
  groups : e.piece.parts.flatMap groupNames = ns
  alike : Alike (sequence e.piece.parts) r

def partsOf (es : List Element) : List Regex := es.flatMap (·.piece.parts)

theorem parts_sequenceOf (es : List Element) : (sequenceOf es).parts = partsOf es := by
  rw [sequenceOf, Piece.parts_sequence, List.flatMap_map]
  rfl

/-- The elements are read as something that is searched for like the sequence of `rs`. -/
structure WritesAll (es : List Element) (ns : List Text) (n : Nat) (rs : List Regex) : Prop where
  read : ∀ e ∈ es, e.IsRead
  depth : ∀ e ∈ es, e.piece.depth ≤ n
  names : es.flatMap (·.piece.names) = ns
  groups : (partsOf es).flatMap groupNames = ns
  alike : Alike (sequence (partsOf es)) (sequence rs)

theorem WritesAll.nil (n : Nat) : WritesAll [] [] n [] where
  read := nofun
  depth := nofun
  names := rfl
  groups := rfl
  alike := .refl _

theorem WritesAll.cons (he : Writes e ms n r) (hes : WritesAll es ns n rs) :
    WritesAll (e :: es) (ms ++ ns) n (r :: rs) where
  read := List.forall_mem_cons.2 ⟨he.read, hes.read⟩
  depth := List.forall_mem_cons.2 ⟨he.depth, hes.depth⟩
  names := by rw [List.flatMap_cons, he.names, hes.names]
  groups := by rw [partsOf, List.flatMap_cons, List.flatMap_append, he.groups, ← hes.groups, partsOf]
  alike := by
    rw [partsOf, List.flatMap_cons]
    exact (Alike.flatten _ _).trans ((he.alike.seq hes.alike).trans (Alike.sequence_cons r rs).symm)

def quotedChar (c : Char) : Element := ⟨if c ∈ reserved then ['\\', c] else [c], .ofChar c⟩

theorem isAtom_quotedChar (c : Char) : (quotedChar c).IsAtom := by
  rw [quotedChar]
  split
  next hc =>
    have hescape : reserved.all (fun c => Escape.class? c = none ∧ Escape.digitCount? c = none ∧
        c ≠ 'b' ∧ Escape.look? c = none ∧ Escape.char? c = some c) = true := by decide
    obtain ⟨hclass, hdigits, hb, hlook, hchar⟩ := of_decide_eq_true (List.all_eq_true.1 hescape c hc)
    refine isAtom_escape (t := [c]) (x := .char c) fun rest => ?_
    rw [List.singleton_append, Escape.read?, hclass, hdigits]
    simp only [if_neg hb]
    rw [hlook, hchar]
    rfl
  next hc =>
    have hmarks : marks ⊆ reserved := by decide
    exact isAtom_char fun hm => hc (hmarks hm)

def quoted (x : Text) : List Element := x.map quotedChar

theorem isRead_quoted (x : Text) : ∀ e ∈ quoted x, e.IsRead :=
  List.forall_mem_map.2 fun c _ => (isAtom_quotedChar c).isRead

theorem writes_quotedChar (c : Char) (n : Nat) : Writes (quotedChar c) [] n (.char (.single c)) where
  read := (isAtom_quotedChar c).isRead
  depth := Nat.zero_le n
  names := rfl
  groups := rfl
  alike := .refl _

theorem WritesAll.literal (x : Text) (h : WritesAll es ns n rs) :
    WritesAll (quoted x ++ es) ns n (Regex.literal x :: rs) := by
  have hchars : WritesAll (quoted x ++ es) ns n (x.map (fun c => .char (.single c)) ++ rs) := by
    induction x with
    | nil => exact h
    | cons c x ih => exact ih.cons (writes_quotedChar c n)
  exact { hchars with alike := hchars.alike.trans (.nest (.refl _) _) }

theorem WritesAll.inGroup {name : Text}
    (hname : ∀ rest, groupName? (name ++ '>' :: rest) = some (name, rest)) (h : WritesAll es [] n rs) :
    Writes (named name es) [name] (n + 2) (Regex.named name (sequence rs)) where
  read := (isAtom_named hname h.read).isRead
  depth := by
    have hle := Piece.depth_sequence (List.forall_mem_map.2 h.depth)
    have hdepth : (named name es).piece.depth = (sequenceOf es).depth + 1 := rfl
    rw [hdepth, sequenceOf]
    omega
  names := by
    have hnames : (named name es).piece.names = name :: (sequenceOf es).names := rfl
    rw [hnames, sequenceOf, Piece.names_sequence, List.flatMap_map, h.names]
  groups := by
    have hparts : (named name es).piece.parts = [Regex.named name (sequence (sequenceOf es).parts)] := rfl
    rw [hparts, parts_sequenceOf, List.flatMap_singleton, Regex.named, groupNames, groupNames_sequence,
      h.groups]
  alike := by
    have hparts : (named name es).piece.parts = [Regex.named name (sequence (sequenceOf es).parts)] := rfl
    rw [hparts, parts_sequenceOf]
    exact h.alike.group _

theorem WritesAll.expression? (h : WritesAll es ns n rs) (hn : n < maxDepth) (hns : ns.Nodup) :
    expression? (textOf es) = some (sequence (partsOf es)) := by
  have hdepth : (sequenceOf es).depth ≤ maxDepth := by
    have hle := Piece.depth_sequence (List.forall_mem_map.2 h.depth)
    rw [sequenceOf]
    omega
  have hnames : (sequenceOf es).names.Nodup := by
    rwa [sequenceOf, Piece.names_sequence, List.flatMap_map, h.names]
  rw [Regex.expression?, piece?_textOf h.read, Option.bind_some, Piece.regex?, parts_sequenceOf]
  simp only [hdepth, hnames, decide_true, Bool.and_self, if_true]

end Regex.Element

namespace Catalogue
open Element
variable {ns : List Text} {es : List Element} {rs : List Regex}

def blankElement : Element := ⟨"\\s".toList, .ofEscape (.oneOf Text.blankSet)⟩

theorem isAtom_blankElement : blankElement.IsAtom := isAtom_escape fun _ => rfl

theorem contains_blankSet : (CharClass.ofRanges Text.blankSet).contains = CharClass.blank.contains := by
  funext c
  rw [Bool.eq_iff_iff, CharClass.contains_ofRanges (by decide) (by decide) (by decide)]
  simp only [CharClass.contains, Text.isBlank, Text.blankSet, List.any_cons, List.any_nil,
    Bool.or_eq_true, Bool.and_eq_true, decide_eq_true_eq, beq_iff_eq, Bool.false_eq_true, or_false]
  omega

def gapElement : Element := blankElement.signed '*' ⟨0, none⟩

theorem writes_gap (n : Nat) : Writes gapElement [] (n + 1) gap where
  read := isAtom_blankElement.signed fun _ => rfl
  depth := Nat.le_add_left 1 n
  names := rfl
  groups := rfl
  alike := .repeated true ⟨0, none⟩ contains_blankSet

def blanksElement : Element := blankElement.signed '+' ⟨1, none⟩

theorem writes_blanks (n : Nat) : Writes blanksElement [] (n + 1) blanks where
  read := isAtom_blankElement.signed fun _ => rfl
  depth := Nat.le_add_left 1 n
  names := rfl
  groups := rfl
  alike := .repeated true ⟨1, none⟩ contains_blankSet

def nameRanges : List (Char × Char) := [('a', 'z'), ('A', 'Z'), ('0', '9'), ('$', '$'), ('_', '_')]

theorem isPlain_nameRanges : ∀ r ∈ nameRanges, Bracket.IsPlain r := by decide

theorem chars_nameRanges : (Bracket.ofRanges false nameRanges).chars =
    [(36, 36), (48, 57), (65, 90), (95, 95), (97, 122)] :=
  Text.Ranges.normal_eq [(36, 36), (48, 57), (65, 90), (95, 95), (97, 122)] (by decide) (by decide)

theorem contains_nameRanges :
    (CharClass.ofRanges (Bracket.ofRanges false nameRanges).chars).contains = nameChar.contains := by
  funext c
  rw [chars_nameRanges, Bool.eq_iff_iff, nameChar_iff, CharClass.contains_ofRanges (by decide) (by decide) (by decide)]
  simp only [List.any_cons, List.any_nil, Bool.or_eq_true, Bool.and_eq_true, decide_eq_true_eq,
    Bool.false_eq_true, or_false]
  omega

def identifierElement : Element := (bracket false nameRanges).signed '+' ⟨1, none⟩

theorem writes_identifier (n : Nat) : Writes identifierElement [] (n + 3) identifier where
  read := (isAtom_bracket false isPlain_nameRanges nofun).signed fun _ => rfl
  depth := Nat.le_add_left 3 n
  names := rfl
  groups := rfl
  alike := .repeated true ⟨1, none⟩ contains_nameRanges

def startElement : Element := ⟨['^'], .one (look .textStart)⟩

theorem isAtom_startElement : startElement.IsAtom :=
  ⟨'^', [], rfl, by decide, by decide, fun _ _ _ => by rw [readAtom.eq_def]; rfl⟩

def ownerRanges : List (Char × Char) := nameRanges ++ [('.', '.')]

theorem isPlain_ownerRanges : ∀ r ∈ ownerRanges, Bracket.IsPlain r := by decide

theorem chars_ownerRanges : (Bracket.ofRanges true ownerRanges).chars =
    [(0, 35), (37, 45), (47, 47), (58, 64), (91, 94), (96, 96), (123, 1114111)] :=
  congrArg Text.Ranges.complement (Text.Ranges.normal_eq
    [(36, 36), (46, 46), (48, 57), (65, 90), (95, 95), (97, 122)] (by decide) (by decide))

theorem contains_ownerRanges : (CharClass.ofRanges (Bracket.ofRanges true ownerRanges).chars).contains =
    (CharClass.except ownerChar).contains := by
  funext c
  have howner : ownerChar.contains c = (nameChar.contains c || (CharClass.single '.').contains c) := by
    simp only [ownerChar, nameChar, CharClass.union, CharClass.contains, Bool.or_assoc]
  have hdot : (CharClass.single '.').contains c = true ↔ c.toNat = 46 := by
    rw [CharClass.single, contains_range, ← Nat.le_antisymm_iff, eq_comm]
    rfl
  have hvalid : c.toNat < 0xD800 ∨ 0xDFFF < c.toNat ∧ c.toNat < 0x110000 := c.valid
  rw [chars_ownerRanges, Bool.eq_iff_iff, CharClass.contains_ofRanges (by decide) (by decide) (by decide),
    CharClass.contains, howner, Bool.not_eq_true', Bool.or_eq_false_iff, Bool.eq_false_iff,
    Bool.eq_false_iff, ne_eq, ne_eq, nameChar_iff, hdot]
  simp only [List.any_cons, List.any_nil, Bool.or_eq_true, Bool.and_eq_true, decide_eq_true_eq,
    Bool.false_eq_true, or_false]
  omega

def ownElement : Element := oneOf [[startElement], [bracket true ownerRanges]]

theorem writes_ownName (n : Nat) : Writes ownElement [] (n + 4) ownName where
  read := by
    refine (isAtom_oneOf (List.cons_ne_nil _ _) ?_).isRead
    simp only [List.forall_mem_cons, List.not_mem_nil, false_imp_iff, implies_true, and_true]
    exact ⟨isAtom_startElement.isRead, (isAtom_bracket true isPlain_ownerRanges nofun).isRead⟩
  depth := Nat.le_add_left 4 n
  names := rfl
  groups := rfl
  alike := (Alike.refl _).alt (.char contains_ownerRanges)

def binderElement : Element := oneOf [quoted "var".toList, quoted "let".toList, quoted "const".toList]

theorem writes_binder (n : Nat) :
    Writes binderElement [] (n + 3) (alt (text "var") (alt (text "let") (text "const"))) where
  read := by
    refine (isAtom_oneOf (List.cons_ne_nil _ _) ?_).isRead
    simp only [List.forall_mem_cons, List.not_mem_nil, false_imp_iff, implies_true, and_true]
    exact ⟨isRead_quoted _, isRead_quoted _, isRead_quoted _⟩
  depth := Nat.le_add_left 3 n
  names := rfl
  groups := rfl
  alike := .refl _

def separatorRanges : List (Char × Char) := [(';', ';'), (',', ',')]

theorem isPlain_separatorRanges : ∀ r ∈ separatorRanges, Bracket.IsPlain r := by decide

theorem chars_separatorRanges : (Bracket.ofRanges false separatorRanges).chars = [(44, 44), (59, 59)] :=
  Text.Ranges.normal_eq [(44, 44), (59, 59)] (by decide) (by decide)

theorem contains_separatorRanges :
    (CharClass.ofRanges (Bracket.ofRanges false separatorRanges).chars).contains =
      (CharClass.oneOf ';' [',']).contains := by
  funext c
  have hor : (CharClass.oneOf ';' [',']).contains c =
      ((CharClass.single ';').contains c || (CharClass.single ',').contains c) := rfl
  have hsemicolon : ';'.toNat = 59 := rfl
  have hcomma : ','.toNat = 44 := rfl
  rw [chars_separatorRanges, Bool.eq_iff_iff, hor, Bool.or_eq_true, CharClass.single, CharClass.single,
    CharClass.contains_ofRanges (by decide) (by decide) (by decide), contains_range, contains_range]
  simp only [List.any_cons, List.any_nil, Bool.or_eq_true, Bool.and_eq_true, decide_eq_true_eq,
    Bool.false_eq_true, or_false, hsemicolon, hcomma]
  omega

def separatorElement : Element := bracket false separatorRanges

theorem writes_separator (n : Nat) : Writes separatorElement [] (n + 2) (oneChar ';' [',']) where
  read := (isAtom_bracket false isPlain_separatorRanges nofun).isRead
  depth := Nat.le_add_left 2 n
  names := rfl
  groups := rfl
  alike := .char contains_separatorRanges

end Catalogue

namespace PatternSet
variable {s s' : PatternSet}

/-- The same is looked for in the same way. -/
structure IsLike (s s' : PatternSet) : Prop where
  target : s.target = s'.target
  group : s.group = s'.group
  patterns : List.Forall₂ Alike s.patterns s'.patterns

theorem firstIn_congr {rs rs' : List Regex} (h : List.Forall₂ Alike rs rs') (group t : Text) :
    firstIn group t rs = firstIn group t rs' := by
  induction h with
  | nil => rfl
  | cons hr _ ih => rw [firstIn, firstIn, hr.search?_eq, ih]

theorem IsLike.firstMatch_eq (h : s.IsLike s') (t : Text) : s.firstMatch t = s'.firstMatch t := by
  rw [firstMatch, firstMatch, first, first, h.target, h.group, firstIn_congr h.patterns]

end PatternSet

namespace Written
variable {w : Written} {source : Text} {r : Regex}

def expression (w : Written) (source : Text) : Except Failure Regex :=
  (expression? source).elim (.error .badPattern) fun r =>
    if r.groupNames.contains w.group then .ok r
    else .error (.invalidPattern w.target w.group source)

def compile (w : Written) : Except Failure PatternSet :=
  (w.sources.mapM w.expression).map (⟨w.target, w.group, ·⟩)

theorem readPattern_eq (h : w.expression source = .ok r) :
    PatternSet.readPattern w.target w.group source =
      if r.fits then .ok r else .error .badPattern := by
  rw [expression] at h
  rw [PatternSet.readPattern, read?_eq_filter]
  cases he : expression? source with
  | none => simp [he] at h
  | some r' =>
    rw [he, Option.elim_some] at h
    split at h
    next hgroup =>
      obtain rfl := Except.ok.inj h
      rw [Option.filter_some]
      cases r'.fits with
      | false => rfl
      | true => exact if_pos (List.contains_iff_mem.1 hgroup)
    · cases h

theorem mapM_readPattern {sources : List Text} {rs : List Regex}
    (h : List.Forall₂ (fun source r => w.expression source = .ok r) sources rs) :
    sources.mapM (PatternSet.readPattern w.target w.group) =
      if rs.all fits then .ok rs else .error .badPattern := by
  induction h with
  | nil => rfl
  | @cons source r sources rs he _ ih =>
    rw [List.mapM_cons, readPattern_eq he, ih, List.all_cons]
    cases r.fits with
    | false => rfl
    | true =>
      cases rs.all fits with
      | false => rfl
      | true => rfl

/-- Where there is room for all of them, the expressions are read as they are with any room. Else
none is. -/
theorem ofSources_eq {s : PatternSet} (h : w.compile = .ok s) :
    PatternSet.ofSources w.target w.group w.sources =
      if s.patterns.all fits then .ok s else .error .badPattern := by
  rw [compile] at h
  cases hrs : w.sources.mapM w.expression with
  | error f => simp [hrs] at h
  | ok rs =>
    rw [hrs, Outcome.map_ok] at h
    obtain rfl := Except.ok.inj h
    rw [PatternSet.ofSources, mapM_readPattern (Outcome.mapM_eq_ok.1 hrs)]
    cases rs.all fits with
    | false => rfl
    | true => rfl

theorem ofSources_of_compile {s : PatternSet} (h : w.compile = .ok s)
    (hr : ∀ r ∈ s.patterns, r.fits = true) :
    PatternSet.ofSources w.target w.group w.sources = .ok s := by
  rw [ofSources_eq h, if_pos (List.all_eq_true.2 hr)]

open Element Catalogue

/-- The elements write an expression of the group that is searched for like `r`. -/
def WritesPattern (group : Text) (es : List Element) (r : Regex) : Prop :=
  ∃ n rs, n < maxDepth ∧ sequence rs = r ∧ WritesAll es [group] n rs

theorem expression_of_writes {es : List Element} (h : WritesPattern w.group es r) :
    w.expression (textOf es) = .ok (sequence (partsOf es)) ∧ Alike (sequence (partsOf es)) r := by
  obtain ⟨n, rs, hn, rfl, hes⟩ := h
  have hgroup : w.group ∈ (sequence (partsOf es)).groupNames := by
    rw [groupNames_sequence, hes.groups]
    exact .head _
  refine ⟨?_, hes.alike⟩
  rw [expression, hes.expression? hn (List.nodup_cons.2 ⟨nofun, .nil⟩)]
  exact if_pos (List.contains_iff_mem.2 hgroup)

def setOf (w : Written) (ess : List (List Element)) : PatternSet :=
  ⟨w.target, w.group, ess.map fun es => sequence (partsOf es)⟩

theorem compile_eq {ess : List (List Element)} {rs : List Regex}
    (hsources : w.sources = ess.map textOf) (h : List.Forall₂ (WritesPattern w.group) ess rs) :
    w.compile = .ok (w.setOf ess) := by
  have hread : w.sources.mapM w.expression = .ok (ess.map fun es => sequence (partsOf es)) := by
    rw [hsources, Outcome.mapM_eq_ok, List.forall₂_map_left_iff, List.forall₂_map_right_iff]
    clear hsources
    induction h with
    | nil => exact .nil
    | cons hr _ ih => exact .cons (expression_of_writes hr).1 ih
  rw [compile, hread]
  rfl

/-- With any room the set is read as `s'`. So it is where there is room for its expressions. -/
def CompilesTo (w : Written) (s' : PatternSet) : Prop :=
  w.compile = .ok s' ∧
    ((∀ r ∈ s'.patterns, r.fits = true) → PatternSet.ofSources w.target w.group w.sources = .ok s')

theorem compilesTo {s' : PatternSet} (h : w.compile = .ok s') : w.CompilesTo s' :=
  ⟨h, ofSources_of_compile h⟩

def IsReadAs (w : Written) (s : PatternSet) : Prop :=
  ∃ s', w.CompilesTo s' ∧ ∀ t, s'.firstMatch t = s.firstMatch t

theorem isLike_setOf {ess : List (List Element)} {s : PatternSet} (ht : w.target = s.target)
    (hg : w.group = s.group) (h : List.Forall₂ (WritesPattern w.group) ess s.patterns) :
    (w.setOf ess).IsLike s :=
  ⟨ht, hg, List.forall₂_map_left_iff.2 (h.imp fun _ _ hr => (expression_of_writes hr).2)⟩

theorem isReadAs_of_writes {ess : List (List Element)} {s : PatternSet} (ht : w.target = s.target)
    (hg : w.group = s.group) (hsources : w.sources = ess.map textOf)
    (h : List.Forall₂ (WritesPattern w.group) ess s.patterns) : w.IsReadAs s :=
  ⟨w.setOf ess, compilesTo (compile_eq hsources h), (isLike_setOf ht hg h).firstMatch_eq⟩

theorem textOf_quoted (x : Text) : textOf (quoted x) = escape x := List.flatMap_map ..

def parameterElements : List Element :=
  gapElement :: (quoted "(".toList ++ gapElement :: identifierElement :: gapElement ::
    (quoted ")".toList ++ gapElement :: (quoted "\x7b".toList ++ [])))

def parameterParts : List Regex :=
  [gap, text "(", gap, identifier, gap, text ")", gap, text "\x7b"]

theorem writes_parameters (n : Nat) : WritesAll parameterElements [] (n + 3) parameterParts :=
  .cons (writes_gap _) (.literal _ (.cons (writes_gap _) (.cons (writes_identifier _)
    (.cons (writes_gap _) (.literal _ (.cons (writes_gap _) (.literal _ (.nil _))))))))

def valueElements (opener : Text) : List Element :=
  gapElement :: (quoted "=".toList ++ [gapElement, named openGroup (quoted opener)])

def valueParts (opener : Text) : List Regex :=
  [gap, text "=", gap, Regex.named openGroup (literal opener)]

theorem writes_value (opener : Text) (n : Nat) :
    WritesAll (valueElements opener) [openGroup] (n + 2) (valueParts opener) := by
  have hopener : WritesAll (quoted opener) [] n [literal opener] := by
    simpa using WritesAll.literal opener (.nil n)
  exact .cons (writes_gap _) (.literal _ (.cons (writes_gap _)
    (.cons (WritesAll.inGroup (fun _ => rfl) hopener) (.nil _))))

def assignmentElements : List Element :=
  gapElement :: (quoted "=".toList ++ gapElement :: (quoted "function".toList ++ parameterElements))

theorem writes_assignment (n : Nat) : WritesAll assignmentElements [] (n + 3)
    (gap :: text "=" :: gap :: text "function" :: parameterParts) :=
  .cons (writes_gap _) (.literal _ (.cons (writes_gap _) (.literal _ (writes_parameters n))))

def functionDefinitionElements (name : Text) : List (List Element) :=
  [[ownElement, named definitionGroup (quoted name ++ assignmentElements)],
   [named definitionGroup (quoted "function".toList ++ blanksElement :: (quoted name ++ parameterElements))]]

theorem sources_functionDefinition (name : Text) :
    (functionDefinition name).sources = (functionDefinitionElements name).map textOf := by
  have hown : "(?:^|[^a-zA-Z0-9$_.])(?P<def>".toList =
      ownElement.text ++ '(' :: '?' :: 'P' :: '<' :: (definitionGroup ++ ['>']) := by decide +kernel
  have hassignment : "\\s*=\\s*function\\s*\\(\\s*[a-zA-Z0-9$_]+\\s*\\)\\s*\\\x7b)".toList =
      textOf assignmentElements ++ [')'] := by decide +kernel
  have hfunction : "(?P<def>function\\s+".toList = '(' :: '?' :: 'P' :: '<' :: (definitionGroup ++
      '>' :: textOf (quoted "function".toList ++ [blanksElement])) := by decide +kernel
  have hparameters : "\\s*\\(\\s*[a-zA-Z0-9$_]+\\s*\\)\\s*\\\x7b)".toList =
      textOf parameterElements ++ [')'] := by decide +kernel
  rw [functionDefinition, hown, hassignment, hfunction, hparameters]
  simp [functionDefinitionElements, textOf, Element.named, ← textOf_quoted]

theorem writes_functionDefinition (name : Text) : List.Forall₂ (WritesPattern (functionDefinition name).group)
    (functionDefinitionElements name) (Catalogue.functionDefinition name).patterns := by
  have hassigned : WritesPattern definitionGroup
      [ownElement, named definitionGroup (quoted name ++ assignmentElements)]
      (sequence [ownName, Regex.named definitionGroup
        (sequence [literal name, gap, text "=", gap, text "function", parameterAndBrace])]) := by
    refine ⟨5, _, by decide, ?_, .cons (writes_ownName 1)
      (.cons (WritesAll.inGroup (fun _ => rfl) (.literal name (writes_assignment 0))) (.nil _))⟩
    rfl
  have hdeclared : WritesPattern definitionGroup
      [named definitionGroup (quoted "function".toList ++ blanksElement :: (quoted name ++ parameterElements))]
      (Regex.named definitionGroup (sequence [text "function", blanks, literal name, parameterAndBrace])) := by
    refine ⟨5, _, by decide, ?_, .cons (WritesAll.inGroup (fun _ => rfl)
      (.literal _ (.cons (writes_blanks _) (.literal name (writes_parameters 0))))) (.nil _)⟩
    rfl
  exact .cons hassigned (.cons hdeclared .nil)

theorem isReadAs_functionDefinition (name : Text) :
    (functionDefinition name).IsReadAs (Catalogue.functionDefinition name) :=
  isReadAs_of_writes rfl rfl (sources_functionDefinition name) (writes_functionDefinition name)

def objectLiteralElements (name : Text) : List (List Element) :=
  [binderElement :: blanksElement :: (quoted name ++ valueElements "\x7b".toList),
   ownElement :: (quoted name ++ valueElements "\x7b".toList)]

theorem sources_objectLiteral (name : Text) :
    (objectLiteral name).sources = (objectLiteralElements name).map textOf := by
  have hbinder : "(?:var|let|const)\\s+".toList = textOf [binderElement, blanksElement] := by
    decide +kernel
  have hown : "(?:^|[^a-zA-Z0-9$_.])".toList = ownElement.text := by decide +kernel
  have hvalue : "\\s*=\\s*(?P<open>\\\x7b)".toList = textOf (valueElements "\x7b".toList) := by
    decide +kernel
  rw [objectLiteral, hbinder, hown, hvalue]
  simp [objectLiteralElements, textOf, ← textOf_quoted]

theorem writes_objectLiteral (name : Text) : List.Forall₂ (WritesPattern (objectLiteral name).group)
    (objectLiteralElements name) (Catalogue.objectLiteral name).patterns := by
  have hbound : WritesPattern openGroup (binderElement :: blanksElement ::
      (quoted name ++ valueElements "\x7b".toList)) (sequence (alt (text "var") (alt (text "let")
        (text "const")) :: blanks :: literal name :: valueParts "\x7b".toList)) :=
    ⟨5, _, by decide, rfl, .cons (writes_binder 2) (.cons (writes_blanks 4)
      (.literal name (writes_value _ 3)))⟩
  have hassigned : WritesPattern openGroup (ownElement :: (quoted name ++ valueElements "\x7b".toList))
      (sequence (ownName :: literal name :: valueParts "\x7b".toList)) :=
    ⟨5, _, by decide, rfl, .cons (writes_ownName 1) (.literal name (writes_value _ 3))⟩
  exact .cons hbound (.cons hassigned .nil)

theorem isReadAs_objectLiteral (name : Text) :
    (objectLiteral name).IsReadAs (Catalogue.objectLiteral name) :=
  isReadAs_of_writes rfl rfl (sources_objectLiteral name) (writes_objectLiteral name)

def arrayLiteralElements (name : Text) : List (List Element) :=
  [quoted "var".toList ++ blanksElement :: (quoted name ++ valueElements "[".toList),
   separatorElement :: gapElement :: (quoted name ++ valueElements "[".toList)]

theorem sources_arrayLiteral (name : Text) :
    (arrayLiteral name).sources = (arrayLiteralElements name).map textOf := by
  have hvar : "var\\s+".toList = textOf (quoted "var".toList ++ [blanksElement]) := by decide +kernel
  have hseparator : "[;,]\\s*".toList = textOf [separatorElement, gapElement] := by decide +kernel
  have hvalue : "\\s*=\\s*(?P<open>\\[)".toList = textOf (valueElements "[".toList) := by
    decide +kernel
  rw [arrayLiteral, hvar, hseparator, hvalue]
  simp [arrayLiteralElements, textOf, ← textOf_quoted]

theorem writes_arrayLiteral (name : Text) : List.Forall₂ (WritesPattern (arrayLiteral name).group)
    (arrayLiteralElements name) (Catalogue.arrayLiteral name).patterns := by
  have hvar : WritesPattern openGroup (quoted "var".toList ++ blanksElement ::
      (quoted name ++ valueElements "[".toList))
      (sequence (text "var" :: blanks :: literal name :: valueParts "[".toList)) :=
    ⟨5, _, by decide, rfl, .literal _ (.cons (writes_blanks 4) (.literal name (writes_value _ 3)))⟩
  have hlater : WritesPattern openGroup (separatorElement :: gapElement ::
      (quoted name ++ valueElements "[".toList))
      (sequence (oneChar ';' [','] :: gap :: literal name :: valueParts "[".toList)) :=
    ⟨5, _, by decide, rfl, .cons (writes_separator 3) (.cons (writes_gap 4)
      (.literal name (writes_value _ 3)))⟩
  exact .cons hvar (.cons hlater .nil)

theorem isReadAs_arrayLiteral (name : Text) :
    (arrayLiteral name).IsReadAs (Catalogue.arrayLiteral name) :=
  isReadAs_of_writes rfl rfl (sources_arrayLiteral name) (writes_arrayLiteral name)

end Written
end Unscramble
