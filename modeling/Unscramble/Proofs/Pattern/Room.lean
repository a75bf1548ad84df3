import Unscramble.Proofs.Pattern.Written
import Unscramble.Proofs.Regex.Room

/-! The room for the sets that a name is put into. Only a very long name is too long: the sets can be
read up to a length, and cannot above a somewhat greater one. -/
namespace Unscramble.Written
open Regex Element Catalogue
variable {name : Text} {a b n : Nat} {es : List Element} {ess : List (List Element)} {w : Written}
  {s : PatternSet}

theorem hasRoom_blank : HasRoom (.char (.ofRanges Text.blankSet)) 0 2872 := by
  have hroom : classRoom Text.blankSet = 2872 := by decide +kernel
  exact hroom ▸ hasRoom_within Text.blankSet

theorem hasRoom_nameChar :
    HasRoom (.char (.ofRanges (Bracket.ofRanges false nameRanges).chars)) 0 104 := by
  rw [chars_nameRanges]
  exact hasRoom_within _

theorem hasRoom_own : HasRoom
    (.alt (.look .textStart) (.char (.ofRanges (Bracket.ofRanges true ownerRanges).chars))) 0 4284 := by
  have hroom : classRoom [(0, 35), (37, 45), (47, 47), (58, 64), (91, 94), (96, 96), (123, 1114111)] =
      4180 := by decide +kernel
  rw [chars_ownerRanges]
  exact (HasRoom.lookOr .textStart).mono (Nat.le_refl 0) (by omega)

theorem hasRoom_separator :
    HasRoom (.char (.ofRanges (Bracket.ofRanges false separatorRanges).chars)) 0 80 := by
  rw [chars_separatorRanges]
  exact hasRoom_within _

theorem haveRoom_cons {e : Element} {r : Regex} (he : e.piece.parts = [r]) (hr : HasRoom r 0 n)
    (h : HaveRoom (partsOf es) a b) : HaveRoom (partsOf (e :: es)) a (b + n) := by
  rw [partsOf, List.flatMap_cons, he, List.singleton_append]
  exact (HaveRoom.cons hr h).mono (by omega) (by omega)

theorem haveRoom_gap (h : HaveRoom (partsOf es) a b) :
    HaveRoom (partsOf (gapElement :: es)) a (b + 2984) :=
  haveRoom_cons rfl (hasRoom_blank.star true) h

theorem haveRoom_quoted (x : Text) (h : HaveRoom (partsOf es) a b) :
    HaveRoom (partsOf (quoted x ++ es)) (32 * x.byteLength + a) (32 * x.byteLength + b) := by
  have hparts : partsOf (quoted x ++ es) = x.map (fun c => .char (.single c)) ++ partsOf es := by
    rw [partsOf, List.flatMap_append, quoted, List.flatMap_map, List.map_eq_flatMap]
    rfl
  exact hparts ▸ h.literal x

theorem haveRoom_named (group : Text) (h : HaveRoom (partsOf es) a b) :
    HaveRoom (partsOf [named group es]) a (b + 64) := by
  have hparts : partsOf [named group es] = [Regex.named group (sequence (partsOf es))] :=
    congrArg (fun rs => [Regex.named group (sequence rs)]) (parts_sequenceOf es)
  exact hparts ▸ (h.room.group _).one

theorem haveRoom_parameters : HaveRoom (partsOf parameterElements) 0 12176 := by
  have hbrace : HaveRoom (partsOf (quoted "\x7b".toList ++ [])) 32 32 := (hasRoom_single _).one
  have hbehind := haveRoom_gap (haveRoom_quoted ")".toList (haveRoom_gap hbrace))
  have hname := haveRoom_cons (e := identifierElement) rfl (hasRoom_nameChar.plus true) hbehind
  exact (haveRoom_gap (haveRoom_quoted "(".toList (haveRoom_gap hname))).mono (Nat.zero_le _) (by decide)

theorem haveRoom_assignment : HaveRoom (partsOf assignmentElements) 0 18432 :=
  (haveRoom_gap (haveRoom_quoted _ (haveRoom_gap (haveRoom_quoted _ haveRoom_parameters)))).mono
    (Nat.zero_le _) (by decide)

theorem hasRoom_binder : HasRoom (.alt (literal "var".toList) (.alt (literal "let".toList)
    (literal "const".toList))) 0 668 := by
  have hwords : (Regex.alt (literal "var".toList) (.alt (literal "let".toList)
      (literal "const".toList))).alternatives.mapM literal? =
        some ["var".toList, "let".toList, "const".toList] := by decide
  refine hasRoom_words hwords fun d => ?_
  cases d with
  | forwards => decide
  | backwards => decide

theorem haveRoom_value (c : Char) : HaveRoom (partsOf (valueElements [c])) 0 6192 := by
  have hopener : HaveRoom (partsOf (quoted [c])) 0 128 :=
    (hasRoom_single c).one.mono (Nat.zero_le _) (Nat.mul_le_mul_left 32 c.utf8Size_le_four)
  exact (haveRoom_gap (haveRoom_quoted _ (haveRoom_gap (haveRoom_named openGroup hopener)))).mono
    (Nat.zero_le _) (by decide)

/-- Every expression of the set has the name in it, which takes 32 octets for each of its own; what is
around it takes no more than a name of 712. -/
structure IsNamed (name : Text) (w : Written) (ess : List (List Element)) : Prop where
  compiles : w.compile = .ok (w.setOf ess)
  ne_nil : ess ≠ []
  hasRoom : ∀ es ∈ ess,
    HasRoom (sequence (partsOf es)) (32 * name.byteLength) (32 * name.byteLength + 22780)

theorem isNamed_functionDefinition (name : Text) :
    IsNamed name (functionDefinition name) (functionDefinitionElements name) := by
  refine ⟨compile_eq (sources_functionDefinition name) (writes_functionDefinition name),
    List.cons_ne_nil _ _, ?_⟩
  rw [functionDefinitionElements, List.forall_mem_cons, List.forall_mem_singleton]
  constructor
  · have h := haveRoom_cons (e := ownElement) rfl hasRoom_own
      (haveRoom_named definitionGroup (haveRoom_quoted name haveRoom_assignment))
    exact (h.mono (by omega) (by omega)).room
  · have h := haveRoom_named definitionGroup (haveRoom_quoted "function".toList
      (haveRoom_cons (e := blanksElement) rfl (hasRoom_blank.plus true)
        (haveRoom_quoted name haveRoom_parameters)))
    have hfunction : Text.byteLength "function".toList = 8 := by decide
    exact (h.mono (by omega) (by omega)).room

theorem isNamed_objectLiteral (name : Text) :
    IsNamed name (objectLiteral name) (objectLiteralElements name) := by
  refine ⟨compile_eq (sources_objectLiteral name) (writes_objectLiteral name), List.cons_ne_nil _ _, ?_⟩
  have hvalue := haveRoom_quoted name (haveRoom_value '\x7b')
  rw [objectLiteralElements, List.forall_mem_cons, List.forall_mem_singleton]
  constructor
  · have h := haveRoom_cons (e := binderElement) rfl hasRoom_binder
      (haveRoom_cons (e := blanksElement) rfl (hasRoom_blank.plus true) hvalue)
    exact (h.mono (by omega) (by omega)).room
  · have h := haveRoom_cons (e := ownElement) rfl hasRoom_own hvalue
    exact (h.mono (by omega) (by omega)).room

theorem isNamed_arrayLiteral (name : Text) :
    IsNamed name (arrayLiteral name) (arrayLiteralElements name) := by
  refine ⟨compile_eq (sources_arrayLiteral name) (writes_arrayLiteral name), List.cons_ne_nil _ _, ?_⟩
  have hvalue := haveRoom_quoted name (haveRoom_value '[')
  rw [arrayLiteralElements, List.forall_mem_cons, List.forall_mem_singleton]
  constructor
  · have h := haveRoom_quoted "var".toList
      (haveRoom_cons (e := blanksElement) rfl (hasRoom_blank.plus true) hvalue)
    have hvar : Text.byteLength "var".toList = 3 := by decide
    exact (h.mono (by omega) (by omega)).room
  · have h := haveRoom_cons (e := separatorElement) rfl hasRoom_separator (haveRoom_gap hvalue)
    exact (h.mono (by omega) (by omega)).room

namespace IsNamed

theorem ofSources_eq (h : IsNamed name w ess) : PatternSet.ofSources w.target w.group w.sources =
    if (w.setOf ess).patterns.all fits then .ok (w.setOf ess) else .error .badPattern :=
  Written.ofSources_eq h.compiles

theorem ofSources_cases (h : IsNamed name w ess) :
    PatternSet.ofSources w.target w.group w.sources = .ok (w.setOf ess) ∨
      PatternSet.ofSources w.target w.group w.sources = .error .badPattern := by
  rw [h.ofSources_eq]
  split
  · exact .inl rfl
  · exact .inr rfl

theorem forall_fits (h : IsNamed name w ess) (hn : name.byteLength ≤ roomyLength) :
    ∀ r ∈ (w.setOf ess).patterns, r.fits = true := by
  have hroom : 32 * name.byteLength + 22780 + 208 ≤ Layout.room := by
    rw [roomyLength] at hn
    rw [Layout.room]
    omega
  exact List.forall_mem_map.2 fun es hes => (h.hasRoom es hes).fits hroom

theorem ofSources_of_le (h : IsNamed name w ess) (hn : name.byteLength ≤ roomyLength) :
    PatternSet.ofSources w.target w.group w.sources = .ok (w.setOf ess) :=
  ofSources_of_compile h.compiles (h.forall_fits hn)

theorem ofSources_of_lt (h : IsNamed name w ess) (hn : 327680 < name.byteLength) :
    PatternSet.ofSources w.target w.group w.sources = .error .badPattern := by
  have hroom : Layout.room < 32 * name.byteLength := by
    rw [Layout.room]
    omega
  obtain ⟨es, hes⟩ := List.exists_mem_of_ne_nil ess h.ne_nil
  have hfits : (w.setOf ess).patterns.all fits = false :=
    List.all_eq_false.2 ⟨_, List.mem_map_of_mem hes, by rw [(h.hasRoom es hes).not_fits hroom]; decide⟩
  rw [h.ofSources_eq, hfits]
  rfl

end IsNamed
end Unscramble.Written

namespace Unscramble.Catalogue
open Written
variable {name : Text}

def Kind.elements : Kind → Text → List (List Regex.Element)
  | function => functionDefinitionElements
  | object => objectLiteralElements
  | array => arrayLiteralElements

theorem Kind.isNamed (k : Kind) (name : Text) : IsNamed name (k.written name) (k.elements name) := by
  cases k with
  | function => exact isNamed_functionDefinition name
  | object => exact isNamed_objectLiteral name
  | array => exact isNamed_arrayLiteral name

/-- The length is looked at first only because the set can then be read. -/
theorem finder_eq (k : Kind) (name : Text) : finder k name =
    (PatternSet.ofSources (k.written name).target (k.written name).group (k.written name).sources).map
      fun _ => k.set name := by
  rw [finder]
  split
  next h => rw [(k.isNamed name).ofSources_of_le h, Outcome.map_ok]
  next => rfl

theorem Kind.isReadAs (k : Kind) (name : Text) : (k.written name).IsReadAs (k.set name) := by
  cases k with
  | function => exact isReadAs_functionDefinition name
  | object => exact isReadAs_objectLiteral name
  | array => exact isReadAs_arrayLiteral name

theorem finder_firstMatch (k : Kind) (name script : Text) :
    (finder k name >>= fun s => s.firstMatch script) =
      PatternSet.ofSources (k.written name).target (k.written name).group (k.written name).sources >>=
        fun s => s.firstMatch script := by
  obtain ⟨s, ⟨hs, -⟩, hfinds⟩ := k.isReadAs name
  obtain rfl := Except.ok.inj ((k.isNamed name).compiles.symm.trans hs)
  rw [finder_eq]
  obtain hread | hread := (k.isNamed name).ofSources_cases
  · rw [hread, Outcome.map_ok, Outcome.ok_bind, Outcome.ok_bind, hfinds]
  · rw [hread, Outcome.map_error, Outcome.error_bind]

theorem finder_of_le (k : Kind) (h : name.byteLength ≤ roomyLength) :
    finder k name = .ok (k.set name) := if_pos h

theorem finder_of_lt (k : Kind) (h : 327680 < name.byteLength) :
    finder k name = .error .badPattern := by
  rw [finder_eq, (k.isNamed name).ofSources_of_lt h, Outcome.map_error]

theorem finder_cases (k : Kind) (name : Text) :
    finder k name = .ok (k.set name) ∨ finder k name = .error .badPattern := by
  rw [finder_eq]
  obtain hs | hs := (k.isNamed name).ofSources_cases
  · rw [hs]
    exact .inl rfl
  · rw [hs]
    exact .inr rfl

theorem bind_finder_eq_ok {α : Type} {k : Kind} {f : PatternSet → Except Failure α} {a : α} :
    finder k name >>= f = .ok a ↔ finder k name = .ok (k.set name) ∧ f (k.set name) = .ok a := by
  obtain h | h := finder_cases k name
  · simp [h]
  · simp [h]

def finders (xs : List (Kind × Text)) : Except Failure (List PatternSet) :=
  xs.mapM fun x => finder x.1 x.2

def haveFinders (xs : List (Kind × Text)) : Bool := xs.all fun x => (finder x.1 x.2).isOk

theorem haveFinders_cons (x : Kind × Text) (xs : List (Kind × Text)) :
    haveFinders (x :: xs) = ((finder x.1 x.2).isOk && haveFinders xs) := rfl

theorem finders_eq (xs : List (Kind × Text)) : finders xs =
    if haveFinders xs then .ok (xs.map fun x => x.1.set x.2) else .error .badPattern := by
  induction xs with
  | nil => rfl
  | cons x xs ih =>
    rw [finders] at ih
    rw [finders, List.mapM_cons, ih, haveFinders_cons]
    obtain h | h := finder_cases x.1 x.2
    · rw [h, Outcome.ok_bind]
      cases haveFinders xs with
      | true => rfl
      | false => rfl
    · rw [h]
      rfl

theorem haveFinders_of_le {xs : List (Kind × Text)} (h : ∀ x ∈ xs, x.2.byteLength ≤ roomyLength) :
    haveFinders xs = true :=
  List.all_eq_true.2 fun x hx => by rw [finder_of_le x.1 (h x hx)]; rfl

theorem haveFinders_of_lt {x : Kind × Text} {xs : List (Kind × Text)} (hx : x ∈ xs)
    (h : 327680 < x.2.byteLength) : haveFinders xs = false :=
  List.all_eq_false.2 ⟨x, hx, by rw [finder_of_lt x.1 h]; exact Bool.false_ne_true⟩

/-- An outcome that the sets for several names decide on, by how long the names are. -/
theorem outcome_of_finders {α : Type} {xs : List (Kind × Text)} {y : Except Failure α} {a : α}
    (h : y = (finders xs).map fun _ => a) :
    ((∀ x ∈ xs, x.2.byteLength ≤ 326900) → y = .ok a) ∧
    ((∃ x ∈ xs, 327680 < x.2.byteLength) → y = .error .badPattern) ∧
    y = if haveFinders xs then .ok a else .error .badPattern := by
  have hy : y = if haveFinders xs then .ok a else .error .badPattern := by
    rw [h, finders_eq]
    split
    · rfl
    · rfl
  refine ⟨fun hle => ?_, fun hlt => ?_, hy⟩
  · rw [hy, haveFinders_of_le hle, if_pos rfl]
  · obtain ⟨x, hx, hlt⟩ := hlt
    rw [hy, haveFinders_of_lt hx hlt]
    rfl

def longIdentifier : Text := List.replicate 328000 '$'

theorem isName_longIdentifier : IsName longIdentifier :=
  ⟨List.ne_nil_of_length_pos (by rw [longIdentifier, List.length_replicate]; decide),
    fun c hc => (List.mem_replicate.1 hc).2 ▸ rfl⟩

theorem lt_longIdentifier : 327680 < longIdentifier.byteLength := by
  rw [longIdentifier, Text.byteLength_replicate]
  decide

end Unscramble.Catalogue
