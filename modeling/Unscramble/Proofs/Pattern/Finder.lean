import Unscramble.Proofs.Pattern.Room
import Unscramble.Proofs.Script.FunctionHead

/-! The set that finds the definition of a function by its name. What it finds is the head that
counts. It can be read unless the name is so long that there is no room for it. -/
namespace Unscramble.Written
open Regex Element Catalogue Definition
variable {name : Text}

/-- The set that finds the definition of a function by its name. -/
def definitionFinder (name : Text) : Except Failure PatternSet :=
  PatternSet.ofSources (functionDefinition name).target (functionDefinition name).group
    (functionDefinition name).sources

theorem firstMatch_definitionFinder (name script : Text) :
    (finder .function name >>= fun s => s.firstMatch script) =
      definitionFinder name >>= fun s => s.firstMatch script :=
  finder_firstMatch .function name script

def roomyFinder (name : Text) : PatternSet :=
  (functionDefinition name).setOf (functionDefinitionElements name)

theorem firstMatch_roomyFinder (name script : Text) : (roomyFinder name).firstMatch script =
    (Catalogue.functionDefinition name).firstMatch script :=
  (isLike_setOf rfl rfl (writes_functionDefinition name)).firstMatch_eq script

theorem definitionFinder_cases (name : Text) : definitionFinder name = .ok (roomyFinder name) ∨
    definitionFinder name = .error .badPattern :=
  (isNamed_functionDefinition name).ofSources_cases

theorem eq_roomyFinder {s : PatternSet} (h : definitionFinder name = .ok s) :
    s = roomyFinder name := by
  obtain hok | herror := definitionFinder_cases name
  · exact Except.ok.inj (h.symm.trans hok)
  · cases h.symm.trans herror

theorem definitionFinder_of_le (h : name.byteLength ≤ roomyLength) :
    definitionFinder name = .ok (roomyFinder name) :=
  (isNamed_functionDefinition name).ofSources_of_le h

theorem definitionFinder_of_lt (h : 327680 < name.byteLength) :
    definitionFinder name = .error .badPattern :=
  (isNamed_functionDefinition name).ofSources_of_lt h

def longName : Text := List.replicate 82000 '😀'

theorem lt_longName : 327680 < longName.byteLength := by
  rw [longName, Text.byteLength_replicate]
  decide

/-- A finder finds the head that counts, from its first character to its brace. Names of up to
326,900 octets have a finder, whatever their characters are. No name above 327,680 octets has one:
it takes 32 octets for each of its own, which is more than 10 MiB. -/
theorem definitionFinder_finds (name : Text) :
    (name.byteLength ≤ 326900 → ∃ s, definitionFinder name = .ok s) ∧
    (327680 < name.byteLength → definitionFinder name = .error .badPattern) ∧
    (∀ f, definitionFinder name = .error f → f = .badPattern) ∧
    ∀ s, definitionFinder name = .ok s → ∀ script,
      (∀ m, s.firstMatch script = .ok m ↔
        ∃ z, m.span = ⟨z.byteLength, z.byteLength + m.text.byteLength⟩ ∧
          IsHead name script z m.text) ∧
      ∀ f, s.firstMatch script = .error f ↔ f = .noMatch .functionDefinition ∧
        (∀ z t, AssignedBehind name z t → ¬z ++ t <+: script) ∧
          ∀ z t, IsDeclared name t → ¬z ++ t <+: script := by
  refine ⟨fun h => ⟨_, definitionFinder_of_le h⟩, definitionFinder_of_lt, fun f h => ?_,
    fun s h script => ?_⟩
  · obtain hok | herror := definitionFinder_cases name
    · cases h.symm.trans hok
    · exact Except.error.inj (h.symm.trans herror)
  · rw [eq_roomyFinder h, firstMatch_roomyFinder]
    exact ⟨fun m => firstMatch_eq_ok_iff, fun f => firstMatch_eq_error_iff⟩

/-- A name with a sign that means something in expressions, one that others end with, and one that
is too long. -/
theorem definitionFinder_finds_samples :
    (∃ s z, definitionFinder "$a".toList = .ok s ∧
      s.firstMatch ";x.$a=function(b)\x7b\x7d;$a = function( c )\x7b\x7d".toList =
        .ok ⟨"$a = function( c )\x7b".toList, ⟨20, 39⟩⟩ ∧
      z.byteLength = 20 ∧ IsHead "$a".toList ";x.$a=function(b)\x7b\x7d;$a = function( c )\x7b\x7d".toList z
        "$a = function( c )\x7b".toList) ∧
    (∃ s, definitionFinder "a".toList = .ok s ∧
      s.firstMatch ";$a=function(b)\x7b\x7d".toList = .error (.noMatch .functionDefinition) ∧
      ∀ z t, AssignedBehind "a".toList z t → ¬z ++ t <+: ";$a=function(b)\x7b\x7d".toList) ∧
    definitionFinder longName = .error .badPattern := by
  obtain ⟨hcompiles, -, -, hfinds⟩ := definitionFinder_finds "$a".toList
  obtain ⟨s, hs⟩ := hcompiles (by decide)
  obtain ⟨hcompiles', -, -, hfinds'⟩ := definitionFinder_finds "a".toList
  obtain ⟨s', hs'⟩ := hcompiles' (by decide)
  have hmatch : s.firstMatch ";x.$a=function(b)\x7b\x7d;$a = function( c )\x7b\x7d".toList =
      .ok ⟨"$a = function( c )\x7b".toList, ⟨20, 39⟩⟩ := by
    rw [eq_roomyFinder hs, firstMatch_roomyFinder]
    decide +kernel
  have hnone : s'.firstMatch ";$a=function(b)\x7b\x7d".toList = .error (.noMatch .functionDefinition) := by
    rw [eq_roomyFinder hs', firstMatch_roomyFinder]
    decide +kernel
  obtain ⟨z, hspan, hhead⟩ := ((hfinds s hs _).1 _).1 hmatch
  refine ⟨⟨s, z, hs, hmatch, (congrArg Span.start hspan).symm, hhead⟩,
    ⟨s', hs', hnone, (((hfinds' s' hs' _).2 _).1 hnone).2.1⟩,
    (definitionFinder_finds longName).2.1 lt_longName⟩

theorem longName_has_no_finder : longName ≠ [] ∧ definitionFinder longName = .error .badPattern :=
  ⟨fun h => absurd (h ▸ lt_longName) (by decide), definitionFinder_of_lt lt_longName⟩

end Unscramble.Written
