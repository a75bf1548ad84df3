import Unscramble.Proofs.Pattern.Catalogue
import Unscramble.Proofs.Pattern.Set

/-! What the expressions of signature scripts find. -/
namespace Unscramble.Catalogue
open Regex
variable {name object pre v w x y z : Text}

def IsPlainName (x : Text) : Prop := x ≠ [] ∧ ∀ d ∈ x, plainNameChar.contains d = true

instance (x : Text) : Decidable (IsPlainName x) :=
  decidable_of_iff (x ≠ [] ∧ x.all plainNameChar.contains = true)
    (and_congr_right fun _ => List.all_eq_true)

theorem IsPlainName.isName (h : IsPlainName x) : IsName x :=
  ⟨h.1, fun d hd => nameChar_of_plainNameChar (h.2 d hd)⟩

theorem IsPlainName.isRun (h : IsPlainName x) : IsRun plainNameChar 1 x :=
  ⟨List.length_pos_iff.2 h.1, h.2⟩

def entryCall (name v : Text) : Text :=
  "c".toList ++ ("&&".toList ++ ("a".toList ++ (".set(".toList ++ ("b".toList ++ (",".toList ++
    ("encodeURIComponent".toList ++ ("(".toList ++ (name ++ ("(".toList ++ v)))))))))

def entryCallParts : List Regex :=
  [guardedSet (oneChar 'c' ['s']) (oneChar 'a' ['d', 'f']), encoder, gap, namedCall]

theorem reads_entryCall (hn : IsPlainName name) (v : Text) :
    Reads entryCallParts (entryCall name v) (entryCall name [])
      [⟨.named nameGroup, "c&&a.set(b,encodeURIComponent(".toList, name⟩] := by
  have hcall : Reads ([named nameGroup plainName, text "("] ++ []) (name ++ ("(".toList ++ v))
      (name ++ ("(".toList ++ [])) [⟨.named nameGroup, [], name⟩] :=
    reads_captured hn.isRun rfl rfl (reads_text "(" (.nil v))
  have hencoder : Reads ([text "encodeURIComponent", gap, text "("] ++ [gap, namedCall])
      ("encodeURIComponent".toList ++ ("(".toList ++ (name ++ ("(".toList ++ v))))
      ("encodeURIComponent".toList ++ ("(".toList ++ (name ++ ("(".toList ++ []))))
      [⟨.named nameGroup, "encodeURIComponent(".toList, name⟩] :=
    reads_text "encodeURIComponent" <| reads_gap rfl <| reads_text "(" <|
      reads_gap hn.isName.head_not_blank hcall.sequence
  have hset : Reads ([oneChar 'c' ['s'], gap, text "&&", gap, oneChar 'a' ['d', 'f'], text ".set(",
      plus true (char (.except (.single ','))), gap, text ",", gap] ++ [encoder, gap, namedCall])
      (entryCall name v) (entryCall name [])
      [⟨.named nameGroup, "c&&a.set(b,encodeURIComponent(".toList, name⟩] := by
    have hrun : IsRun (.except (.single ',')) 1 "b".toList := by decide
    exact .char (by decide) <| reads_gap rfl <| reads_text "&&" <| reads_gap rfl <|
      .char (by decide) <| reads_text ".set(" <|
      .run hrun rfl (fun z d w hz hl => (not_longer_than_one hz hl).elim) <|
      reads_gap rfl <| reads_text "," <| reads_gap rfl hencoder.sequence
  exact hset.sequence

theorem exists_guard_of_spells (h : Spells (sequence entryCallParts) z) :
    ∃ f g q, z = f :: (g ++ '&' :: q) ∧ ∀ d ∈ g, CharClass.blank.contains d = true := by
  obtain ⟨z1, z2, rfl, hset, -⟩ := spells_sequence_cons.1 h
  obtain ⟨x, z3, rfl, ⟨f, -, rfl⟩, hset'⟩ := spells_sequence_cons.1 hset
  obtain ⟨g, z4, rfl, hg, hand⟩ := spells_sequence_cons.1 hset'
  obtain ⟨a, z5, rfl, ha, -⟩ := spells_sequence_cons.1 hand
  rw [spells_literal.1 ha]
  exact ⟨f, g, '&' :: (z5 ++ z2), by simp, spells_star.1 hg⟩

/-- No call begins where what guards it is not in front of its sign. -/
theorem not_opens_before_entryCall (hno : '&' ∉ y) (hy : y ≠ []) {p : Place}
    (hp : p.rest = y ++ entryCall name v) : ¬Opens (sequence (boundary :: entryCallParts)) p := by
  intro ho
  obtain ⟨z, w, hz, hsp⟩ := spells_of_opens ho
  obtain ⟨b, z', rfl, hb, hsp⟩ := spells_sequence_cons.1 hsp
  obtain ⟨f, g, q, rfl, hg⟩ := exists_guard_of_spells hsp
  cases y with
  | nil => exact hy rfl
  | cons e y =>
    have hrest : e :: (y ++ entryCall name v) = f :: (g ++ '&' :: (q ++ w)) := by
      rw [← List.cons_append, ← hp, hz, show b = [] from hb]
      simp
    obtain ⟨rfl, he⟩ := List.cons.inj hrest
    cases Text.mem_or_mem_of_append_eq (c := 'c') (by decide) he with
    | inl hc => exact absurd (hg 'c' hc) (by decide)
    | inr hand => exact hno (.tail e hand)

theorem signatureFunction_firstMatch (hn : IsPlainName name) (hno : '&' ∉ pre)
    (hlast : pre.getLast?.any Text.isWord = false) (v : Text) :
    ∃ m, signatureFunction.firstMatch (pre ++ entryCall name v) = .ok m ∧ m.text = name := by
  have hrest (u₁ u₂ : Text) (hu : pre = u₁ ++ u₂) :
      ((Place.start (pre ++ entryCall name v)).took u₁).rest = u₂ ++ entryCall name v :=
    Place.rest_took (by rw [hu, List.append_assoc]; rfl)
  have hend := hrest pre [] (List.append_nil pre).symm
  have hboundary : ((Place.start (pre ++ entryCall name v)).took pre).meets
      (.wordBoundary true) = true := by
    have hbefore : ((Place.start (pre ++ entryCall name v)).took pre).wordBefore = false := by
      rw [Place.wordBefore, Place.took, Place.start, Option.or_none, hlast]
    have hafter : ((Place.start (pre ++ entryCall name v)).took pre).wordAfter = true := by
      rw [Place.wordAfter, hend]
      rfl
    rw [Place.meets, hbefore, hafter]
    rfl
  have hat : ReadsAt (sequence (boundary :: entryCallParts)) _ _ _ :=
    ((reads_entryCall hn v).at hend).look hboundary
  have hsearch := search?_of_readsAt (by decide) rfl hat fun u₁ u₂ hu hne =>
    not_opens_before_entryCall (fun hm => hno (hu ▸ List.mem_append_right u₁ hm)) hne (hrest u₁ u₂ hu)
  exact ⟨_, PatternSet.firstMatch_of_search? rfl hsearch (PatternSet.group?_reading ..), rfl⟩

def objectMatch (object : Text) : Match := ⟨object, ⟨0, object.byteLength⟩⟩

theorem group?_object (object u : Text) :
    (Hit.reading 0 u [⟨.named objectGroup, [], object⟩]).group? objectGroup =
      some (objectMatch object) := by
  simp only [PatternSet.group?_reading, objectMatch, Text.byteLength_nil, Nat.zero_add]

theorem transformObject_member (ho : IsName object) (hn : IsName name) (v : Text) :
    transformObject.firstMatch (object ++ (".".toList ++ (name ++ ("(".toList ++ v)))) =
      .ok (objectMatch object) := by
  have hname : Reads [identifier, text "("] (name ++ ("(".toList ++ v))
      (name ++ ("(".toList ++ [])) [] :=
    reads_run hn.isRun rfl rfl (reads_text "(" (.nil v))
  have hcall : Reads [gap, named objectGroup identifier, text ".", identifier, text "("]
      (object ++ (".".toList ++ (name ++ ("(".toList ++ v))))
      (object ++ (".".toList ++ (name ++ ("(".toList ++ []))))
      [⟨.named objectGroup, [], object⟩] :=
    reads_gap ho.head_not_blank <| reads_captured ho.isRun rfl rfl (reads_text "." hname)
  have hsearch := search?_at_start (by decide) ((hcall.at rfl).look (l := .textStart) rfl)
  exact PatternSet.firstMatch_of_search? rfl hsearch (group?_object ..)

theorem search?_member_indexed (ho : IsName object) (v : Text) :
    (sequence [look .textStart, gap, named objectGroup identifier, text ".", identifier,
      text "("]).search? (object ++ '[' :: v) = none :=
  search?_anchored_eq_none (by decide) <|
    bars_gap ho.head_not_blank <| bars_captured ho.isRun rfl rfl (bars_text rfl)

theorem transformObject_indexed (ho : IsName object) (v : Text) :
    transformObject.firstMatch (object ++ ("[\"".toList ++ v)) = .ok (objectMatch object) := by
  have hcall : Reads [gap, named objectGroup identifier, text "[\""]
      (object ++ ("[\"".toList ++ v)) (object ++ ("[\"".toList ++ []))
      [⟨.named objectGroup, [], object⟩] :=
    reads_gap ho.head_not_blank <| reads_captured ho.isRun rfl rfl (reads_text "[\"" (.nil v))
  have hsearch := search?_at_start (by decide) ((hcall.at rfl).look (l := .textStart) rfl)
  exact (PatternSet.firstMatch_of_search?_eq_none rfl (search?_member_indexed ho _)).trans
    (PatternSet.firstMatch_of_search? rfl hsearch (group?_object ..))

theorem transformObject_indexed_eq_error {d : Char} (ho : IsName object) (hd : d ≠ '"') (v : Text) :
    transformObject.firstMatch (object ++ '[' :: d :: v) = .error (.noMatch .transformObject) := by
  have hquote : Bars [gap, named objectGroup identifier, text "[\""] (object ++ '[' :: d :: v) := by
    refine bars_gap ho.head_not_blank <| bars_captured ho.isRun rfl rfl ?_
    exact .takes (takes_literal _) fun z w hz hP => by
      subst hP
      exact absurd (List.cons.inj (List.cons.inj hz).2).1 hd
  rw [PatternSet.firstMatch_of_search?_eq_none rfl (search?_member_indexed ho _),
    PatternSet.firstMatch_of_search?_eq_none rfl (search?_anchored_eq_none (by decide) hquote),
    PatternSet.firstMatch_nil]
  rfl

end Unscramble.Catalogue
