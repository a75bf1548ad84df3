import Unscramble.Proofs.Regex.Inside

/-! Expressions that take whatever they spell, and choices between two of them: where the left one can
be matched, it is. -/
namespace Unscramble.Regex
open Relation
variable {a b r : Regex} {rs : List Regex} {p : Place} {w x u : Text} {ms : List Mark}

theorem Takes.alt {P S : Text → Prop} (ha : Takes a P fun _ => []) (hb : Takes b S fun _ => []) :
    Takes (.alt a b) (fun z => P z ∨ S z) fun _ => [] := by
  intro s t
  constructor
  · intro h
    cases h with
    | inl h =>
      obtain ⟨z, v, hr, hz, ht⟩ := (ha s t).1 h
      exact ⟨z, v, hr, .inl hz, ht⟩
    | inr h =>
      obtain ⟨z, v, hr, hz, ht⟩ := (hb s t).1 h
      exact ⟨z, v, hr, .inr hz, ht⟩
  · intro h
    obtain ⟨z, v, hr, hz | hz, ht⟩ := h
    · exact .inl ((ha s t).2 ⟨z, v, hr, hz, ht⟩)
    · exact .inr ((hb s t).2 ⟨z, v, hr, hz, ht⟩)

theorem Takes.chain {P : Text → Prop} (h : Takes r P fun _ => []) (n : Nat) (s t : State) :
    Chain (Way r) n s t ↔ ∃ z v, s.place.rest = z ++ v ∧ Copies P n z ∧ t = s.reading z [] := by
  induction n generalizing s with
  | zero =>
    constructor
    · rintro rfl
      exact ⟨[], s.place.rest, rfl, rfl, rfl⟩
    · intro h
      obtain ⟨_, v, -, rfl, rfl⟩ := h
      rfl
  | succ n ih =>
    constructor
    · intro hc
      obtain ⟨m, hm, ht⟩ := hc
      obtain ⟨x, v, hx, hP, rfl⟩ := (h s m).1 hm
      obtain ⟨y, v', hy, hn, rfl⟩ := (ih _).1 ht
      rw [rest_reading hx] at hy
      refine ⟨x ++ y, v', by rw [hx, hy, List.append_assoc], ⟨x, y, rfl, hP, hn⟩, ?_⟩
      rw [reading_reading]
      rfl
    · intro hz
      obtain ⟨_, v, hr, ⟨x, y, rfl, hP, hn⟩, rfl⟩ := hz
      rw [List.append_assoc] at hr
      refine ⟨s.reading x [], (h s _).2 ⟨x, y ++ v, hr, hP, rfl⟩,
        (ih _).2 ⟨y, v, rest_reading hr, hn, ?_⟩⟩
      rw [reading_reading]
      rfl

/-- Such an expression takes every text that it spells, and nothing else. -/
theorem takes_spells (hl : r.isLookFree = true) (hg : r.groups = []) :
    Takes r (Spells r) fun _ => [] := by
  induction r with
  | empty => exact takes_empty
  | char c => exact takes_char c
  | look l => cases hl
  | seq a b iha ihb =>
    rw [isLookFree, Bool.and_eq_true] at hl
    obtain ⟨hga, hgb⟩ := List.append_eq_nil_iff.1 hg
    exact (iha hl.1 hga).seq (ihb hl.2 hgb)
  | alt a b iha ihb =>
    rw [isLookFree, Bool.and_eq_true] at hl
    obtain ⟨hga, hgb⟩ := List.append_eq_nil_iff.1 hg
    exact (iha hl.1 hga).alt (ihb hl.2 hgb)
  | repeated eager k r ih =>
    intro s t
    constructor
    · intro h
      obtain ⟨n, hk, hn⟩ := h
      obtain ⟨z, v, hr, hz, ht⟩ := ((ih hl hg).chain n s t).1 hn
      exact ⟨z, v, hr, ⟨n, hk, hz⟩, ht⟩
    · intro h
      obtain ⟨z, v, hr, ⟨n, hk, hz⟩, ht⟩ := h
      exact ⟨n, hk, ((ih hl hg).chain n s t).2 ⟨z, v, hr, hz, ht⟩⟩
  | group key r => cases hg

theorem isLookFree_sequence (rs : List Regex) :
    (sequence rs).isLookFree = rs.all (·.isLookFree) := by
  induction rs with
  | nil => rfl
  | cons r rs ih =>
    cases rs with
    | nil => simp [sequence]
    | cons r' rs =>
      rw [sequence, isLookFree, ih]
      rfl

theorem isLookFree_literal (x : Text) : (literal x).isLookFree = true := by
  rw [literal, isLookFree_sequence, List.all_map]
  exact List.all_eq_true.2 fun _ _ => rfl

/-- If none but `u` of the texts that are spelled begins the text, `u` is read. -/
theorem reads_of_spells (hl : (sequence rs).isLookFree = true) (hg : (sequence rs).groups = [])
    (hu : Spells (sequence rs) u) (v : Text)
    (hno : ∀ z y, u ++ v = z ++ y → Spells (sequence rs) z → z = u) : Reads rs (u ++ v) u [] where
  begins := List.prefix_append u v
  inside := nofun
  unique s hs t := by
    rw [takes_spells hl hg s t]
    constructor
    · intro h
      obtain ⟨z, y, hz, hspells, rfl⟩ := h
      rw [hno z y (hs.symm.trans hz) hspells]
    · rintro rfl
      exact ⟨u, v, hs, hu, rfl⟩

theorem opens_alt {p : Place} : Opens (sequence (alt a b :: rs)) p ↔
    Opens (sequence (a :: rs)) p ∨ Opens (sequence (b :: rs)) p := by
  simp only [Opens, way_sequence_cons, Way]
  constructor
  · intro h
    obtain ⟨s, m, hm | hm, hs⟩ := h
    · exact .inl ⟨s, m, hm, hs⟩
    · exact .inr ⟨s, m, hm, hs⟩
  · intro h
    obtain ⟨s, m, hm, hs⟩ | ⟨s, m, hm, hs⟩ := h
    · exact ⟨s, m, .inl hm, hs⟩
    · exact ⟨s, m, .inr hm, hs⟩

theorem searchFrom_here {whole : Rest} {passed : Passed} {s : State} (after : Passed)
    (h : whole (.start p) passed = (some s, after)) :
    searchFrom whole p.offset p.before passed p.rest = some (.ofState p s, s.place) := by
  obtain ⟨offset, before, rest⟩ := p
  cases rest <;> simp only [searchFrom, h]

theorem searchAt_left (hl : (seq (alt a b) r).loopsAreRuns = true) (hp : p.IsIn w)
    (ho : Opens (seq a r) p) :
    ∃ s, Way (seq a r) (.start p) s ∧
      searchAt (seq (alt a b) r) p = some (.ofState p s, s.place) := by
  obtain ⟨⟨ha, hb⟩, hr⟩ : (a.loopsAreRuns = true ∧ b.loopsAreRuns = true) ∧ r.loopsAreRuns = true := by
    simpa only [loopsAreRuns, Bool.and_eq_true] using hl
  let bound := p.rest.length + 2
  let joint := (matcher bound b (matcher bound a 0).2).2
  have hleft := realises_matcher (w := w) bound a ha 0
  have hright := realises_matcher (w := w) bound b hb (matcher bound a 0).2
  have hend : Decides w (fun _ => False) (fun _ _ => True) (fun _ => True) Eq
      fun s passed => (some s, passed) := fun _ _ _ _ => rfl
  -- the rest behind the choice, taken up at the joint, and the left expression in front of it
  obtain ⟨L, -, hrest⟩ := (realises_matcher (w := w) bound r hr (joint + 1)).2
    (fun _ => False) (fun _ _ => True) (fun _ => True) fun _ _ _ h => h
  have hjoint := (hrest Eq _ hend).once (n := joint) fun h => by
    obtain h | h := h
    · exact h
    · omega
  obtain ⟨L', -, hwhole⟩ := hleft.2
    (fun i => (False ∨ joint + 1 ≤ i ∧ i < (matcher bound r (joint + 1)).2) ∨ i = joint) _ _
    fun i _ him hq => by
      have hle : (matcher bound a 0).2 ≤ joint := hright.1
      obtain (hq | hq) | hq := hq
      · exact hq
      all_goals omega
  have hsettles := hwhole _ _ hjoint (.start p) ∅ hp fun i q _ hm => by simp at hm
  cases hfound : (matcher bound a 0).1 (once joint ((matcher bound r (joint + 1)).1
      fun s passed => (some s, passed))) (.start p) ∅ with
  | mk found after =>
    rw [hfound] at hsettles
    cases found with
    | none =>
      obtain ⟨s, u, hu, hs⟩ := ho
      exact absurd ⟨.start p, u, rfl, hu, u, s, rfl, hs, trivial⟩ hsettles.1
    | some s =>
      obtain ⟨u, hu, _, hs, rfl⟩ := hsettles
      refine ⟨_, ⟨u, hu, hs⟩, searchFrom_here after ?_⟩
      simp only [matcher, orElse]
      rw [hfound]

theorem search?_left {b : Regex} (hl : (sequence (alt a b :: r :: rs)).loopsAreRuns = true)
    (h : ReadsAt (sequence (a :: r :: rs)) (.start w) u ms) :
    search? (sequence (alt a b :: r :: rs)) w = some (.reading 0 u ms) := by
  obtain ⟨s, hs, hsearch⟩ := searchAt_left hl (Place.start_isIn w) h.opens
  rw [search?, sequence, hsearch, (h.unique s).1 hs, Option.map_some,
    ofState_reading h.begins h.inside]
  rfl

end Unscramble.Regex
