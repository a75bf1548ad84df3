import Unscramble.Proofs.Regex.Reads

/-! What a search gives where there is one way only. -/
namespace Unscramble.Regex
variable {r a b : Regex} {rs : List Regex} {p : Place} {w x u : Text} {ms : List Mark}

/-- From the place the expression takes `u` and nothing else. -/
structure ReadsAt (r : Regex) (p : Place) (u : Text) (ms : List Mark) : Prop where
  begins : u <+: p.rest
  inside : ∀ m ∈ ms, m.skipped ++ m.content <+: u
  unique : ∀ t, Way r (.start p) t ↔ t = (State.start p).reading u ms

theorem Reads.at (h : Reads rs x u ms) (hp : p.rest = x) :
    ReadsAt (Regex.sequence rs) p u ms where
  begins := hp ▸ h.begins
  inside := h.inside
  unique := h.unique (.start p) hp

theorem Bars.not_opens (h : Bars rs x) (hp : p.rest = x) : ¬Opens (Regex.sequence rs) p := by
  intro h
  obtain ⟨s, hs⟩ := h
  exact h (.start p) hp s hs

theorem ReadsAt.look {l : Look} (h : ReadsAt (sequence rs) p u ms) (hl : p.meets l = true) :
    ReadsAt (sequence (.look l :: rs)) p u ms where
  begins := h.begins
  inside := h.inside
  unique t := by
    rw [← h.unique t, way_sequence_cons]
    constructor
    · intro h
      obtain ⟨_, ⟨-, rfl⟩, ht⟩ := h
      exact ht
    · intro ht
      exact ⟨.start p, ⟨hl, rfl⟩, ht⟩

theorem not_opens_look {l : Look} (hl : p.meets l = false) :
    ¬Opens (sequence (.look l :: rs)) p := by
  intro h
  obtain ⟨s, hs⟩ := h
  obtain ⟨_, ⟨hm, -⟩, -⟩ := way_sequence_cons.1 hs
  simp [State.start, hl] at hm

theorem meets_textStart_took {y : Text} (hy : y ≠ []) :
    ((Place.start w).took y).meets .textStart = false := by
  cases y with
  | nil => exact absurd rfl hy
  | cons c y =>
    have hc := c.utf8Size_pos
    simp only [Place.meets, Place.took, Place.start, Text.byteLength_cons, beq_eq_false_iff_ne]
    omega

theorem ReadsAt.left (h : ReadsAt (sequence (a :: rs)) p u ms)
    (hb : ¬Opens (sequence (b :: rs)) p) : ReadsAt (sequence (.alt a b :: rs)) p u ms where
  begins := h.begins
  inside := h.inside
  unique t := by
    rw [← h.unique t, way_sequence_cons, way_sequence_cons]
    constructor
    · intro h
      obtain ⟨m, hm | hm, ht⟩ := h
      · exact ⟨m, hm, ht⟩
      · exact absurd ⟨t, way_sequence_cons.2 ⟨m, hm, ht⟩⟩ hb
    · intro h
      obtain ⟨m, hm, ht⟩ := h
      exact ⟨m, .inl hm, ht⟩

theorem ReadsAt.right (h : ReadsAt (sequence (b :: rs)) p u ms)
    (ha : ¬Opens (sequence (a :: rs)) p) : ReadsAt (sequence (.alt a b :: rs)) p u ms where
  begins := h.begins
  inside := h.inside
  unique t := by
    rw [← h.unique t, way_sequence_cons, way_sequence_cons]
    constructor
    · intro h
      obtain ⟨m, hm | hm, ht⟩ := h
      · exact absurd ⟨t, way_sequence_cons.2 ⟨m, hm, ht⟩⟩ ha
      · exact ⟨m, hm, ht⟩
    · intro h
      obtain ⟨m, hm, ht⟩ := h
      exact ⟨m, .inr hm, ht⟩

theorem ReadsAt.opens (h : ReadsAt r p u ms) : Opens r p := ⟨_, (h.unique _).2 rfl⟩

theorem spells_of_opens (h : Opens r p) : ∃ z v, p.rest = z ++ v ∧ Spells r z := by
  obtain ⟨s, hs⟩ := h
  obtain ⟨z, hz, hr⟩ := spells_of_way hs
  exact ⟨z, s.place.rest, hz, hr⟩

def Hit.reading (o : Nat) (u : Text) (ms : List Mark) : Hit :=
  ⟨⟨u, ⟨o, o + u.byteLength⟩⟩, ms.map fun m => (m.key, ⟨m.content,
    ⟨o + m.skipped.byteLength, o + m.skipped.byteLength + m.content.byteLength⟩⟩)⟩

theorem toMatch_took {y z v : Text} (h : p.rest = y ++ z ++ v) :
    Capture.toMatch ⟨p.took y, (p.took (y ++ z)).offset⟩ =
      ⟨z, ⟨p.offset + y.byteLength, p.offset + y.byteLength + z.byteLength⟩⟩ := by
  rw [List.append_assoc] at h
  have hlen : p.offset + (y.byteLength + z.byteLength) - (p.offset + y.byteLength) = z.byteLength := by
    omega
  simp only [Capture.toMatch, Place.rest_took h]
  simp only [Place.took, Text.byteLength_append, hlen, Text.takeBytes?_append, Option.getD_some,
    Nat.add_assoc]

theorem ofState_reading (hu : u <+: p.rest) (hm : ∀ m ∈ ms, m.skipped ++ m.content <+: u) :
    Hit.ofState p ((State.start p).reading u ms) = .reading p.offset u ms := by
  obtain ⟨v, hv⟩ := hu
  have hwhole := toMatch_took (y := []) (z := u) hv.symm
  have hgroup (m : Mark) (h : m ∈ ms) : Capture.toMatch ⟨p.took m.skipped,
      (p.took (m.skipped ++ m.content)).offset⟩ = ⟨m.content, ⟨p.offset + m.skipped.byteLength,
        p.offset + m.skipped.byteLength + m.content.byteLength⟩⟩ := by
    obtain ⟨v', hv'⟩ := hm m h
    refine toMatch_took (v := v' ++ v) ?_
    rw [← hv, ← hv', List.append_assoc]
  simp only [Hit.ofState, Hit.reading, State.reading, State.start, List.append_nil, List.map_map,
    Hit.mk.injEq]
  refine ⟨hwhole, List.map_congr_left fun m h => ?_⟩
  simp only [Function.comp_apply, hgroup m h]

/-- Past a text where no place opens, the one way there is decides. -/
theorem searchAt_of_readsAt (hl : r.loopsAreRuns = true) (hp : p.IsIn w) {y : Text}
    (hr : p.rest = y ++ x) (h : ReadsAt r (p.took y) u ms)
    (hno : ∀ u₁ u₂, y = u₁ ++ u₂ → u₂ ≠ [] → ¬Opens r (p.took u₁)) :
    searchAt r p = some (.reading (p.offset + y.byteLength) u ms, p.took (y ++ u)) := by
  obtain ⟨s, hs, hf⟩ := searchAt_eq_some hl hp hr h.opens hno
  rw [hf, (h.unique s).1 hs, ofState_reading h.begins h.inside, Place.took_append]
  rfl

theorem search?_of_readsAt (hl : r.loopsAreRuns = true) {y : Text} (hw : w = y ++ x)
    (h : ReadsAt r ((Place.start w).took y) u ms)
    (hno : ∀ u₁ u₂, y = u₁ ++ u₂ → u₂ ≠ [] → ¬Opens r ((Place.start w).took u₁)) :
    search? r w = some (.reading y.byteLength u ms) := by
  unfold search?
  rw [searchAt_of_readsAt hl (Place.start_isIn w) hw h hno, Option.map_some]
  simp only [Place.start, Nat.zero_add]

theorem search?_at_start (hl : r.loopsAreRuns = true) (h : ReadsAt r (.start w) u ms) :
    search? r w = some (.reading 0 u ms) :=
  search?_of_readsAt (y := []) hl rfl h fun _ _ hu hne =>
    absurd (List.append_eq_nil_iff.1 hu.symm).2 hne

theorem search?_eq_none (hl : r.loopsAreRuns = true)
    (hno : ∀ y x, w = y ++ x → ¬Opens r ((Place.start w).took y)) : search? r w = none := by
  unfold search?
  rw [searchAt_eq_none hl (Place.start_isIn w) hno]
  rfl

theorem exists_opens_of_search? (hl : r.loopsAreRuns = true) {h : Hit} (hs : search? r w = some h) :
    ∃ y x, w = y ++ x ∧ Opens r ((Place.start w).took y) :=
  (isMatch_iff hl w).1 (by rw [isMatch, hs]; rfl)

theorem exists_spells_of_isMatch (hr : r.loopsAreRuns = true) (h : r.isMatch x = true) :
    ∃ u z v, x = u ++ (z ++ v) ∧ Spells r z := by
  obtain ⟨u, v, rfl, hopen⟩ := (isMatch_iff hr x).1 h
  obtain ⟨z, v', hz, hs⟩ := spells_of_opens hopen
  rw [Place.rest_took (p := .start (u ++ v)) rfl] at hz
  exact ⟨u, z, v', by rw [hz], hs⟩

theorem isMatch_of_spells (hr : r.loopsAreRuns = true) (hl : r.isLookFree = true) {z : Text}
    (hz : Spells r z) (u v : Text) : r.isMatch (u ++ (z ++ v)) = true := by
  obtain ⟨t, ht, -⟩ := way_of_spells hl (s := .start ((Place.start _).took u))
    (Place.rest_took (p := .start (u ++ (z ++ v))) rfl) hz
  exact (isMatch_iff hr _).2 ⟨u, z ++ v, rfl, t, ht⟩

theorem opens_anchored {y : Text}
    (h : Opens (sequence (.look .textStart :: rs)) ((Place.start w).took y)) :
    Opens (sequence rs) (.start w) := by
  cases y with
  | nil =>
    obtain ⟨t, ht⟩ := h
    obtain ⟨_, ⟨-, rfl⟩, hr⟩ := way_sequence_cons.1 ht
    exact ⟨t, hr⟩
  | cons c y => exact absurd h (not_opens_look (meets_textStart_took (List.cons_ne_nil c y)))

theorem exists_spells_of_search?_anchored
    (hl : (sequence (.look .textStart :: rs)).loopsAreRuns = true) {h : Hit}
    (hs : search? (sequence (.look .textStart :: rs)) w = some h) :
    ∃ z v, w = z ++ v ∧ Spells (sequence rs) z := by
  obtain ⟨y, x, -, ho⟩ := exists_opens_of_search? hl hs
  exact spells_of_opens (opens_anchored ho)

theorem spells_of_search?_whole
    (hl : (sequence (.look .textStart :: (rs ++ [.look .textEnd]))).loopsAreRuns = true) {h : Hit}
    (hs : search? (sequence (.look .textStart :: (rs ++ [.look .textEnd]))) w = some h) :
    Spells (sequence rs) w := by
  obtain ⟨y, x, -, ho⟩ := exists_opens_of_search? hl hs
  obtain ⟨t, ht⟩ := opens_anchored ho
  obtain ⟨m, hm, hend, rfl⟩ := way_sequence_append.1 ht
  obtain ⟨u, hu, hspells⟩ := spells_of_way hm
  have hrest : m.place.rest = [] := by simpa [Place.meets] using hend
  have hw : w = u ++ m.place.rest := hu
  rw [hrest, List.append_nil] at hw
  exact hw ▸ hspells

theorem search?_anchored_eq_none (hl : (sequence (.look .textStart :: rs)).loopsAreRuns = true)
    (h : Bars rs w) : search? (sequence (.look .textStart :: rs)) w = none :=
  search?_eq_none hl fun _ _ _ ho => h.not_opens rfl (opens_anchored ho)

end Unscramble.Regex
