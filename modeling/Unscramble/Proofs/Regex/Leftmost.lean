import Unscramble.Proofs.Regex.Search

/-! A search comes to the leftmost place that an expression can be matched at, if there is one. -/
namespace Unscramble.Regex
variable {w : Text} {r : Regex} {p : Place}

def Opens (r : Regex) (p : Place) : Prop := ∃ s, Way r (.start p) s

theorem through_of_opens (h : Opens r p) : Through (Way r) (fun _ => True) p := by
  obtain ⟨s, hs⟩ := h
  exact ⟨.start p, s, rfl, hs, trivial⟩

/-- What a search says: the first place past some text that opens, or that there is none. -/
def Finds (r : Regex) (p : Place) : Option (Hit × Place) → Prop
  | none => ∀ u v, p.rest = u ++ v → ¬Opens r (p.took u)
  | some (h, q) => ∃ u v s, p.rest = u ++ v ∧ Way r (.start (p.took u)) s ∧
      h = .ofState (p.took u) s ∧ q = s.place ∧
      ∀ u₁ u₂, u = u₁ ++ u₂ → u₂ ≠ [] → ¬Opens r (p.took u₁)

theorem finds_nil (hr : p.rest = []) (hn : ¬Opens r p) : Finds r p none := by
  intro u v h
  rw [hr] at h
  obtain ⟨rfl, -⟩ := List.append_eq_nil_iff.1 h.symm
  rwa [Place.took_nil]

theorem finds_here {s : State} (h : Way r (.start p) s) :
    Finds r p (some (.ofState p s, s.place)) := by
  refine ⟨[], p.rest, s, rfl, h, rfl, rfl, fun u₁ u₂ hu hne => ?_⟩
  exact absurd (List.append_eq_nil_iff.1 hu.symm).2 hne

theorem finds_later {c : Char} {t : Text} {found : Option (Hit × Place)} (hr : p.rest = c :: t)
    (hn : ¬Opens r p) (h : Finds r (p.past c t) found) : Finds r p found := by
  have hp := Place.past_eq_took hr
  -- a place past a text that is not empty is past its first character
  have hlater {u v : Text} (hu : p.rest = u ++ v) (hne : u ≠ []) :
      ∃ u', u = c :: u' ∧ t = u' ++ v ∧ p.took u = (p.past c t).took u' := by
    cases u with
    | nil => exact absurd rfl hne
    | cons d u =>
      obtain ⟨rfl, ht⟩ := List.cons.inj (hr.symm.trans hu)
      refine ⟨u, rfl, ht, ?_⟩
      rw [hp, ← Place.took_append, List.singleton_append]
  cases found with
  | none =>
    intro u v hu
    by_cases hne : u = []
    · subst hne
      exact hn
    · obtain ⟨u', -, ht, he⟩ := hlater hu hne
      rw [he]
      exact h u' v ht
  | some found =>
    obtain ⟨u, v, s, ht, hs, hh, hq, hno⟩ := h
    have he : (p.past c t).took u = p.took (c :: u) := by
      rw [hp, ← Place.took_append, List.singleton_append]
    refine ⟨c :: u, v, s, ?_, he ▸ hs, he ▸ hh, hq, fun u₁ u₂ hu hne => ?_⟩
    · rw [hr, List.cons_append]
      exact congrArg (c :: ·) ht
    · cases u₁ with
      | nil => exact hn
      | cons d u₁ =>
        obtain ⟨rfl, hu'⟩ := List.cons.inj hu
        have ho := hno u₁ u₂ hu' hne
        rwa [hp, ← Place.took_append, List.singleton_append] at ho

/-- If `whole` decides whether there is a way, a search with it finds the first. -/
theorem finds_searchFrom {whole : Rest} {Q : Nat → Prop} {L : Nat → Place → Prop}
    (hw : Decides w Q L (Through (Way r) fun _ => True) (Way r) whole) (t : Text) (p : Place)
    (passed : Passed) (hr : p.rest = t) (hp : p.IsIn w) (hs : Spent w Q L passed) :
    Finds r p (searchFrom whole p.offset p.before passed t) := by
  induction t generalizing p passed with
  | nil =>
    have ho := hw (.start p) passed hp hs
    have he : (⟨p.offset, p.before, []⟩ : Place) = p := by rw [← hr]
    simp only [searchFrom, he]
    cases hk : whole (.start p) passed with
    | mk found after =>
      rw [hk] at ho
      cases found with
      | some s => exact finds_here ho
      | none => exact finds_nil hr fun h => ho.1 (through_of_opens h)
  | cons c t ih =>
    have ho := hw (.start p) passed hp hs
    have he : (⟨p.offset, p.before, c :: t⟩ : Place) = p := by rw [← hr]
    simp only [searchFrom, he]
    cases hk : whole (.start p) passed with
    | mk found after =>
      rw [hk] at ho
      cases found with
      | some s => exact finds_here ho
      | none =>
        refine finds_later hr (fun h => ho.1 (through_of_opens h)) ?_
        exact ih (p.past c t) after rfl (Place.past_isIn hp hr) ho.2.1

theorem finds_searchAt (hl : r.loopsAreRuns = true) (hp : p.IsIn w) :
    Finds r p (searchAt r p) := by
  have hend : Decides w (fun _ => False) (fun _ _ => True) (fun _ => True) Eq
      fun s passed => (some s, passed) := fun _ _ _ _ => rfl
  obtain ⟨L, -, hd⟩ := (realises_matcher (w := w) (p.rest.length + 2) r hl 0).2
    (fun _ => False) (fun _ _ => True) (fun _ => True) fun _ _ _ h => h
  have hw := hd Eq _ hend
  rw [Relation.comp_eq] at hw
  exact finds_searchFrom hw p.rest p ∅ rfl hp fun i q _ hm => by simp at hm

theorem searchAt_eq_some (hl : r.loopsAreRuns = true) (hp : p.IsIn w) {u v : Text}
    (hr : p.rest = u ++ v) (ho : Opens r (p.took u))
    (hno : ∀ u₁ u₂, u = u₁ ++ u₂ → u₂ ≠ [] → ¬Opens r (p.took u₁)) :
    ∃ s, Way r (.start (p.took u)) s ∧ searchAt r p = some (.ofState (p.took u) s, s.place) := by
  have hf := finds_searchAt hl hp
  cases hs : searchAt r p with
  | none =>
    rw [hs] at hf
    exact absurd ho (hf u v hr)
  | some found =>
    rw [hs] at hf
    obtain ⟨u', v', s, hr', hway, hh, hq, hno'⟩ := hf
    have he : u = u' := by
      obtain ⟨x, hx, -⟩ | ⟨x, hx, -⟩ := List.append_eq_append_iff.1 (hr.symm.trans hr')
      · by_cases hne : x = []
        · rw [hx, hne, List.append_nil]
        · exact absurd ho (hno' u x hx hne)
      · by_cases hne : x = []
        · rw [hx, hne, List.append_nil]
        · exact absurd ⟨s, hway⟩ (hno u' x hx hne)
    subst he
    exact ⟨s, hway, congrArg some (Prod.ext hh hq)⟩

theorem searchAt_eq_none (hl : r.loopsAreRuns = true) (hp : p.IsIn w)
    (hno : ∀ u v, p.rest = u ++ v → ¬Opens r (p.took u)) : searchAt r p = none := by
  have hf := finds_searchAt hl hp
  cases hs : searchAt r p with
  | none => rfl
  | some found =>
    rw [hs] at hf
    obtain ⟨u, v, s, hr, hway, -⟩ := hf
    exact absurd ⟨s, hway⟩ (hno u v hr)

theorem isMatch_iff (hl : r.loopsAreRuns = true) (t : Text) :
    r.isMatch t = true ↔ ∃ u v, t = u ++ v ∧ Opens r ((Place.start t).took u) := by
  have hf := finds_searchAt (r := r) hl (Place.start_isIn t)
  unfold isMatch search?
  cases hs : searchAt r (.start t) with
  | none =>
    rw [hs] at hf
    simp only [Option.map_none, Option.isSome_none, Bool.false_eq_true, false_iff]
    intro h
    obtain ⟨u, v, ht, ho⟩ := h
    exact hf u v ht ho
  | some found =>
    rw [hs] at hf
    obtain ⟨u, v, s, ht, hway, -⟩ := hf
    simp only [Option.map_some, Option.isSome_some, true_iff]
    exact ⟨u, v, ht, s, hway⟩

end Unscramble.Regex
