import Unscramble.Proofs.Regex.Inside

/-! The order in which the expressions of a set are tried. Each is asked for its leftmost match only.
Where every match sets the designated group, the first expression that matches decides, and what the
expressions behind it would capture plays no part. -/
namespace Unscramble.Regex
variable {r : Regex} {key : GroupKey} {name w : Text} {s t : State} {h : Hit}

/-- Whether every match is known to set the group. -/
def alwaysSets (key : GroupKey) : Regex → Bool
  | seq a b => a.alwaysSets key || b.alwaysSets key
  | alt a b => a.alwaysSets key && b.alwaysSets key
  | group k r => k == key || r.alwaysSets key
  | _ => false

/-- The group has been passed on the way to the state. -/
def State.HasSet (key : GroupKey) (s : State) : Prop := ∃ c, (key, c) ∈ s.groups

theorem hasSet_record (key : GroupKey) (p : Place) (s : State) : (s.record key p).HasSet key :=
  ⟨_, .head s.groups⟩

theorem State.HasSet.record (h : s.HasSet key) (k : GroupKey) (p : Place) :
    (s.record k p).HasSet key := by
  obtain ⟨c, hc⟩ := h
  exact ⟨c, .tail _ hc⟩

/-- A group that is set stays set, and a match sets what every match sets. -/
theorem hasSet_of_way (h : Way r s t) (hs : s.HasSet key ∨ r.alwaysSets key = true) :
    t.HasSet key := by
  induction r generalizing s t with
  | empty => exact h ▸ hs.resolve_right Bool.false_ne_true
  | char c =>
    obtain ⟨d, u, -, -, rfl⟩ := h
    exact hs.resolve_right Bool.false_ne_true
  | look l => exact h.2 ▸ hs.resolve_right Bool.false_ne_true
  | seq a b iha ihb =>
    obtain ⟨m, hm, hn⟩ := h
    rw [alwaysSets, Bool.or_eq_true, ← or_assoc] at hs
    exact ihb hn (hs.imp_left (iha hm))
  | alt a b iha ihb =>
    rw [alwaysSets, Bool.and_eq_true] at hs
    cases h with
    | inl h => exact iha h (hs.imp_right And.left)
    | inr h => exact ihb h (hs.imp_right And.right)
  | repeated eager k r ih =>
    obtain ⟨n, -, hn⟩ := h
    exact preserved_of_chain (fun _ _ h hs => ih h (.inl hs)) hn (hs.resolve_right Bool.false_ne_true)
  | group k r ih =>
    obtain ⟨m, hm, rfl⟩ := h
    by_cases hk : k = key
    · exact hk ▸ hasSet_record k s.place m
    · have hinner : r.alwaysSets key = (Regex.group k r).alwaysSets key := by
        rw [alwaysSets, beq_false_of_ne hk, Bool.false_or]
      exact (ih hm (hinner ▸ hs)).record k s.place

theorem exists_group?_of_search? (hl : r.loopsAreRuns = true)
    (hr : r.alwaysSets (.named name) = true) (hs : r.search? w = some h) :
    ∃ m, h.group? name = some m := by
  obtain ⟨⟨h', q⟩, hat, rfl⟩ := Option.map_eq_some_iff.1 hs
  have hf := finds_searchAt (r := r) hl (Place.start_isIn w)
  rw [hat] at hf
  obtain ⟨u, v, s, -, hway, rfl, -, -⟩ := hf
  obtain ⟨c, hc⟩ := hasSet_of_way hway (.inr hr)
  refine Option.isSome_iff_exists.1 (List.lookup_isSome_iff.2 ⟨(.named name, c.toMatch), ?_, ?_⟩)
  · exact List.mem_map.2 ⟨_, hc, rfl⟩
  · exact beq_self_eq_true _

end Unscramble.Regex

namespace Unscramble.PatternSet
open Regex
variable {s : PatternSet} {w : Text} {r : Regex} {before after : List Regex} {m : Match}

/-- The first expression that matches decides, whatever stands behind it. -/
theorem firstMatch_of_earliest (hp : s.patterns = before ++ r :: after)
    (hm : capture? s.group w r = some m) (hb : ∀ r' ∈ before, r'.search? w = none) :
    s.firstMatch w = .ok m :=
  firstMatch_eq_ok_iff_findSome?.2 <| List.findSome?_eq_some_iff.2
    ⟨before, r, after, hp, hm, fun r' hr' => capture?_of_search?_eq_none (hb r' hr')⟩

theorem exists_firstMatch_of_earlier (hl : ∀ r ∈ s.patterns, r.loopsAreRuns = true)
    (hg : ∀ r ∈ s.patterns, r.alwaysSets (.named s.group) = true)
    (hp : s.patterns = before ++ after) (hr : r ∈ before) (hs : r.search? w ≠ none) :
    ∃ r' ∈ before, ∃ m, capture? s.group w r' = some m ∧ s.firstMatch w = .ok m := by
  obtain ⟨h, hs⟩ := Option.ne_none_iff_exists'.1 hs
  have hmem : r ∈ s.patterns := hp ▸ List.mem_append_left after hr
  obtain ⟨m, hm⟩ := exists_group?_of_search? (hl r hmem) (hg r hmem) hs
  have hsome : (before.findSome? (capture? s.group w)).isSome = true :=
    List.findSome?_isSome_iff.2 ⟨r, hr, by rw [capture?_of_search? hs, hm]; rfl⟩
  obtain ⟨m', hm'⟩ := Option.isSome_iff_exists.1 hsome
  obtain ⟨r', hr', hc⟩ := List.exists_of_findSome?_eq_some hm'
  refine ⟨r', hr', m', hc, firstMatch_eq_ok_iff_findSome?.2 ?_⟩
  rw [hp, List.findSome?_append, hm', Option.some_or]

end Unscramble.PatternSet
