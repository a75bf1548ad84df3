import Unscramble.Proofs.Pattern.Set

/-! What a search gives lies inside the text: the whole of a hit and its groups are slices, and what
a group has taken is spelled by what the group is put around. -/
namespace Unscramble.Regex
variable {w : Text} {gs : List (GroupKey × Regex)} {r : Regex} {s t : State}

/-- The groups of an expression, each with what it is put around. -/
def groups : Regex → List (GroupKey × Regex)
  | seq a b | alt a b => a.groups ++ b.groups
  | repeated _ _ r => r.groups
  | group key r => (key, r) :: r.groups
  | _ => []

theorem groups_sequence (rs : List Regex) : (sequence rs).groups = rs.flatMap groups := by
  induction rs with
  | nil => rfl
  | cons r rs ih =>
    cases rs with
    | nil => simp [sequence]
    | cons r' rs => simp only [sequence, groups, ih, List.flatMap_cons]

theorem groups_literal (x : Text) : (literal x).groups = [] := by
  rw [literal, groups_sequence, List.flatMap_map]
  exact List.flatMap_eq_nil_iff.2 fun _ _ => rfl

theorem ne_nil_of_spells {rs : List Regex} {u : Text} (hr : r ∈ rs) (hne : ¬Spells r [])
    (h : Spells (sequence rs) u) : u ≠ [] := by
  rintro rfl
  induction rs with
  | nil => cases hr
  | cons r' rs ih =>
    obtain ⟨x, y, hxy, hx, hy⟩ := spells_sequence_cons.1 h
    obtain ⟨rfl, rfl⟩ := List.append_eq_nil_iff.1 hxy.symm
    obtain rfl | hr := List.mem_cons.1 hr
    · exact hne hx
    · exact ih hr hy

def Capture.IsPart (c : Capture) (w : Text) (r : Regex) : Prop :=
  ∃ u v, c.origin.IsIn w ∧ c.origin.rest = u ++ v ∧ c.stop = c.origin.offset + u.byteLength ∧
    Spells r u

structure State.IsInside (gs : List (GroupKey × Regex)) (w : Text) (s : State) : Prop where
  place : s.place.IsIn w
  groups : ∀ g ∈ s.groups, ∃ r, (g.1, r) ∈ gs ∧ g.2.IsPart w r

theorem preserved_of_chain {R : State → State → Prop} {P : State → Prop} {n : Nat}
    (hR : ∀ s t, R s t → P s → P t) (h : Chain R n s t) (hs : P s) : P t := by
  induction n generalizing s with
  | zero => exact h ▸ hs
  | succ n ih =>
    obtain ⟨m, hm, hn⟩ := h
    exact ih hn (hR s m hm hs)

theorem offset_of_isIn {p q : Place} {u : Text} (hp : p.IsIn w) (hq : q.IsIn w)
    (h : p.rest = u ++ q.rest) : q.offset = p.offset + u.byteLength := by
  obtain ⟨x, hx, hpo, -⟩ := hp
  obtain ⟨y, hy, hqo, -⟩ := hq
  have hparts : x ++ u ++ q.rest = y ++ q.rest := by rw [List.append_assoc, ← h, ← hx, hy]
  rw [hqo, hpo, ← Text.byteLength_append, List.append_cancel_right hparts]

/-- The invariant of a match: it stays in the text, and so do the groups on the way. -/
theorem isInside_of_way (h : Way r s t) (hr : r.groups ⊆ gs) (hs : s.IsInside gs w) :
    t.IsInside gs w := by
  induction r generalizing s t with
  | empty => exact h ▸ hs
  | char c =>
    obtain ⟨d, u, hd, -, rfl⟩ := h
    exact ⟨Place.past_isIn hs.place hd, hs.groups⟩
  | look l => exact h.2 ▸ hs
  | seq a b iha ihb =>
    obtain ⟨ha, hb⟩ := List.append_subset.1 hr
    obtain ⟨m, hm, hn⟩ := h
    exact ihb hn hb (iha hm ha hs)
  | alt a b iha ihb =>
    obtain ⟨ha, hb⟩ := List.append_subset.1 hr
    cases h with
    | inl h => exact iha h ha hs
    | inr h => exact ihb h hb hs
  | repeated eager k r ih =>
    obtain ⟨n, -, hn⟩ := h
    exact preserved_of_chain (fun _ _ h => ih h hr) hn hs
  | group key r ih =>
    obtain ⟨m, hm, rfl⟩ := h
    obtain ⟨hkey, hinner⟩ := List.cons_subset.1 hr
    obtain ⟨hplace, hgroups⟩ := ih hm hinner hs
    refine ⟨hplace, List.forall_mem_cons.2 ⟨⟨r, hkey, ?_⟩, hgroups⟩⟩
    obtain ⟨u, hu, hspells⟩ := spells_of_way hm
    exact ⟨u, m.place.rest, hs.place, hu, offset_of_isIn hs.place hplace hu, hspells⟩

def IsSlice (w : Text) (m : Match) : Prop := w.slice? m.span = some m.text

theorem isSlice_toMatch {c : Capture} (h : c.IsPart w r) :
    IsSlice w c.toMatch ∧ Spells r c.toMatch.text := by
  obtain ⟨u, v, ⟨x, hx, ho, -⟩, hr, hstop, hspells⟩ := h
  have htext : c.toMatch.text = u := by
    rw [Capture.toMatch, hr, hstop, Nat.add_sub_cancel_left, Text.takeBytes?_append]
    rfl
  refine ⟨?_, htext.symm ▸ hspells⟩
  rw [IsSlice, htext, Text.slice?_eq_some_iff]
  refine ⟨x, v, by rw [hx, hr, List.append_assoc], ho.symm, ?_⟩
  rw [Text.byteLength_append, ← ho]
  exact hstop.symm

structure Hit.IsInside (gs : List (GroupKey × Regex)) (w : Text) (h : Hit) : Prop where
  whole : IsSlice w h.whole
  groups : ∀ g ∈ h.groups, ∃ r, (g.1, r) ∈ gs ∧ IsSlice w g.2 ∧ Spells r g.2.text

theorem isInside_of_search? {h : Hit} (hl : r.loopsAreRuns = true) (hs : search? r w = some h) :
    h.IsInside r.groups w := by
  obtain ⟨⟨h', q⟩, hat, rfl⟩ := Option.map_eq_some_iff.1 hs
  have hf := finds_searchAt (r := r) hl (Place.start_isIn w)
  rw [hat] at hf
  obtain ⟨u, v, s, hr, hway, rfl, -, -⟩ := hf
  have hp : ((Place.start w).took u).IsIn w := Place.took_isIn (Place.start_isIn w) hr
  have hinside : s.IsInside r.groups w := isInside_of_way hway (List.Subset.refl _) ⟨hp, nofun⟩
  obtain ⟨z, hz, hspells⟩ := spells_of_way hway
  have hpart : Capture.IsPart ⟨(Place.start w).took u, s.place.offset⟩ w r :=
    ⟨z, s.place.rest, hp, hz, offset_of_isIn hp hinside.place hz, hspells⟩
  refine ⟨(isSlice_toMatch hpart).1, fun g hg => ?_⟩
  obtain ⟨c, hc, rfl⟩ := List.mem_map.1 hg
  obtain ⟨r', hr', hc'⟩ := hinside.groups c hc
  exact ⟨r', hr', isSlice_toMatch hc'⟩

theorem mem_of_group? {h : Hit} {name : Text} {m : Match} (hg : h.group? name = some m) :
    (.named name, m) ∈ h.groups := by
  obtain ⟨before, after, hgroups, -⟩ := List.lookup_eq_some_iff.1 hg
  exact hgroups ▸ List.mem_append_right before (.head after)

end Unscramble.Regex

namespace Unscramble.PatternSet
open Regex
variable {s : PatternSet} {w : Text} {m : Match}

/-- The designated group is a slice of the text, spelled by what one of the expressions puts it
around. -/
theorem isSlice_of_firstMatch (hl : ∀ r ∈ s.patterns, r.loopsAreRuns = true)
    (hm : s.firstMatch w = .ok m) : IsSlice w m ∧
      ∃ r ∈ s.patterns, ∃ inner, (.named s.group, inner) ∈ r.groups ∧ Spells inner m.text := by
  obtain ⟨r, hr, h, hs, hg⟩ := exists_search?_of_firstMatch hm
  obtain ⟨inner, hinner, hslice, hspells⟩ :=
    (isInside_of_search? (hl r hr) hs).groups _ (mem_of_group? hg)
  exact ⟨hslice, r, hr, inner, hinner, hspells⟩

end Unscramble.PatternSet
