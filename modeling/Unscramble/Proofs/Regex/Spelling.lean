import Unscramble.Proofs.Regex.Way

/-! The texts that an expression can take, whatever is asked of the places between them. -/
namespace Unscramble.Regex
open Relation
variable {c : CharClass} {u : Text}

def Copies (P : Text → Prop) : Nat → Text → Prop
  | 0, u => u = []
  | n + 1, u => ∃ x y, u = x ++ y ∧ P x ∧ Copies P n y

def Spells : Regex → Text → Prop
  | empty, u | look _, u => u = []
  | char c, u => ∃ d, c.contains d = true ∧ u = [d]
  | seq a b, u => ∃ x y, u = x ++ y ∧ Spells a x ∧ Spells b y
  | alt a b, u => Spells a u ∨ Spells b u
  | repeated _ k r, u => ∃ n, k.Allows n ∧ Copies (Spells r) n u
  | group _ r, u => Spells r u

theorem copies_of_chain {R : State → State → Prop} {P : Text → Prop} {n : Nat} {s t : State}
    (hR : ∀ s t, R s t → ∃ u, s.place.rest = u ++ t.place.rest ∧ P u) (h : Chain R n s t) :
    ∃ u, s.place.rest = u ++ t.place.rest ∧ Copies P n u := by
  induction n generalizing s with
  | zero =>
    cases h
    exact ⟨[], rfl, rfl⟩
  | succ n ih =>
    obtain ⟨m, hm, hn⟩ := h
    obtain ⟨x, hx, hPx⟩ := hR s m hm
    obtain ⟨y, hy, hPy⟩ := ih hn
    exact ⟨x ++ y, by rw [hx, hy, List.append_assoc], x, y, rfl, hPx, hPy⟩

/-- What a way takes is spelled by the expression. -/
theorem spells_of_way {r : Regex} {s t : State} (h : Way r s t) :
    ∃ u, s.place.rest = u ++ t.place.rest ∧ Spells r u := by
  induction r generalizing s t with
  | empty =>
    cases h
    exact ⟨[], rfl, rfl⟩
  | char c =>
    obtain ⟨d, u, hr, hc, rfl⟩ := h
    exact ⟨[d], hr, d, hc, rfl⟩
  | look l =>
    obtain ⟨-, rfl⟩ := h
    exact ⟨[], rfl, rfl⟩
  | seq a b iha ihb =>
    obtain ⟨m, hm, hn⟩ := h
    obtain ⟨x, hx, hsx⟩ := iha hm
    obtain ⟨y, hy, hsy⟩ := ihb hn
    exact ⟨x ++ y, by rw [hx, hy, List.append_assoc], x, y, rfl, hsx, hsy⟩
  | alt a b iha ihb =>
    cases h with
    | inl h =>
      obtain ⟨u, hu, hs⟩ := iha h
      exact ⟨u, hu, .inl hs⟩
    | inr h =>
      obtain ⟨u, hu, hs⟩ := ihb h
      exact ⟨u, hu, .inr hs⟩
  | repeated eager k r ih =>
    obtain ⟨n, hk, hn⟩ := h
    obtain ⟨u, hu, hs⟩ := copies_of_chain (fun _ _ => ih) hn
    exact ⟨u, hu, n, hk, hs⟩
  | group key r ih =>
    obtain ⟨m, hm, rfl⟩ := h
    obtain ⟨u, hu, hs⟩ := ih hm
    exact ⟨u, hu, hs⟩

theorem way_sequence_cons {r : Regex} {rs : List Regex} {s t : State} :
    Way (sequence (r :: rs)) s t ↔ ∃ m, Way r s m ∧ Way (sequence rs) m t := by
  cases rs with
  | nil => simp [sequence, Way]
  | cons r' rs => rfl

theorem spells_sequence_cons {r : Regex} {rs : List Regex} :
    Spells (sequence (r :: rs)) u ↔ ∃ x y, u = x ++ y ∧ Spells r x ∧ Spells (sequence rs) y := by
  cases rs with
  | nil => simp [sequence, Spells]
  | cons r' rs => rfl

theorem exists_of_spells_append {rs rs' : List Regex} (h : Spells (sequence (rs ++ rs')) u) :
    ∃ x y, u = x ++ y ∧ Spells (sequence rs') y := by
  induction rs generalizing u with
  | nil => exact ⟨[], u, rfl, h⟩
  | cons r rs ih =>
    obtain ⟨x, v, rfl, -, hv⟩ := spells_sequence_cons.1 h
    obtain ⟨y, w, rfl, hw⟩ := ih hv
    exact ⟨x ++ y, w, (List.append_assoc ..).symm, hw⟩

theorem loopsAreRuns_sequence (rs : List Regex) :
    (sequence rs).loopsAreRuns = rs.all (·.loopsAreRuns) := by
  induction rs with
  | nil => rfl
  | cons r rs ih =>
    cases rs with
    | nil => simp [sequence]
    | cons r' rs =>
      rw [sequence, loopsAreRuns, ih]
      rfl

theorem loopsAreRuns_literal (x : Text) : (literal x).loopsAreRuns = true := by
  rw [literal, loopsAreRuns_sequence, List.all_map]
  exact List.all_eq_true.2 fun _ _ => rfl

theorem contains_single {d e : Char} : (CharClass.single d).contains e = true ↔ e = d := by
  simp only [CharClass.single, CharClass.contains, Bool.and_eq_true, decide_eq_true_eq]
  exact ⟨fun h => Char.le_antisymm h.2 h.1, fun h => h ▸ ⟨Char.le_refl e, Char.le_refl e⟩⟩

theorem spells_literal {x : Text} : Spells (literal x) u ↔ u = x := by
  induction x generalizing u with
  | nil => exact Iff.rfl
  | cons d x ih =>
    rw [literal, List.map_cons, spells_sequence_cons]
    constructor
    · intro h
      obtain ⟨_, y, rfl, ⟨e, he, rfl⟩, hy⟩ := h
      rw [contains_single.1 he, ih.1 hy]
      rfl
    · rintro rfl
      exact ⟨[d], x, rfl, ⟨d, contains_single.2 rfl, rfl⟩, ih.2 rfl⟩

theorem copies_char {n : Nat} :
    Copies (Spells (.char c)) n u ↔ u.length = n ∧ ∀ d ∈ u, c.contains d = true := by
  induction n generalizing u with
  | zero =>
    simp only [Copies, List.length_eq_zero_iff]
    exact ⟨fun h => ⟨h, by simp [h]⟩, fun h => h.1⟩
  | succ n ih =>
    constructor
    · intro h
      obtain ⟨_, y, rfl, ⟨d, hd, rfl⟩, hy⟩ := h
      obtain ⟨hl, ha⟩ := ih.1 hy
      refine ⟨by simp [hl], fun e he => ?_⟩
      obtain rfl | he := List.mem_cons.1 he
      · exact hd
      · exact ha e he
    · intro h
      obtain ⟨hl, ha⟩ := h
      cases u with
      | nil => simp at hl
      | cons d u =>
        have hu : u.length = n := by simpa using hl
        exact ⟨[d], u, rfl, ⟨d, ha d (.head u), rfl⟩, ih.2 ⟨hu, fun e he => ha e (.tail d he)⟩⟩

theorem spells_star {eager : Bool} :
    Spells (star eager (.char c)) u ↔ ∀ d ∈ u, c.contains d = true := by
  constructor
  · intro hw
    obtain ⟨n, -, h⟩ := hw
    exact (copies_char.1 h).2
  · intro h
    exact ⟨u.length, ⟨Nat.zero_le _, fun m hm => nomatch hm⟩, copies_char.2 ⟨rfl, h⟩⟩

theorem spells_plus {eager : Bool} :
    Spells (plus eager (.char c)) u ↔ 1 ≤ u.length ∧ ∀ d ∈ u, c.contains d = true := by
  constructor
  · intro hw
    obtain ⟨n, ⟨hn, -⟩, h⟩ := hw
    obtain ⟨rfl, hd⟩ := copies_char.1 h
    exact ⟨hn, hd⟩
  · intro h
    exact ⟨u.length, ⟨h.1, fun m hm => nomatch hm⟩, copies_char.2 ⟨rfl, h.2⟩⟩

theorem spells_optional {eager : Bool} {r : Regex} :
    Spells (optional eager r) u ↔ u = [] ∨ Spells r u := by
  constructor
  · intro hw
    obtain ⟨n, ⟨-, hn⟩, h⟩ := hw
    match n, hn 1 rfl, h with
    | 0, _, h => exact .inl h
    | 1, _, h =>
      obtain ⟨x, _, rfl, hx, rfl⟩ := h
      rw [List.append_nil]
      exact .inr hx
  · intro h
    cases h with
    | inl h => exact ⟨0, ⟨Nat.le_refl 0, fun m _ => Nat.zero_le _⟩, h⟩
    | inr h =>
      refine ⟨1, ⟨Nat.zero_le 1, fun m hm => ?_⟩, u, [], (List.append_nil u).symm, h, rfl⟩
      cases hm
      exact Nat.le_max_right 0 1

def isLookFree : Regex → Bool
  | look _ => false
  | seq a b | alt a b => a.isLookFree && b.isLookFree
  | repeated _ _ r | group _ r => r.isLookFree
  | _ => true

theorem chain_of_copies {P : Text → Prop} {R : State → State → Prop}
    (hR : ∀ s z v, s.place.rest = z ++ v → P z → ∃ t, R s t ∧ t.place.rest = v) {n : Nat} {s : State}
    {z v : Text} (hs : s.place.rest = z ++ v) (hz : Copies P n z) :
    ∃ t, Chain R n s t ∧ t.place.rest = v := by
  induction n generalizing s z with
  | zero =>
    rw [show z = [] from hz] at hs
    exact ⟨s, rfl, hs⟩
  | succ n ih =>
    obtain ⟨x, y, rfl, hx, hy⟩ := hz
    rw [List.append_assoc] at hs
    obtain ⟨m, hm, hr⟩ := hR s x (y ++ v) hs hx
    obtain ⟨t, ht, hv⟩ := ih hr hy
    exact ⟨t, ⟨m, hm, ht⟩, hv⟩

theorem way_of_spells (hr : r.isLookFree = true) {s : State} {z v : Text}
    (hs : s.place.rest = z ++ v) (hz : Spells r z) : ∃ t, Way r s t ∧ t.place.rest = v := by
  induction r generalizing s z v with
  | empty =>
    rw [show z = [] from hz] at hs
    exact ⟨s, rfl, hs⟩
  | char k =>
    obtain ⟨d, hd, rfl⟩ := hz
    exact ⟨s.past d v, ⟨d, v, hs, hd, rfl⟩, rfl⟩
  | look l => cases hr
  | seq a b iha ihb =>
    rw [isLookFree, Bool.and_eq_true] at hr
    obtain ⟨x, y, rfl, hx, hy⟩ := hz
    rw [List.append_assoc] at hs
    obtain ⟨m, hm, hv⟩ := iha hr.1 hs hx
    obtain ⟨t, ht, hv'⟩ := ihb hr.2 hv hy
    exact ⟨t, ⟨m, hm, ht⟩, hv'⟩
  | alt a b iha ihb =>
    rw [isLookFree, Bool.and_eq_true] at hr
    cases hz with
    | inl hz =>
      obtain ⟨t, ht, hv⟩ := iha hr.1 hs hz
      exact ⟨t, .inl ht, hv⟩
    | inr hz =>
      obtain ⟨t, ht, hv⟩ := ihb hr.2 hs hz
      exact ⟨t, .inr ht, hv⟩
  | repeated eager k r ih =>
    obtain ⟨n, hk, hn⟩ := hz
    obtain ⟨t, ht, hv⟩ := chain_of_copies (fun s z v hs => ih hr hs) hs hn
    exact ⟨t, ⟨n, hk, ht⟩, hv⟩
  | group key r ih =>
    obtain ⟨t, ht, hv⟩ := ih hr hs hz
    exact ⟨t.record key s.place, ⟨t, ht, rfl⟩, hv⟩

end Unscramble.Regex
