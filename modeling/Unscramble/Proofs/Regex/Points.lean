import Mathlib.Logic.Function.Basic
import Unscramble.Proofs.Regex.Way
import Unscramble.Regex.Search

/-! Points that have been passed do no harm: what is passed without success is hopeless, and no
point is asked for while it is being tried. -/
namespace Unscramble.Regex
open Relation
variable {w : Text} {Q Q' : Nat → Prop} {L L' : Nat → Place → Prop} {A A' : Place → Prop}
  {K K' R S : State → State → Prop} {k l : Rest} {n : Nat} {c : CharClass}

/-- Where points of `Q` have been passed, what `L` says of them holds. -/
def Spent (w : Text) (Q : Nat → Prop) (L : Nat → Place → Prop) (passed : Passed) : Prop :=
  ∀ i p, p.IsIn w → (i, p.offset) ∈ passed → Q i → L i p

/-- What may come out at a state: a state that `K` leads to, or nothing where `A` does not hold.
Only points of `Q` are passed then. -/
def Settles (w : Text) (Q : Nat → Prop) (L : Nat → Place → Prop) (A : Place → Prop)
    (K : State → State → Prop) (s : State) (passed : Passed) : Option State × Passed → Prop
  | (some t, _) => K s t
  | (none, after) =>
    ¬A s.place ∧ Spent w Q L after ∧ ∀ i o, (i, o) ∈ after → (i, o) ∈ passed ∨ Q i

/-- The rest `k` goes on as `K` says, and does so from every place where `A` holds. -/
def Decides (w : Text) (Q : Nat → Prop) (L : Nat → Place → Prop) (A : Place → Prop)
    (K : State → State → Prop) (k : Rest) : Prop :=
  ∀ s passed, s.place.IsIn w → Spent w Q L passed → Settles w Q L A K s passed (k s passed)

theorem mem_insert_passed {passed : Passed} {i j o o' : Nat} :
    (i, o) ∈ passed.insert (j, o') ↔ (j = i ∧ o' = o) ∨ (i, o) ∈ passed := by
  simp [Std.TreeSet.mem_insert, compareLex_eq_eq, compareOn]

theorem mem_or_eq_of_mem_insert {passed : Passed} {i j o o' : Nat}
    (h : (i, o) ∈ passed.insert (j, o')) : (i, o) ∈ passed ∨ i = j :=
  (mem_insert_passed.1 h).elim (fun h => .inr h.1.symm) .inl

theorem update_of_owned (hn : ¬Q n) (f : Place → Prop) (i : Nat) (hi : Q i) :
    Function.update L n f i = L i :=
  Function.update_of_ne (fun he : i = n => hn (he ▸ hi)) _ _

theorem Spent.of_update {f : Place → Prop} {passed : Passed} (hn : ¬Q n)
    (h : Spent w (fun i => Q i ∨ i = n) (Function.update L n f) passed) : Spent w Q L passed := by
  intro i p hi hm hQ
  rw [← update_of_owned (L := L) hn f i hQ]
  exact h i p hi hm (.inl hQ)

theorem Decides.mono (h : Decides w Q L A K k) (hQ : ∀ i, Q i → Q' i)
    (hL : ∀ i, Q i → L' i = L i) (hA : ∀ p, A' p → A p) : Decides w Q' L' A' K k := by
  intro s passed hs hp
  have hq : Spent w Q L passed := fun i p hi hm hQi => hL i hQi ▸ hp i p hi hm (hQ i hQi)
  have ho := h s passed hs hq
  cases hk : k s passed with
  | mk r after =>
    rw [hk] at ho
    cases r with
    | some t => exact ho
    | none =>
      obtain ⟨hh, ha, hn⟩ := ho
      refine ⟨fun h => hh (hA _ h), fun i p hi hm hQi => ?_,
        fun i o hm => (hn i o hm).imp_right (hQ i)⟩
      by_cases hQ1 : Q i
      · rw [hL i hQ1]
        exact ha i p hi hm hQ1
      · exact hp i p hi ((hn i p.offset hm).resolve_right hQ1) hQi

theorem Decides.imp (h : Decides w Q L A K k) (hK : ∀ s t, K s t → K' s t) :
    Decides w Q L A K' k := by
  intro s passed hs hp
  have ho := h s passed hs hp
  cases hk : k s passed with
  | mk r after =>
    rw [hk] at ho
    cases r with
    | some t => exact hK s t ho
    | none => exact ho

theorem Decides.orElse (hk : Decides w Q L A K k) (hl : Decides w Q L A' K' l) :
    Decides w Q L (fun p => A p ∨ A' p) (fun s t => K s t ∨ K' s t) (orElse k l) := by
  intro s passed hs hp
  have ho := hk s passed hs hp
  unfold Regex.orElse
  cases he : k s passed with
  | mk r after =>
    rw [he] at ho
    cases r with
    | some t => exact .inl ho
    | none =>
      obtain ⟨hh, ha, hn⟩ := ho
      have ho' := hl s after hs ha
      simp only
      cases he' : l s after with
      | mk r' after' =>
        rw [he'] at ho'
        cases r' with
        | some t => exact .inr ho'
        | none =>
          obtain ⟨hh', ha', hn'⟩ := ho'
          exact ⟨not_or.2 ⟨hh, hh'⟩, ha', fun i o hm => (hn' i o hm).elim (hn i o) .inr⟩

theorem Decides.turnOrEnd (eager : Bool) (hk : Decides w Q L A K k)
    (hl : Decides w Q L A' K' l) :
    Decides w Q L (fun p => A p ∨ A' p) (fun s t => K s t ∨ K' s t) (turnOrEnd eager k l) := by
  cases eager with
  | true => exact hk.orElse hl
  | false =>
    have hA : (fun p => A p ∨ A' p) = fun p => A' p ∨ A p := by simp only [or_comm]
    have hK : (fun s t => K s t ∨ K' s t) = fun s t => K' s t ∨ K s t := by simp only [or_comm]
    rw [hA, hK]
    exact hl.orElse hk

theorem spent_insert {o : Nat} {passed : Passed} (hn : ¬Q n) (h : Spent w Q L passed) :
    Spent w Q L (passed.insert (n, o)) := by
  intro i p hi hm hQ
  exact h i p hi ((mem_insert_passed.1 hm).resolve_left fun he => hn (he.1 ▸ hQ)) hQ

theorem not_of_mem_insert {p q : Place} {passed : Passed} (hp : p.IsIn w) (hq : q.IsIn w)
    (hh : ¬A p) (hm : (n, q.offset) ∈ passed.insert (n, p.offset)) :
    (n, q.offset) ∈ passed ∨ ¬A q := by
  obtain ⟨-, ho⟩ | hm := mem_insert_passed.1 hm
  · exact .inr (Place.eq_of_offset_eq hp hq ho ▸ hh)
  · exact .inl hm

/-- A point is added to those of a rest. `A'` fails where it is passed without success. -/
theorem settles_update {s : State} {passed after : Passed} (hn : ¬Q n)
    (hp : Spent w (fun i => Q i ∨ i = n) (Function.update L n fun p => ¬A' p) passed)
    (hh : ¬A' s.place) (ha : Spent w Q L after)
    (hf : ∀ i o, (i, o) ∈ after → (i, o) ∈ passed ∨ Q i ∨ i = n)
    (hnew : ∀ q, q.IsIn w → (n, q.offset) ∈ after → (n, q.offset) ∈ passed ∨ ¬A' q) :
    Settles w (fun i => Q i ∨ i = n) (Function.update L n fun p => ¬A' p) A' K s passed
      (none, after) := by
  refine ⟨hh, fun i p hi hm hQi => ?_, hf⟩
  by_cases hin : i = n
  · subst hin
    rw [Function.update_self]
    refine (hnew p hi hm).elim (fun hm => ?_) id
    simpa using hp i p hi hm (.inr rfl)
  · have hQ1 := hQi.resolve_right hin
    exact update_of_owned hn _ i hQ1 ▸ ha i p hi hm hQ1

theorem Decides.once (hk : Decides w Q L A K k) (hn : ¬Q n) :
    Decides w (fun i => Q i ∨ i = n) (Function.update L n fun p => ¬A p) A K (once n k) := by
  intro s passed hs hp
  unfold Regex.once
  by_cases hc : (n, s.place.offset) ∈ passed
  · have hh := hp n s.place hs hc (.inr rfl)
    rw [Function.update_self] at hh
    rw [if_pos (Std.TreeSet.contains_iff_mem.2 hc)]
    exact ⟨hh, hp, fun i o hm => .inl hm⟩
  · have ho := hk s _ hs (spent_insert (o := s.place.offset) hn (hp.of_update hn))
    rw [if_neg fun h => hc (Std.TreeSet.contains_iff_mem.1 h)]
    cases he : k s (passed.insert (n, s.place.offset)) with
    | mk r after =>
      rw [he] at ho
      cases r with
      | some t => exact ho
      | none =>
        obtain ⟨hh, ha, hf⟩ := ho
        refine settles_update hn hp hh ha (fun i o hm => ?_) fun q hq hm => ?_
        · exact (hf i o hm).elim (fun hm => (mem_or_eq_of_mem_insert hm).imp_right .inr)
            fun hQ => .inr (.inl hQ)
        · exact not_of_mem_insert hs hq hh ((hf n _ hm).resolve_right hn)

/-- From some state at `p`, whatever its groups, `R` leads to a place where `A` holds. -/
def Through (R : State → State → Prop) (A : Place → Prop) (p : Place) : Prop :=
  ∃ s t, s.place = p ∧ R s t ∧ A t.place

theorem through_comp {p : Place} (h : Through (Comp R S) A p) : Through R (Through S A) p := by
  obtain ⟨s, t, hs, ⟨u, hu, ht⟩, hA⟩ := h
  exact ⟨s, u, hs, hu, u, t, rfl, ht, hA⟩

def Run (c : CharClass) (s t : State) : Prop := ∃ n, Chain (Way (.char c)) n s t

theorem run_iff {s t : State} : Run c s t ↔ s = t ∨ ∃ u, Way (.char c) s u ∧ Run c u t := by
  constructor
  · intro hw
    obtain ⟨n, h⟩ := hw
    cases n with
    | zero => exact .inl h
    | succ n =>
      obtain ⟨u, hu, hn⟩ := h
      exact .inr ⟨u, hu, n, hn⟩
  · intro h
    obtain rfl | ⟨u, hu, n, hn⟩ := h
    · exact ⟨0, rfl⟩
    · exact ⟨n + 1, u, hu, hn⟩

theorem run_self (s : State) : Run c s s := run_iff.2 (.inl rfl)

theorem place_of_way_char {s t : State} {d : Char} {u : Text}
    (hr : s.place.rest = d :: u) (h : Way (.char c) s t) :
    c.contains d = true ∧ t.place = s.place.past d u := by
  obtain ⟨d', u', hr', hc, rfl⟩ := h
  obtain ⟨rfl, rfl⟩ := List.cons.inj (hr.symm.trans hr')
  exact ⟨hc, rfl⟩

theorem Decides.one (hk : Decides w Q L A K k) (c : CharClass) :
    Decides w Q L (Through (Way (.char c)) A) (Comp (Way (.char c)) K) (one c k) := by
  intro s passed hs hp
  unfold Regex.one
  cases hr : s.place.rest with
  | nil =>
    refine ⟨?_, hp, fun i o hm => .inl hm⟩
    intro h
    obtain ⟨s', t, hs', ⟨d, v, hd, -⟩, -⟩ := h
    simp [hs', hr] at hd
  | cons d v =>
    by_cases hc : c.contains d = true
    · have ho := hk (s.past d v) passed (Place.past_isIn hs hr) hp
      simp only [hc, if_true]
      cases he : k (s.past d v) passed with
      | mk r after =>
        rw [he] at ho
        cases r with
        | some t => exact ⟨s.past d v, ⟨d, v, hr, hc, rfl⟩, ho⟩
        | none =>
          obtain ⟨hh, ha, hf⟩ := ho
          refine ⟨?_, ha, hf⟩
          intro h
          obtain ⟨s', t, hs', ht, hA⟩ := h
          rw [(place_of_way_char (hs' ▸ hr) ht).2, hs'] at hA
          exact hh hA
    · simp only [if_neg hc]
      refine ⟨?_, hp, fun i o hm => .inl hm⟩
      intro h
      obtain ⟨s', t, hs', ht, -⟩ := h
      exact hc (place_of_way_char (hs' ▸ hr) ht).1

theorem not_through_run_nil {p : Place} (hr : p.rest = []) (h : ¬A p) : ¬Through (Run c) A p := by
  intro h
  obtain ⟨s, t, rfl, ht, hA⟩ := h
  obtain rfl | ⟨u, ⟨d, v, hd, -⟩, -⟩ := run_iff.1 ht
  · exact h hA
  · simp [hr] at hd

theorem not_through_run_cons {p : Place} {d : Char} {u : Text} (hr : p.rest = d :: u) (h : ¬A p)
    (hn : c.contains d = true → ¬Through (Run c) A (p.past d u)) : ¬Through (Run c) A p := by
  intro h
  obtain ⟨s, t, rfl, ht, hA⟩ := h
  obtain rfl | ⟨v, hv, hu⟩ := run_iff.1 ht
  · exact h hA
  · obtain ⟨hc, hp⟩ := place_of_way_char hr hv
    exact hn hc ⟨v, t, hp, hu, hA⟩

/-- Where point `n` has been passed from `p` on, `A` fails. Before `p` it may still be tried. -/
def RunSpent (w : Text) (n : Nat) (A : Place → Prop) (p : Place) (passed : Passed) : Prop :=
  ∀ q, q.IsIn w → p.offset ≤ q.offset → (n, q.offset) ∈ passed → ¬A q

theorem RunSpent.past {p : Place} {passed : Passed} {d : Char} {u : Text}
    (h : RunSpent w n A p passed) :
    RunSpent w n A (p.past d u) (passed.insert (n, p.offset)) := by
  intro q hq hle hm
  have hlt := Place.offset_lt_past p d u
  obtain ⟨-, he⟩ | hm := mem_insert_passed.1 hm
  · omega
  · exact h q hq (by omega) hm

theorem walk_ends (t : Text) (s : State) (ends : List State) (passed : Passed)
    (hr : s.place.rest = t) (hs : s.place.IsIn w) :
    (∀ u ∈ ends, u ∈ (walk n c s ends passed t).1) ∧
      ∀ u ∈ (walk n c s ends passed t).1, u ∈ ends ∨ Run c s u ∧ u.place.IsIn w := by
  have hcons (s : State) (hs : s.place.IsIn w) (u : State) (hu : u ∈ s :: ends) :
      u ∈ ends ∨ Run c s u ∧ u.place.IsIn w := by
    obtain rfl | hu := List.mem_cons.1 hu
    · exact .inr ⟨run_self u, hs⟩
    · exact .inl hu
  induction t generalizing s ends passed with
  | nil =>
    simp only [walk]
    split
    · exact ⟨fun u hu => hu, fun u hu => .inl hu⟩
    · exact ⟨fun u hu => .tail s hu, hcons s hs⟩
  | cons d t ih =>
    simp only [walk]
    split
    · exact ⟨fun u hu => hu, fun u hu => .inl hu⟩
    · split
      next hc =>
        obtain ⟨h1, h2⟩ := ih (s.past d t) (s :: ends) (passed.insert (n, s.place.offset)) rfl
          (Place.past_isIn hs hr) fun s' hs' u hu => by
            obtain rfl | hu := List.mem_cons.1 hu
            · exact .inr ⟨run_self u, hs'⟩
            · exact .inl hu
        refine ⟨fun u hu => h1 u (.tail s hu), fun u hu => ?_⟩
        obtain hu | ⟨hu, hi⟩ := h2 u hu
        · exact hcons s hs u hu
        · exact .inr ⟨run_iff.2 (.inr ⟨_, ⟨d, t, hr, hc, rfl⟩, hu⟩), hi⟩
      next => exact ⟨fun u hu => .tail s hu, hcons s hs⟩

theorem walk_passes (t : Text) (s : State) (ends : List State) (passed : Passed) {i o : Nat}
    (h : (i, o) ∈ (walk n c s ends passed t).2) : (i, o) ∈ passed ∨ i = n := by
  induction t generalizing s ends passed with
  | nil =>
    simp only [walk] at h
    split at h
    · exact .inl h
    · exact mem_or_eq_of_mem_insert h
  | cons d t ih =>
    simp only [walk] at h
    split at h
    · exact .inl h
    · split at h
      · exact (ih _ _ _ h).elim mem_or_eq_of_mem_insert .inr
      · exact mem_or_eq_of_mem_insert h

/-- If none of the ends of a walk leads on, no place that the walk has been at does. -/
theorem walk_hopeless (t : Text) (s : State) (ends : List State) (passed : Passed)
    (hr : s.place.rest = t) (hs : s.place.IsIn w)
    (hp : RunSpent w n (Through (Run c) A) s.place passed)
    (he : ∀ u ∈ (walk n c s ends passed t).1, ¬A u.place) :
    ¬Through (Run c) A s.place ∧
      ∀ q, q.IsIn w → (n, q.offset) ∈ (walk n c s ends passed t).2 →
        (n, q.offset) ∈ passed ∨ ¬Through (Run c) A q := by
  induction t generalizing s ends passed with
  | nil =>
    simp only [walk] at he ⊢
    split at he
    next hc =>
      rw [if_pos hc]
      exact ⟨hp _ hs (Nat.le_refl _) (Std.TreeSet.contains_iff_mem.1 hc), fun q _ hm => .inl hm⟩
    next hc =>
      rw [if_neg hc]
      have hh := not_through_run_nil (c := c) hr (he s (.head _))
      exact ⟨hh, fun q hq hm => not_of_mem_insert hs hq hh hm⟩
  | cons d t ih =>
    simp only [walk] at he ⊢
    split at he
    next hc =>
      rw [if_pos hc]
      exact ⟨hp _ hs (Nat.le_refl _) (Std.TreeSet.contains_iff_mem.1 hc), fun q _ hm => .inl hm⟩
    next hc =>
      rw [if_neg hc]
      split at he
      next hd =>
        have hi := Place.past_isIn hs hr
        rw [if_pos hd]
        have hself := he s ((walk_ends t (s.past d t) (s :: ends) _ rfl hi).1 s (.head _))
        obtain ⟨h1, h2⟩ := ih (s.past d t) (s :: ends) _ rfl hi hp.past he
        have hh : ¬Through (Run c) A s.place := not_through_run_cons hr hself fun _ => h1
        exact ⟨hh, fun q hq hm => (h2 q hq hm).elim (not_of_mem_insert hs hq hh) .inr⟩
      next hd =>
        rw [if_neg hd]
        have hh : ¬Through (Run c) A s.place :=
          not_through_run_cons hr (he s (.head _)) fun hc' => absurd hc' hd
        exact ⟨hh, fun q hq hm => not_of_mem_insert hs hq hh hm⟩

theorem Decides.firstOf (hk : Decides w Q L A K k) (ss : List State) (passed : Passed)
    (hs : ∀ s ∈ ss, s.place.IsIn w) (hp : Spent w Q L passed) :
    match firstOf k ss passed with
    | (some t, _) => ∃ s ∈ ss, K s t
    | (none, after) =>
      (∀ s ∈ ss, ¬A s.place) ∧ Spent w Q L after ∧
        ∀ i o, (i, o) ∈ after → (i, o) ∈ passed ∨ Q i := by
  induction ss generalizing passed with
  | nil => exact ⟨fun s hs => absurd hs (by simp), hp, fun i o hm => .inl hm⟩
  | cons s ss ih =>
    have ho := hk s passed (hs s (.head _)) hp
    unfold Regex.firstOf
    cases he : k s passed with
    | mk r after =>
      rw [he] at ho
      cases r with
      | some t => exact ⟨s, .head _, ho⟩
      | none =>
        obtain ⟨hh, ha, hf⟩ := ho
        have hi := ih after (fun u hu => hs u (.tail s hu)) ha
        simp only
        cases hfo : Regex.firstOf k ss after with
        | mk r' after' =>
          rw [hfo] at hi
          cases r' with
          | some t =>
            obtain ⟨u, hu, hK⟩ := hi
            exact ⟨u, .tail s hu, hK⟩
          | none =>
            obtain ⟨hh', ha', hf'⟩ := hi
            refine ⟨fun u hu => ?_, ha', fun i o hm => (hf' i o hm).elim (hf i o) .inr⟩
            exact (List.mem_cons.1 hu).elim (fun h => h ▸ hh) (hh' u)

theorem lazyWalk_eq (s : State) (passed : Passed) (t : Text) :
    lazyWalk n c k s passed t =
      if passed.contains (n, s.place.offset) then (none, passed)
      else match k s (passed.insert (n, s.place.offset)) with
        | (some u, after) => (some u, after)
        | (none, after) => match t with
          | [] => (none, after)
          | d :: t => if c.contains d then lazyWalk n c k (s.past d t) after t else (none, after) := by
  cases h : k s (passed.insert (n, s.place.offset)) with
  | mk u after =>
    cases u with
    | none => cases t <;> simp only [lazyWalk, h]
    | some u => cases t <;> simp only [lazyWalk, h]

/-- What may come out where a rest is tried behind more and more of a run. -/
def WalkSettles (w : Text) (Q : Nat → Prop) (L : Nat → Place → Prop) (n : Nat) (c : CharClass)
    (A : Place → Prop) (K : State → State → Prop) (s : State) (passed : Passed) :
    Option State × Passed → Prop
  | (some u, _) => Comp (Run c) K s u
  | (none, after) =>
    ¬Through (Run c) A s.place ∧ Spent w Q L after ∧
      (∀ i o, (i, o) ∈ after → (i, o) ∈ passed ∨ Q i ∨ i = n) ∧
      ∀ q, q.IsIn w → (n, q.offset) ∈ after → (n, q.offset) ∈ passed ∨ ¬Through (Run c) A q

theorem WalkSettles.past {s : State} {passed after : Passed} {d : Char} {t : Text}
    {o : Option State × Passed} (hs : s.place.IsIn w) (hr : s.place.rest = d :: t)
    (hd : c.contains d = true) (hA : ¬A s.place)
    (hframe : ∀ i o, (i, o) ∈ after → (i, o) ∈ passed ∨ Q i ∨ i = n)
    (hmem : ∀ q : Place, (n, q.offset) ∈ after → (n, q.offset) ∈ passed.insert (n, s.place.offset))
    (h : WalkSettles w Q L n c A K (s.past d t) after o) :
    WalkSettles w Q L n c A K s passed o := by
  obtain ⟨r, after'⟩ := o
  cases r with
  | some u =>
    obtain ⟨v, hv, hK⟩ := h
    exact ⟨v, run_iff.2 (.inr ⟨_, ⟨d, t, hr, hd, rfl⟩, hv⟩), hK⟩
  | none =>
    obtain ⟨hh, ha, hf, hn⟩ := h
    have hh' : ¬Through (Run c) A s.place := not_through_run_cons hr hA fun _ => hh
    refine ⟨hh', ha, fun i o hm => (hf i o hm).elim (hframe i o) .inr, fun q hq hm => ?_⟩
    exact (hn q hq hm).elim (fun h => not_of_mem_insert hs hq hh' (hmem q h)) .inr

theorem Decides.lazyWalk (hk : Decides w Q L A K k) (hn : ¬Q n) (t : Text)
    (s : State) (passed : Passed) (hr : s.place.rest = t) (hs : s.place.IsIn w)
    (hp : Spent w Q L passed) (hrun : RunSpent w n (Through (Run c) A) s.place passed) :
    WalkSettles w Q L n c A K s passed (lazyWalk n c k s passed t) := by
  rw [lazyWalk_eq]
  by_cases hc : (n, s.place.offset) ∈ passed
  · rw [if_pos (Std.TreeSet.contains_iff_mem.2 hc)]
    exact ⟨hrun _ hs (Nat.le_refl _) hc, hp, fun i o hm => .inl hm, fun q _ hm => .inl hm⟩
  · rw [if_neg fun h => hc (Std.TreeSet.contains_iff_mem.1 h)]
    have ho := hk s (passed.insert (n, s.place.offset)) hs (spent_insert hn hp)
    cases he : k s (passed.insert (n, s.place.offset)) with
    | mk r after =>
      rw [he] at ho
      cases r with
      | some u => exact ⟨s, run_self s, ho⟩
      | none =>
        obtain ⟨hA, ha, hf⟩ := ho
        -- what `k` leaves behind is passed already, new at this place, or its own
        have hframe (i o : Nat) (hm : (i, o) ∈ after) : (i, o) ∈ passed ∨ Q i ∨ i = n :=
          (hf i o hm).elim (fun hm => (mem_or_eq_of_mem_insert hm).imp_right .inr)
            fun hQ => .inr (.inl hQ)
        have hmem (q : Place) (hm : (n, q.offset) ∈ after) :
            (n, q.offset) ∈ passed.insert (n, s.place.offset) := (hf n _ hm).resolve_right hn
        have hstop (hh : ¬Through (Run c) A s.place) :
            WalkSettles w Q L n c A K s passed (none, after) :=
          ⟨hh, ha, hframe, fun q hq hm => not_of_mem_insert hs hq hh (hmem q hm)⟩
        cases t with
        | nil => exact hstop (not_through_run_nil hr hA)
        | cons d t =>
          simp only
          by_cases hd : c.contains d = true
          · rw [if_pos hd]
            exact (Decides.lazyWalk hk hn t (s.past d t) after rfl (Place.past_isIn hs hr) ha
              fun q hq hle hm => hrun.past q hq hle (hmem q hm)).past hs hr hd hA hframe hmem
          · rw [if_neg hd]
            exact hstop (not_through_run_cons hr hA fun hc' => absurd hc' hd)

theorem Decides.charTurns (eager : Bool) (c : CharClass) (hk : Decides w Q L A K k)
    (hn : ¬Q n) :
    Decides w (fun i => Q i ∨ i = n) (Function.update L n fun p => ¬Through (Run c) A p)
      (Through (Run c) A) (Comp (Run c) K) (charTurns n eager c k) := by
  intro s passed hs hp
  have hq := hp.of_update hn
  have hrun : RunSpent w n (Through (Run c) A) s.place passed := fun q hq _ hm => by
    simpa using hp n q hq hm (.inr rfl)
  unfold Regex.charTurns
  cases eager with
  | false =>
    have hw := hk.lazyWalk (c := c) hn _ s passed rfl hs hq hrun
    simp only [Bool.false_eq_true, if_false]
    cases hl : Regex.lazyWalk n c k s passed s.place.rest with
    | mk r after =>
      rw [hl] at hw
      cases r with
      | some u => exact hw
      | none => exact settles_update hn hp hw.1 hw.2.1 hw.2.2.1 hw.2.2.2
  | true =>
    simp only [if_true]
    obtain ⟨-, hends⟩ := walk_ends (n := n) (c := c) _ s [] passed rfl hs
    have hpass {i o : Nat} := walk_passes (n := n) (c := c) s.place.rest s [] passed (i := i) (o := o)
    have hless := walk_hopeless (c := c) (A := A) s.place.rest s [] passed rfl hs hrun
    cases hw : walk n c s [] passed s.place.rest with
    | mk ends walked =>
      rw [hw] at hends hpass hless
      have hrun (u : State) (hu : u ∈ ends) : Run c s u ∧ u.place.IsIn w :=
        (hends u hu).resolve_left (by simp)
      have hq' : Spent w Q L walked := by
        intro i p hi hm hQ
        exact hq i p hi ((hpass hm).resolve_right fun he : i = n => hn (he ▸ hQ)) hQ
      have hfo := hk.firstOf ends walked (fun u hu => (hrun u hu).2) hq'
      simp only
      cases hf : Regex.firstOf k ends walked with
      | mk r after =>
        rw [hf] at hfo
        cases r with
        | some t =>
          obtain ⟨u, hu, hK⟩ := hfo
          exact ⟨u, (hrun u hu).1, hK⟩
        | none =>
          obtain ⟨hh, ha, hfr⟩ := hfo
          obtain ⟨h1, h2⟩ := hless hh
          refine settles_update hn hp h1 ha (fun i o hm => ?_) fun q hq hm => ?_
          · exact (hfr i o hm).elim (fun h => (hpass h).imp_right .inr) fun h => .inr (.inl h)
          · exact h2 q hq ((hfr n _ hm).resolve_right hn)

end Unscramble.Regex
