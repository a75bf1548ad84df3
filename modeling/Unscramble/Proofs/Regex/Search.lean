import Unscramble.Proofs.Regex.Points

/-! A search finds a way if there is one, at the leftmost place that has one. -/
namespace Unscramble.Regex
open Relation
variable {w : Text} {R S : State → State → Prop} {n m o : Nat}

/-- In front of any rest, `f` matches what `R` says, with the points from `n` up to `m`. -/
def Realises (w : Text) (R : State → State → Prop) (n m : Nat) (f : Rest → Rest) : Prop :=
  n ≤ m ∧ ∀ (Q : Nat → Prop) L A, (∀ i, n ≤ i → i < m → ¬Q i) →
    ∃ L', (∀ i, Q i → L' i = L i) ∧ ∀ K k, Decides w Q L A K k →
      Decides w (fun i => Q i ∨ n ≤ i ∧ i < m) L' (Through R A) (Comp R K) (f k)

theorem Realises.seq {f g : Rest → Rest} (hf : Realises w R n m f) (hg : Realises w S m o g) :
    Realises w (Comp R S) n o fun k => f (g k) := by
  refine ⟨Nat.le_trans hf.1 hg.1, fun Q L A hQ => ?_⟩
  have hnm := hf.1
  have hmo := hg.1
  obtain ⟨L1, h1, hd1⟩ := hg.2 Q L A fun i hi hio => hQ i (by omega) hio
  obtain ⟨L2, h2, hd2⟩ := hf.2 (fun i => Q i ∨ m ≤ i ∧ i < o) L1 (Through S A) fun i hi him => by
    intro hq
    cases hq with
    | inl hq => exact hQ i hi (by omega) hq
    | inr hq => omega
  refine ⟨L2, fun i hi => (h2 i (.inl hi)).trans (h1 i hi), fun K k hk => ?_⟩
  rw [comp_assoc]
  refine (hd2 _ _ (hd1 K k hk)).mono (fun i hi => ?_) (fun _ _ => rfl) fun p => through_comp
  obtain (hi | hi) | hi := hi
  · exact .inl hi
  · exact .inr ⟨by omega, hi.2⟩
  · exact .inr ⟨hi.1, by omega⟩

theorem Realises.of_decides {f : Rest → Rest} (h : ∀ Q L A K k, Decides w Q L A K k →
    Decides w Q L (Through R A) (Comp R K) (f k)) : Realises w R n n f :=
  ⟨Nat.le_refl n, fun Q L A _ => ⟨L, fun _ _ => rfl, fun K k hk =>
    (h Q L A K k hk).mono (fun _ => .inl) (fun _ _ => rfl) fun _ => id⟩⟩

theorem Realises.empty : Realises w Eq n n fun k => k := by
  refine .of_decides fun Q L A K k hk => ?_
  rw [eq_comp]
  refine hk.mono (fun _ => id) (fun _ _ => rfl) fun p hp => ?_
  obtain ⟨s, t, rfl, rfl, hA⟩ := hp
  exact hA

theorem Realises.char (c : CharClass) : Realises w (Way (.char c)) n n (one c) :=
  .of_decides fun _ _ _ _ _ hk => hk.one c

theorem Realises.look (l : Look) :
    Realises w (Way (.look l)) n n fun k s passed =>
      if s.place.meets l then k s passed else (none, passed) := by
  refine .of_decides fun Q L A K k hk s passed hs hp => ?_
  have ho := hk s passed hs hp
  by_cases hl : s.place.meets l = true
  · simp only [hl, if_true]
    cases he : k s passed with
    | mk r after =>
      rw [he] at ho
      cases r with
      | some t => exact ⟨s, ⟨hl, rfl⟩, ho⟩
      | none =>
        refine ⟨?_, ho.2⟩
        intro h
        obtain ⟨s', t, hs', ⟨-, rfl⟩, hA⟩ := h
        exact ho.1 (hs' ▸ hA)
  · simp only [if_neg hl]
    refine ⟨?_, hp, fun i o hm => .inl hm⟩
    intro h
    obtain ⟨s', t, hs', ⟨hm, -⟩, -⟩ := h
    exact hl (hs' ▸ hm)

theorem Realises.run (eager : Bool) (c : CharClass) :
    Realises w (Run c) n (n + 1) (charTurns n eager c) := by
  refine ⟨Nat.le_succ n, fun Q L A hQ => ?_⟩
  have hn : ¬Q n := hQ n (Nat.le_refl n) (Nat.lt_succ_self n)
  refine ⟨Function.update L n fun p => ¬Through (Run c) A p, update_of_owned hn _, fun K k hk => ?_⟩
  refine (hk.charTurns eager c hn).mono (fun i hi => ?_) (fun _ _ => rfl) fun _ => id
  exact hi.imp_right fun he => by omega

theorem Realises.group {r : Regex} {f : Rest → Rest} (key : GroupKey)
    (hf : Realises w (Way r) n m f) :
    Realises w (Way (.group key r)) n m fun k s => f (fun t => k (t.record key s.place)) s := by
  refine ⟨hf.1, fun Q L A hQ => ?_⟩
  obtain ⟨L1, h1, hd⟩ := hf.2 Q L A hQ
  refine ⟨L1, h1, fun K k hk s passed hs hp => ?_⟩
  -- the rest inside depends on where the group begins
  have hinner : Decides w Q L A (fun t u => K (t.record key s.place) u)
      fun t => k (t.record key s.place) := fun t passed ht hp' => by
    have ho := hk (t.record key s.place) passed ht hp'
    simp only
    cases he : k (t.record key s.place) passed with
    | mk r after =>
      rw [he] at ho
      cases r <;> exact ho
  have ho := hd _ _ hinner s passed hs hp
  simp only
  cases he : f (fun t => k (t.record key s.place)) s passed with
  | mk r after =>
    rw [he] at ho
    cases r with
    | some t =>
      obtain ⟨u, hu, hK⟩ := ho
      exact ⟨u.record key s.place, ⟨u, hu, rfl⟩, hK⟩
    | none =>
      refine ⟨?_, ho.2⟩
      intro h
      obtain ⟨s', t, hs', ⟨u, hu, rfl⟩, hA⟩ := h
      exact ho.1 ⟨s', u, hs', hu, hA⟩

theorem Realises.alt {f g : Rest → Rest} (hf : Realises w R n m f) (hg : Realises w S m o g) :
    Realises w (fun s t => R s t ∨ S s t) n (o + 1) fun k =>
      orElse (f (once o k)) (g (once o k)) := by
  have hnm := hf.1
  have hmo := hg.1
  refine ⟨by omega, fun Q L A hQ => ?_⟩
  have ho : ¬Q o := hQ o (by omega) (Nat.lt_succ_self o)
  obtain ⟨L1, h1, hd1⟩ := hf.2 (fun i => Q i ∨ i = o) (Function.update L o fun p => ¬A p) A
    fun i hi him => by
      intro hq
      cases hq with
      | inl hq => exact hQ i hi (by omega) hq
      | inr hq => omega
  obtain ⟨L2, h2, hd2⟩ := hg.2 (fun i => (Q i ∨ i = o) ∨ n ≤ i ∧ i < m) L1 A
    fun i hi hio => by
      intro hq
      obtain (hq | hq) | hq := hq
      · exact hQ i (by omega) (by omega) hq
      · omega
      · omega
  refine ⟨L2, fun i hi => ?_, fun K k hk => ?_⟩
  · rw [h2 i (.inl (.inl hi)), h1 i (.inl hi), update_of_owned ho _ i hi]
  · have hjoin := hk.once ho
    have hleft : Decides w (fun i => ((Q i ∨ i = o) ∨ n ≤ i ∧ i < m) ∨ m ≤ i ∧ i < o) L2
        (Through R A) (Comp R K) (f (once o k)) :=
      (hd1 K _ hjoin).mono (fun i hi => .inl hi) h2 fun _ => id
    have hright := hd2 K _ (hjoin.mono (fun i hi => .inl hi) h1 fun _ => id)
    refine ((hleft.orElse hright).mono (fun i hi => ?_) (fun _ _ => rfl) fun p hp => ?_).imp
      fun s t hst => ?_
    · obtain ((hi | hi) | hi) | hi := hi
      · exact .inl hi
      all_goals exact .inr (by omega)
    · obtain ⟨s, t, hs, hR | hS, hA⟩ := hp
      · exact .inl ⟨s, t, hs, hR, hA⟩
      · exact .inr ⟨s, t, hs, hS, hA⟩
    · obtain ⟨u, hu, hK⟩ | ⟨u, hu, hK⟩ := hst
      · exact ⟨u, .inl hu, hK⟩
      · exact ⟨u, .inr hu, hK⟩

/-- A part in front of a rest that is taken up once at most from a place. -/
theorem Realises.joined {f : Rest → Rest} (hf : Realises w R (n + 1) m f) :
    Realises w R n m fun k => f (once n k) := by
  have hnm := hf.1
  refine ⟨by omega, fun Q L A hQ => ?_⟩
  have hn : ¬Q n := hQ n (Nat.le_refl n) hnm
  obtain ⟨L1, h1, hd⟩ := hf.2 (fun i => Q i ∨ i = n) (Function.update L n fun p => ¬A p) A
    fun i hi him => by
      intro hq
      cases hq with
      | inl hq => exact hQ i (by omega) him hq
      | inr hq => omega
  refine ⟨L1, fun i hi => (h1 i (.inl hi)).trans (update_of_owned hn _ i hi), fun K k hk => ?_⟩
  refine (hd K _ (hk.once hn)).mono (fun i hi => ?_) (fun _ _ => rfl) fun _ => id
  obtain (hi | hi) | hi := hi
  · exact .inl hi
  · exact .inr (by omega)
  · exact .inr (by omega)

theorem copiesOnto_eq_append (number : Nat → (Rest → Rest) × Nat) (others : List (Rest → Rest))
    (count n : Nat) : copiesOnto number others count n =
      ((copiesOnto number [] count n).1 ++ others, (copiesOnto number [] count n).2) := by
  induction count generalizing others n with
  | zero => rfl
  | succ count ih =>
    simp only [copiesOnto]
    rw [ih ((number n).1 :: others), ih [(number n).1]]
    simp only [List.append_assoc, List.singleton_append]

theorem inTurn_copies_succ (number : Nat → (Rest → Rest) × Nat) (count n : Nat) (k : Rest) :
    inTurn (copiesOnto number [] (count + 1) n).1 k =
      (number n).1 (inTurn (copiesOnto number [] count (number n).2).1 k) := by
  simp only [copiesOnto]
  rw [copiesOnto_eq_append]
  simp only [inTurn, List.foldl_append, List.foldl_cons, List.foldl_nil]

theorem upTo_copies_succ (eager : Bool) (number : Nat → (Rest → Rest) × Nat) (count n : Nat)
    (k : Rest) : upTo eager (copiesOnto number [] (count + 1) n).1 k =
      turnOrEnd eager
        ((number n).1 (upTo eager (copiesOnto number [] count (number n).2).1 k)) k := by
  simp only [copiesOnto]
  rw [copiesOnto_eq_append]
  simp only [upTo, List.foldl_append, List.foldl_cons, List.foldl_nil]

theorem copies_succ_next (number : Nat → (Rest → Rest) × Nat) (count n : Nat) :
    (copiesOnto number [] (count + 1) n).2 = (copiesOnto number [] count (number n).2).2 := by
  simp only [copiesOnto]
  rw [copiesOnto_eq_append]

section
variable {number : Nat → (Rest → Rest) × Nat}
  (hf : ∀ n, Realises w R n (number n).2 (number n).1)
include hf

theorem Realises.inTurn (count n : Nat) :
    Realises w (Chain R count) n (copiesOnto number [] count n).2
      (inTurn (copiesOnto number [] count n).1) := by
  induction count generalizing n with
  | zero => exact .empty
  | succ count ih =>
    have he : Regex.inTurn (copiesOnto number [] (count + 1) n).1 = fun k =>
      (number n).1 (Regex.inTurn (copiesOnto number [] count (number n).2).1 k) :=
        funext fun k => inTurn_copies_succ number count n k
    rw [he, copies_succ_next]
    exact (hf n).seq (ih (number n).2)

theorem Realises.upTo (eager : Bool) (count n : Nat) :
    Realises w (fun s t => ∃ i, i ≤ count ∧ Chain R i s t) n (copiesOnto number [] count n).2
      (upTo eager (copiesOnto number [] count n).1) := by
  induction count generalizing n with
  | zero =>
    have he : (fun s t => ∃ i, i ≤ 0 ∧ Chain R i s t) = Eq := by
      simp only [Nat.le_zero, exists_eq_left, Chain]
    rw [he]
    exact .empty
  | succ count ih =>
    have hn := (hf n).1
    have hm := (ih (number n).2).1
    rw [copies_succ_next]
    refine ⟨by omega, fun Q L A hQ => ?_⟩
    obtain ⟨L1, h1, hd1⟩ := (ih (number n).2).2 Q L A fun i hi him => hQ i (by omega) him
    obtain ⟨L2, h2, hd2⟩ := (hf n).2
      (fun i => Q i ∨ (number n).2 ≤ i ∧ i < (copiesOnto number [] count (number n).2).2) L1
      (Through (fun s t => ∃ i, i ≤ count ∧ Chain R i s t) A) fun i hi him => by
        intro hq
        cases hq with
        | inl hq => exact hQ i hi (by omega) hq
        | inr hq => omega
    refine ⟨L2, fun i hi => (h2 i (.inl hi)).trans (h1 i hi), fun K k hk => ?_⟩
    rw [upTo_copies_succ]
    have hturn := hd2 _ _ (hd1 K k hk)
    have hchoice := hturn.turnOrEnd eager (hk.mono (fun i hi => .inl (.inl hi))
      (fun i hi => (h2 i (.inl hi)).trans (h1 i hi)) fun _ => id)
    refine (hchoice.mono (fun i hi => ?_) (fun _ _ => rfl) fun p hp => ?_).imp fun s t hst => ?_
    · obtain (hi | hi) | hi := hi
      · exact .inl hi
      all_goals exact .inr (by omega)
    · obtain ⟨s, t, hs, ⟨i, hi, hc⟩, hA⟩ := hp
      cases i with
      | zero =>
        cases hc
        exact .inr (hs ▸ hA)
      | succ i =>
        obtain ⟨u, hu, hc⟩ := hc
        exact .inl ⟨s, u, hs, hu, u, t, rfl, ⟨i, by omega, hc⟩, hA⟩
    · obtain ⟨u, hu, v, ⟨i, hi, hc⟩, hK⟩ | hK := hst
      · exact ⟨v, ⟨i + 1, by omega, u, hu, hc⟩, hK⟩
      · exact ⟨s, ⟨0, by omega, rfl⟩, hK⟩

end

/-- As many turns as the limits allow, some at least and then some more at choice. -/
theorem exists_allows_iff {l m : Nat} (h : l < m) {s t : State} :
    (∃ i, Times.Allows ⟨l, some m⟩ i ∧ Chain R i s t) ↔
      Comp (Chain R l) (fun s t => ∃ i, i ≤ m - l ∧ Chain R i s t) s t := by
  constructor
  · intro h
    obtain ⟨i, ⟨hl, hm⟩, hc⟩ := h
    have hi : i ≤ m := by simpa [Nat.max_eq_right (Nat.le_of_lt h)] using hm m rfl
    obtain ⟨j, rfl⟩ := Nat.exists_eq_add_of_le hl
    rw [chain_add] at hc
    obtain ⟨u, hu, hc⟩ := hc
    exact ⟨u, hu, j, by simp only at hi ⊢; omega, hc⟩
  · intro h
    obtain ⟨u, hu, j, hj, hc⟩ := h
    refine ⟨l + j, ⟨Nat.le_add_right l j, fun m' hm' => ?_⟩, ?_⟩
    · cases hm'
      simp only
      omega
    · rw [chain_add]
      exact ⟨u, hu, hc⟩

theorem exists_allows_of_le {l m : Nat} (h : m ≤ l) {s t : State} :
    (∃ i, Times.Allows ⟨l, some m⟩ i ∧ Chain R i s t) ↔ Chain R l s t := by
  constructor
  · intro h
    obtain ⟨i, ⟨hl, hm⟩, hc⟩ := h
    have hi : i ≤ l := by simpa [Nat.max_eq_left h] using hm m rfl
    rwa [Nat.le_antisymm hi hl] at hc
  · intro hc
    exact ⟨l, ⟨Nat.le_refl l, fun m' _ => Nat.le_max_left l m'⟩, hc⟩

theorem exists_allows_some {l : Nat} {c : CharClass} {s t : State} :
    (∃ i, Times.Allows ⟨l, none⟩ i ∧ Chain (Way (.char c)) i s t) ↔
      Comp (Chain (Way (.char c)) l) (Run c) s t := by
  constructor
  · intro h
    obtain ⟨i, ⟨hl, -⟩, hc⟩ := h
    obtain ⟨j, rfl⟩ := Nat.exists_eq_add_of_le hl
    rw [chain_add] at hc
    obtain ⟨u, hu, hc⟩ := hc
    exact ⟨u, hu, j, hc⟩
  · intro h
    obtain ⟨u, hu, j, hc⟩ := h
    refine ⟨l + j, ⟨Nat.le_add_right l j, fun m hm => nomatch hm⟩, ?_⟩
    rw [chain_add]
    exact ⟨u, hu, hc⟩

theorem Realises.congr {f : Rest → Rest} (h : Realises w R n m f)
    (hR : ∀ s t, R s t ↔ S s t) : Realises w S n m f := by
  have he : R = S := funext₂ fun s t => propext (hR s t)
  exact he ▸ h

theorem Realises.turns (bound : Nat) (eager : Bool) (k : Times) (r : Regex)
    (hl : (k.most.isSome || r.charClass?.isSome) = true)
    (hr : ∀ n, Realises w (Way r) n (matcher bound r n).2 (matcher bound r n).1) (n : Nat) :
    Realises w (Way (.repeated eager k r)) n (turns bound eager k r (matcher bound r) n).2
      (turns bound eager k r (matcher bound r) n).1 := by
  obtain ⟨l, most⟩ := k
  cases most with
  | none =>
    cases r with
    | char c =>
      cases l with
      | zero =>
        refine (Realises.run eager c).congr fun s t => ?_
        rw [Way, exists_allows_some, Chain, eq_comp]
      | succ l =>
        have hturns := (Realises.inTurn hr l n).seq
          ((Realises.char (w := w) (n := (copiesOnto (matcher bound (.char c)) [] l n).2) c).seq
            (Realises.run eager c))
        refine hturns.congr fun s t => ?_
        rw [Way, exists_allows_some, chain_add, chain_one, comp_assoc]
    | _ => cases hl
  | some m =>
    by_cases hm : m ≤ l
    · simp only [Regex.turns, if_pos hm]
      refine (Realises.inTurn hr l n).congr fun s t => ?_
      rw [Way, exists_allows_of_le hm]
    · simp only [Regex.turns, if_neg hm]
      refine ((Realises.inTurn hr l n).seq
        (Realises.upTo hr eager (m - l) _).joined).congr fun s t => ?_
      rw [Way, exists_allows_iff (Nat.lt_of_not_le hm)]

/-- The matcher goes the ways of the expression. -/
theorem realises_matcher (bound : Nat) (r : Regex) (h : r.loopsAreRuns = true) (n : Nat) :
    Realises w (Way r) n (matcher bound r n).2 (matcher bound r n).1 := by
  induction r generalizing n with
  | empty => exact .empty
  | char c => exact .char c
  | look l => exact .look l
  | seq a b iha ihb =>
    rw [loopsAreRuns, Bool.and_eq_true] at h
    exact (iha h.1 n).seq (ihb h.2 _)
  | alt a b iha ihb =>
    rw [loopsAreRuns, Bool.and_eq_true] at h
    exact (iha h.1 n).alt (ihb h.2 _)
  | repeated eager k r ih =>
    rw [loopsAreRuns, Bool.and_eq_true] at h
    exact .turns bound eager k r h.1 (ih h.2) n
  | group key r ih => exact (ih h n).group key

end Unscramble.Regex
