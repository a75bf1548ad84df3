import Mathlib.Data.Bool.AllAny
import Unscramble.Proofs.Regex.Spelling
import Unscramble.Proofs.Regex.Leftmost

/-! Texts that can be matched in one way only, with what the groups capture. -/
namespace Unscramble.Regex
open Relation
variable {r : Regex} {rs : List Regex} {x y u : Text} {c : CharClass} {key : GroupKey}

/-- A group that has captured `content` past `skipped`. -/
structure Mark where
  key : GroupKey
  skipped : Text
  content : Text

def Mark.behind (x : Text) (m : Mark) : Mark := { m with skipped := x ++ m.skipped }

theorem map_behind_nil (ms : List Mark) : ms.map (Mark.behind []) = ms :=
  (List.map_congr_left fun _ _ => rfl).trans (List.map_id ms)

def State.reading (s : State) (u : Text) (ms : List Mark) : State :=
  ⟨s.place.took u, ms.map (fun m =>
    (m.key, ⟨s.place.took m.skipped, (s.place.took (m.skipped ++ m.content)).offset⟩)) ++ s.groups⟩

theorem reading_reading (s : State) (x u : Text) (ms ns : List Mark) :
    (s.reading x ms).reading u ns = s.reading (x ++ u) (ns.map (.behind x) ++ ms) := by
  simp only [State.reading, ← Place.took_append, List.map_append, List.map_map, List.append_assoc,
    Function.comp_def, Mark.behind]

theorem rest_reading {s : State} {x y : Text} {ms : List Mark} (h : s.place.rest = x ++ y) :
    (s.reading x ms).place.rest = y := Place.rest_took h

/-- The expression takes the texts of a kind, with the marks that `g` says. -/
def Takes (r : Regex) (P : Text → Prop) (g : Text → List Mark) : Prop :=
  ∀ s t, Way r s t ↔ ∃ z v, s.place.rest = z ++ v ∧ P z ∧ t = s.reading z (g z)

theorem takes_empty : Takes .empty (· = []) fun _ => [] := by
  intro s t
  constructor
  · rintro rfl
    exact ⟨[], s.place.rest, rfl, rfl, rfl⟩
  · intro h
    obtain ⟨_, v, -, rfl, rfl⟩ := h
    rfl

theorem takes_char (c : CharClass) :
    Takes (.char c) (fun z => ∃ d, c.contains d = true ∧ z = [d]) fun _ => [] := by
  intro s t
  constructor
  · intro h
    obtain ⟨d, v, hr, hc, rfl⟩ := h
    refine ⟨[d], v, hr, ⟨d, hc, rfl⟩, ?_⟩
    rw [State.past, Place.past_eq_took hr]
    rfl
  · intro h
    obtain ⟨_, v, hr, ⟨d, hc, rfl⟩, rfl⟩ := h
    have hr' : s.place.rest = d :: v := hr
    refine ⟨d, v, hr', hc, ?_⟩
    rw [State.past, Place.past_eq_took hr']
    rfl

theorem Takes.seq {a b : Regex} {P S : Text → Prop} (ha : Takes a P fun _ => [])
    (hb : Takes b S fun _ => []) :
    Takes (.seq a b) (fun z => ∃ x y, z = x ++ y ∧ P x ∧ S y) fun _ => [] := by
  intro s t
  constructor
  · intro h
    obtain ⟨m, hm, ht⟩ := h
    obtain ⟨x, v, hx, hP, rfl⟩ := (ha s m).1 hm
    obtain ⟨y, v', hy, hS, rfl⟩ := (hb _ t).1 ht
    rw [rest_reading hx] at hy
    refine ⟨x ++ y, v', ?_, ⟨x, y, rfl, hP, hS⟩, by rw [reading_reading]; rfl⟩
    rw [hx, hy, List.append_assoc]
  · intro h
    obtain ⟨_, v, hr, ⟨x, y, rfl, hP, hS⟩, rfl⟩ := h
    rw [List.append_assoc] at hr
    refine ⟨s.reading x [], (ha s _).2 ⟨x, y ++ v, hr, hP, rfl⟩, (hb _ _).2 ⟨y, v, ?_, hS, ?_⟩⟩
    · exact rest_reading hr
    · rw [reading_reading]
      rfl

theorem Takes.congr {P S : Text → Prop} {g : Text → List Mark} (h : Takes r P g)
    (hP : ∀ z, P z ↔ S z) : Takes r S g := by
  have he : P = S := funext fun z => propext (hP z)
  exact he ▸ h

theorem Takes.group {P : Text → Prop} {g : Text → List Mark} (h : Takes r P g) (key : GroupKey) :
    Takes (.group key r) P fun z => ⟨key, [], z⟩ :: g z := by
  intro s t
  constructor
  · intro h
    obtain ⟨m, hm, rfl⟩ := h
    obtain ⟨z, v, hz, hP, rfl⟩ := (h s m).1 hm
    exact ⟨z, v, hz, hP, rfl⟩
  · intro h
    obtain ⟨z, v, hz, hP, rfl⟩ := h
    exact ⟨_, (h s _).2 ⟨z, v, hz, hP, rfl⟩, rfl⟩

theorem takes_chain (c : CharClass) (n : Nat) (s t : State) :
    Chain (Way (.char c)) n s t ↔ ∃ z v, s.place.rest = z ++ v ∧
      (z.length = n ∧ ∀ d ∈ z, c.contains d = true) ∧ t = s.reading z [] := by
  induction n generalizing s with
  | zero =>
    constructor
    · rintro rfl
      exact ⟨[], s.place.rest, rfl, ⟨rfl, by simp⟩, rfl⟩
    · intro h
      obtain ⟨z, v, -, ⟨hl, -⟩, rfl⟩ := h
      rw [List.length_eq_zero_iff.1 hl]
      rfl
  | succ n ih =>
    constructor
    · intro h
      obtain ⟨m, hm, ht⟩ := h
      obtain ⟨_, v, hr, ⟨d, hd, rfl⟩, rfl⟩ := (takes_char c s m).1 hm
      obtain ⟨z, v', hz, ⟨hl, ha⟩, rfl⟩ := (ih _).1 ht
      rw [rest_reading hr] at hz
      refine ⟨d :: z, v', by rw [hr, hz]; rfl, ⟨by simp [hl], fun e he => ?_⟩, ?_⟩
      · obtain rfl | he := List.mem_cons.1 he
        · exact hd
        · exact ha e he
      · rw [reading_reading]
        rfl
    · intro h
      obtain ⟨z, v, hr, ⟨hl, ha⟩, rfl⟩ := h
      cases z with
      | nil => simp at hl
      | cons d z =>
        refine ⟨s.reading [d] [], (takes_char c s _).2 ⟨[d], z ++ v, hr, ⟨d, ha d (.head z), rfl⟩, rfl⟩,
          (ih _).2 ⟨z, v, rest_reading hr, ⟨?_, fun e he => ha e (.tail d he)⟩, ?_⟩⟩
        · simpa using hl
        · rw [reading_reading]
          rfl

theorem takes_repeated (eager : Bool) (least : Nat) (c : CharClass) :
    Takes (.repeated eager ⟨least, none⟩ (.char c))
      (fun z => least ≤ z.length ∧ ∀ d ∈ z, c.contains d = true) fun _ => [] := by
  intro s t
  constructor
  · intro h
    obtain ⟨n, ⟨hn, -⟩, hc⟩ := h
    obtain ⟨z, v, hr, ⟨rfl, ha⟩, rfl⟩ := (takes_chain c n s t).1 hc
    exact ⟨z, v, hr, ⟨hn, ha⟩, rfl⟩
  · intro h
    obtain ⟨z, v, hr, ⟨hn, ha⟩, rfl⟩ := h
    exact ⟨z.length, ⟨hn, fun m hm => nomatch hm⟩, (takes_chain c _ s _).2 ⟨z, v, hr, ⟨rfl, ha⟩, rfl⟩⟩

theorem takes_literal (y : Text) : Takes (literal y) (· = y) fun _ => [] := by
  induction y with
  | nil => exact takes_empty
  | cons d y ih =>
    have hd : Takes (.char (.single d)) (· = [d]) fun _ => [] :=
      (takes_char _).congr fun z => by simp [contains_single]
    cases y with
    | nil => exact hd
    | cons e y =>
      exact (hd.seq ih).congr fun z => by simp

/-- From a place in front of `x` the expressions take `u` and nothing else. -/
structure Reads (rs : List Regex) (x u : Text) (ms : List Mark) : Prop where
  begins : u <+: x
  inside : ∀ m ∈ ms, m.skipped ++ m.content <+: u
  unique : ∀ s, s.place.rest = x → ∀ t, Way (sequence rs) s t ↔ t = s.reading u ms

/-- From a place in front of `x` the expressions take nothing. -/
def Bars (rs : List Regex) (x : Text) : Prop :=
  ∀ s, s.place.rest = x → ∀ t, ¬Way (sequence rs) s t

theorem Reads.nil (x : Text) : Reads [] x [] [] where
  begins := List.nil_prefix
  inside := by simp
  unique s _ t := ⟨fun h => h.symm, fun h => h.symm⟩

theorem Reads.of_marks {ms ns : List Mark} (h : Reads rs x u ms) (he : ms = ns) : Reads rs x u ns :=
  he ▸ h

theorem reads_textEnd : Reads [.look .textEnd] [] [] [] where
  begins := List.nil_prefix
  inside := nofun
  unique s hs t := by
    have hm : s.place.meets .textEnd = true := by rw [Place.meets, hs]; rfl
    constructor
    · intro h
      exact h.2.symm
    · intro h
      exact ⟨hm, h.symm⟩

theorem inside_append {ms ns : List Mark} (hm : ∀ m ∈ ms, m.skipped ++ m.content <+: y)
    (hn : ∀ m ∈ ns, m.skipped ++ m.content <+: u) :
    ∀ m ∈ ns.map (Mark.behind y) ++ ms, m.skipped ++ m.content <+: y ++ u := by
  intro m h
  cases List.mem_append.1 h with
  | inl h =>
    obtain ⟨n, hn', rfl⟩ := List.mem_map.1 h
    rw [Mark.behind, List.append_assoc]
    exact (List.prefix_append_right_inj y).2 (hn n hn')
  | inr h => exact (hm m h).trans (List.prefix_append y u)

/-- The first takes `y`, as behind any other text that it takes the others are barred. -/
theorem Reads.takes {P : Text → Prop} {g : Text → List Mark} {ms : List Mark} (hr : Takes r P g)
    (hP : P y) (hg : ∀ m ∈ g y, m.skipped ++ m.content <+: y)
    (hno : ∀ z v, y ++ x = z ++ v → P z → z ≠ y → Bars rs v) (h : Reads rs x u ms) :
    Reads (r :: rs) (y ++ x) (y ++ u) (ms.map (.behind y) ++ g y) where
  begins := (List.prefix_append_right_inj y).2 h.begins
  inside := inside_append hg h.inside
  unique s hs t := by
    rw [way_sequence_cons]
    constructor
    · intro h
      obtain ⟨m, hm, ht⟩ := h
      obtain ⟨z, v, hz, hPz, rfl⟩ := (hr s m).1 hm
      by_cases hzy : z = y
      · subst hzy
        rw [← reading_reading]
        exact (h.unique _ (rest_reading hs) t).1 ht
      · exact absurd ht (hno z v (hs ▸ hz) hPz hzy _ (rest_reading hz) t)
    · rintro rfl
      refine ⟨s.reading y (g y), (hr s _).2 ⟨y, x, hs, hP, rfl⟩, ?_⟩
      rw [← reading_reading]
      exact (h.unique _ (rest_reading hs) _).2 rfl

theorem Bars.takes {P : Text → Prop} {g : Text → List Mark} (hr : Takes r P g)
    (hno : ∀ z v, x = z ++ v → P z → Bars rs v) : Bars (r :: rs) x := by
  intro s hs t h
  obtain ⟨m, hm, ht⟩ := way_sequence_cons.1 h
  obtain ⟨z, v, hz, hPz, rfl⟩ := (hr s m).1 hm
  exact hno z v (hs ▸ hz) hPz _ (rest_reading hz) t ht

theorem Reads.literal {ms : List Mark} (y : Text) (h : Reads rs x u ms) :
    Reads (Regex.literal y :: rs) (y ++ x) (y ++ u) (ms.map (.behind y)) := by
  have ht := Reads.takes (takes_literal y) rfl (by simp) (fun z v _ hz hne => absurd hz hne) h
  rwa [List.append_nil] at ht

theorem Reads.namedLiteral {ms : List Mark} (name y : Text) (h : Reads rs x u ms) :
    Reads (Regex.named name (Regex.literal y) :: rs) (y ++ x) (y ++ u)
      (ms.map (.behind y) ++ [⟨.named name, [], y⟩]) := by
  refine .takes ((takes_literal y).group (.named name)) rfl (fun m hm => ?_)
    (fun z v _ hz hne => absurd hz hne) h
  rw [List.mem_singleton.1 hm]
  exact List.prefix_refl y

theorem Bars.literal {d : Char} (hd : y.head? ≠ some d) (hy : y ≠ []) :
    Bars (Regex.literal y :: rs) (d :: x) := by
  refine .takes (takes_literal y) fun z v hz hP => ?_
  subst hP
  cases z with
  | nil => exact absurd rfl hy
  | cons e z =>
    obtain ⟨rfl, -⟩ := List.cons.inj hz
    exact absurd rfl hd

theorem Bars.behind (y : Text) (h : Bars rs x) : Bars (Regex.literal y :: rs) (y ++ x) := by
  refine .takes (takes_literal y) fun z v hz hP => ?_
  subst hP
  exact List.append_cancel_left hz ▸ h

theorem Bars.behindChar {d : Char} (h : Bars rs x) : Bars (.char c :: rs) (d :: x) := by
  refine .takes (takes_char c) fun z v hz hP => ?_
  obtain ⟨e, -, rfl⟩ := hP
  have he : x = v := (List.cons.inj hz).2
  exact he ▸ h

theorem Reads.char {d : Char} {ms : List Mark} (hd : c.contains d = true) (h : Reads rs x u ms) :
    Reads (.char c :: rs) (d :: x) (d :: u) (ms.map (.behind [d])) := by
  have ht := Reads.takes (y := [d]) (takes_char c) ⟨d, hd, rfl⟩ (by simp) (fun z v hz hP hne => by
    obtain ⟨e, -, rfl⟩ := hP
    obtain ⟨rfl, -⟩ := List.cons.inj hz
    exact absurd rfl hne) h
  rwa [List.append_nil] at ht

theorem Bars.char {d : Char} (hd : c.contains d = false) : Bars (.char c :: rs) (d :: x) := by
  refine .takes (takes_char c) fun z v hz hP => ?_
  obtain ⟨e, he, rfl⟩ := hP
  obtain ⟨rfl, -⟩ := List.cons.inj hz
  exact absurd he (by simp [hd])

def IsRun (c : CharClass) (least : Nat) (z : Text) : Prop :=
  least ≤ z.length ∧ ∀ d ∈ z, c.contains d = true

instance (c : CharClass) (least : Nat) (z : Text) : Decidable (IsRun c least z) :=
  decidable_of_iff (least ≤ z.length ∧ z.all c.contains = true)
    (and_congr_right fun _ => List.all_eq_true)

theorem run_append_inj {v z : Text} (hx : ∀ d ∈ x, c.contains d = true)
    (hy : ∀ d ∈ y, c.contains d = true) (hv : v.head?.any c.contains = false)
    (hz : z.head?.any c.contains = false) (h : x ++ v = y ++ z) : x = y ∧ v = z := by
  have hrun {u w : Text} (hu : ∀ d ∈ u, c.contains d = true)
      (hw : w.head?.any c.contains = false) : (u ++ w).takeWhile c.contains = u := by
    rw [List.takeWhile_append_of_pos hu]
    cases w with
    | nil => exact List.append_nil u
    | cons d w =>
      have hd : ¬c.contains d = true := Bool.eq_false_iff.1 hw
      rw [List.takeWhile_cons_of_neg hd, List.append_nil]
  have he : x = y := by rw [← hrun hx hv, h, hrun hy hz]
  exact ⟨he, List.append_cancel_left (he ▸ h)⟩

theorem Reads.takesRun {least : Nat} {g : Text → List Mark} {ms : List Mark}
    (hr : Takes r (IsRun c least) g) (hy : IsRun c least y)
    (hg : ∀ m ∈ g y, m.skipped ++ m.content <+: y)
    (hx : x.head?.any c.contains = false)
    (hno : ∀ z d v, y = z ++ d :: v → least ≤ z.length → Bars rs (d :: v ++ x))
    (h : Reads rs x u ms) :
    Reads (r :: rs) (y ++ x) (y ++ u) (ms.map (.behind y) ++ g y) := by
  refine .takes hr hy hg (fun z v hz hP hne => ?_) h
  obtain ⟨w, hw, hv⟩ | ⟨w, hw, hv⟩ := List.append_eq_append_iff.1 hz
  · cases w with
    | nil => exact absurd (by rw [hw, List.append_nil]) hne
    | cons d w =>
      have hc := hP.2 d (by rw [hw]; exact List.mem_append_right _ (.head w))
      have hd : c.contains d = false := by rwa [hv] at hx
      rw [hd] at hc
      cases hc
  · cases w with
    | nil => exact absurd (by rw [hw, List.append_nil]) hne
    | cons d w =>
      rw [hv]
      exact hno z d w hw hP.1

theorem Reads.run {eager : Bool} {least : Nat} {ms : List Mark} (hy : IsRun c least y)
    (hx : x.head?.any c.contains = false)
    (hno : ∀ z d v, y = z ++ d :: v → least ≤ z.length → Bars rs (d :: v ++ x))
    (h : Reads rs x u ms) :
    Reads (.repeated eager ⟨least, none⟩ (.char c) :: rs) (y ++ x) (y ++ u)
      (ms.map (.behind y)) := by
  have ht := Reads.takesRun (takes_repeated eager least c) hy (by simp) hx hno h
  rwa [List.append_nil] at ht

theorem Reads.namedRun {eager : Bool} {least : Nat} {ms : List Mark} {name : Text}
    (hy : IsRun c least y) (hx : x.head?.any c.contains = false)
    (hno : ∀ z d v, y = z ++ d :: v → least ≤ z.length → Bars rs (d :: v ++ x))
    (h : Reads rs x u ms) :
    Reads (named name (.repeated eager ⟨least, none⟩ (.char c)) :: rs) (y ++ x) (y ++ u)
      (ms.map (.behind y) ++ [⟨.named name, [], y⟩]) := by
  refine .takesRun ((takes_repeated eager least c).group _) hy (fun m hm => ?_) hx hno h
  rw [List.mem_singleton.1 hm]
  exact List.prefix_refl y

theorem not_longer_than_one {d e : Char} {z v : Text} (hz : [d] = z ++ e :: v) (hl : 1 ≤ z.length) :
    False := by
  have hlen := congrArg List.length hz
  simp only [List.length_append, List.length_cons, List.length_nil] at hlen
  omega

theorem Bars.takesRun {least : Nat} {g : Text → List Mark} (hr : Takes r (IsRun c least) g)
    (hx : x.head?.any c.contains = false)
    (hno : ∀ z v, y = z ++ v → least ≤ z.length → Bars rs (v ++ x)) : Bars (r :: rs) (y ++ x) := by
  refine .takes hr fun z v hz hP => ?_
  obtain ⟨w, hw, hv⟩ | ⟨w, hw, hv⟩ := List.append_eq_append_iff.1 hz
  · cases w with
    | nil =>
      have he : x = v := hv
      exact he ▸ hno z [] (by rw [hw, List.append_nil, List.append_nil]) hP.1
    | cons d w =>
      have hc := hP.2 d (by rw [hw]; exact List.mem_append_right _ (.head w))
      have hd : c.contains d = false := by rwa [hv] at hx
      rw [hd] at hc
      cases hc
  · exact hv ▸ hno z w hw hP.1

theorem Bars.namedRun {eager : Bool} {least : Nat} {name : Text}
    (hx : x.head?.any c.contains = false)
    (hno : ∀ z v, y = z ++ v → least ≤ z.length → Bars rs (v ++ x)) :
    Bars (Regex.named name (.repeated eager ⟨least, none⟩ (.char c)) :: rs) (y ++ x) :=
  .takesRun ((takes_repeated eager least c).group _) hx hno

theorem Reads.star {eager : Bool} {ms : List Mark} (hx : x.head?.any c.contains = false)
    (h : Reads rs x u ms) : Reads (Regex.star eager (.char c) :: rs) x u ms := by
  have hy : IsRun c 0 [] := ⟨Nat.le_refl 0, by simp⟩
  have ht : Reads (Regex.star eager (.char c) :: rs) ([] ++ x) ([] ++ u) _ :=
    .run hy hx (fun z d v hz => by simp at hz) h
  rwa [map_behind_nil] at ht

theorem Bars.star {eager : Bool} (hx : x.head?.any c.contains = false) (h : Bars rs x) :
    Bars (Regex.star eager (.char c) :: rs) x := by
  refine .takesRun (y := []) (takes_repeated eager 0 c) hx fun z v hz _ => ?_
  obtain ⟨-, rfl⟩ := List.append_eq_nil_iff.1 hz.symm
  exact h

theorem way_sequence_append {rs' : List Regex} {s t : State} :
    Way (sequence (rs ++ rs')) s t ↔ ∃ m, Way (sequence rs) s m ∧ Way (sequence rs') m t := by
  induction rs generalizing s with
  | nil =>
    constructor
    · intro h
      exact ⟨s, rfl, h⟩
    · intro hw
      obtain ⟨_, rfl, h⟩ := hw
      exact h
  | cons r rs ih =>
    simp only [List.cons_append, way_sequence_cons, ih]
    constructor
    · intro h
      obtain ⟨m, hm, n, hn, ht⟩ := h
      exact ⟨n, ⟨m, hm, hn⟩, ht⟩
    · intro h
      obtain ⟨n, ⟨m, hm, hn⟩, ht⟩ := h
      exact ⟨m, hm, n, hn, ht⟩

theorem Reads.sequence {rs' : List Regex} {ms : List Mark} (h : Reads (rs ++ rs') x u ms) :
    Reads (Regex.sequence rs :: rs') x u ms where
  begins := h.begins
  inside := h.inside
  unique s hs t := by
    rw [← h.unique s hs t, way_sequence_cons, way_sequence_append]

theorem Bars.sequence {rs' : List Regex} (h : Bars (rs ++ rs') x) :
    Bars (Regex.sequence rs :: rs') x := by
  intro s hs t ht
  rw [way_sequence_cons, ← way_sequence_append] at ht
  exact h s hs t ht

theorem Reads.named {rs' : List Regex} {name : Text} {ms ns : List Mark}
    (hn : Reads rs (y ++ x) y ns) (h : Reads rs' x u ms) :
    Reads (Regex.named name (Regex.sequence rs) :: rs') (y ++ x) (y ++ u)
      (ms.map (.behind y) ++ ⟨.named name, [], y⟩ :: ns) where
  begins := (List.prefix_append_right_inj y).2 h.begins
  inside := by
    refine inside_append (fun m hm => ?_) h.inside
    obtain rfl | hm := List.mem_cons.1 hm
    · exact List.prefix_refl y
    · exact hn.inside m hm
  unique s hs t := by
    have hs' : (s.reading y (⟨.named name, [], y⟩ :: ns)).place.rest = x := rest_reading hs
    rw [way_sequence_cons, ← reading_reading, ← h.unique _ hs' t]
    constructor
    · intro h
      obtain ⟨_, ⟨m, hm, rfl⟩, ht⟩ := h
      rw [(hn.unique s hs m).1 hm] at ht
      exact ht
    · intro ht
      exact ⟨_, ⟨_, (hn.unique s hs _).2 rfl, rfl⟩, ht⟩

theorem Reads.left {a b : Regex} {ms : List Mark} (h : Reads (a :: rs) x u ms)
    (hb : Bars (b :: rs) x) : Reads (.alt a b :: rs) x u ms where
  begins := h.begins
  inside := h.inside
  unique s hs t := by
    rw [← h.unique s hs t, way_sequence_cons, way_sequence_cons]
    constructor
    · intro h
      obtain ⟨m, hm | hm, ht⟩ := h
      · exact ⟨m, hm, ht⟩
      · exact absurd (way_sequence_cons.2 ⟨m, hm, ht⟩) (hb s hs t)
    · intro h
      obtain ⟨m, hm, ht⟩ := h
      exact ⟨m, .inl hm, ht⟩

theorem Bars.alt {a b : Regex} (ha : Bars (a :: rs) x) (hb : Bars (b :: rs) x) :
    Bars (.alt a b :: rs) x := by
  intro s hs t h
  obtain ⟨m, hm | hm, ht⟩ := way_sequence_cons.1 h
  · exact ha s hs t (way_sequence_cons.2 ⟨m, hm, ht⟩)
  · exact hb s hs t (way_sequence_cons.2 ⟨m, hm, ht⟩)

theorem way_optional {eager : Bool} {s t : State} :
    Way (optional eager r) s t ↔ s = t ∨ Way r s t := by
  constructor
  · intro h
    obtain ⟨n, ⟨-, hn⟩, hc⟩ := h
    match n, hn 1 rfl, hc with
    | 0, _, hc => exact .inl hc
    | 1, _, hc => exact .inr (chain_one (Way r) ▸ hc)
  · intro hw
    cases hw with
    | inl h => exact ⟨0, ⟨Nat.le_refl 0, fun m _ => Nat.zero_le _⟩, h⟩
    | inr h =>
      refine ⟨1, ⟨Nat.zero_le 1, fun m hm => ?_⟩, (chain_one (Way r)).symm ▸ h⟩
      cases hm
      exact Nat.le_max_right 0 1

theorem Reads.skip {eager : Bool} {ms : List Mark} (h : Reads rs x u ms)
    (hb : Bars (r :: rs) x) : Reads (optional eager r :: rs) x u ms where
  begins := h.begins
  inside := h.inside
  unique s hs t := by
    rw [← h.unique s hs t, way_sequence_cons]
    constructor
    · intro h
      obtain ⟨m, hm, ht⟩ := h
      obtain rfl | hm := way_optional.1 hm
      · exact ht
      · exact absurd (way_sequence_cons.2 ⟨m, hm, ht⟩) (hb s hs t)
    · intro ht
      exact ⟨s, way_optional.2 (.inl rfl), ht⟩

theorem Reads.take {eager : Bool} {ms : List Mark} (h : Reads (r :: rs) x u ms)
    (hb : Bars rs x) : Reads (optional eager r :: rs) x u ms where
  begins := h.begins
  inside := h.inside
  unique s hs t := by
    rw [← h.unique s hs t, way_sequence_cons, way_sequence_cons]
    constructor
    · intro h
      obtain ⟨m, hm, ht⟩ := h
      obtain rfl | hm := way_optional.1 hm
      · exact absurd ht (hb s hs t)
      · exact ⟨m, hm, ht⟩
    · intro h
      obtain ⟨m, hm, ht⟩ := h
      exact ⟨m, way_optional.2 (.inr hm), ht⟩

end Unscramble.Regex
