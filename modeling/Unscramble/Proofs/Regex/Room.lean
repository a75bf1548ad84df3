import Mathlib.Algebra.BigOperators.Group.List.Basic
import Mathlib.Algebra.BigOperators.Ring.List
import Mathlib.Algebra.Ring.Nat
import Mathlib.Data.List.SplitBy
import Unscramble.Proofs.Text.Offsets
import Unscramble.Regex.Automaton

/-! How much room an expression takes, from below and from above. What a step of laying out adds is
known up to how many states of a class are shared, which depends on what else is laid out. -/
namespace Unscramble.Regex

namespace Layout
variable {l : Layout} {a b c e : Nat} {o : Option Layout} {f : Layout → Option Layout}

/-- At least `a` octets and at most `b` are added. Where there is no room, `b` octets are too many. -/
def Grows (l : Layout) (a b : Nat) : Option Layout → Prop
  | some l' => l.octets + a ≤ l'.octets ∧ l'.octets ≤ l.octets + b
  | none => room < l.octets + b

theorem octets_add (l : Layout) (states ways : Nat) :
    octets ⟨l.states + states, l.ways + ways⟩ = l.octets + (32 * states + ways) := by
  simp only [octets]
  omega

theorem Grows.mono (h : Grows l a b o) (ha : c ≤ a) (hb : b ≤ e) : Grows l c e o := by
  cases o with
  | none => exact Nat.lt_of_lt_of_le h (Nat.add_le_add_left hb _)
  | some l' =>
    exact ⟨(Nat.add_le_add_left ha _).trans h.1, h.2.trans (Nat.add_le_add_left hb _)⟩

theorem grows_some (l : Layout) : Grows l 0 0 (some l) := ⟨Nat.le_refl _, Nat.le_refl _⟩

theorem Grows.bind (h : Grows l a b o) (hf : ∀ l', Grows l' c e (f l')) :
    Grows l (a + c) (b + e) (o >>= f) := by
  cases o with
  | none => exact Nat.lt_of_lt_of_le h (by omega)
  | some l' =>
    obtain ⟨hleast, hmost⟩ := h
    have hnext := hf l'
    rw [Option.bind_eq_bind, Option.bind_some]
    cases hl : f l' with
    | none =>
      rw [hl] at hnext
      exact Nat.lt_of_lt_of_le hnext (by omega)
    | some l'' =>
      rw [hl] at hnext
      obtain ⟨hleast', hmost'⟩ := hnext
      exact ⟨by omega, by omega⟩

theorem grows_grow (l : Layout) (states ways : Nat) :
    Grows l (32 * states + ways) (32 * states + ways) (l.grow states ways) := by
  rw [grow]
  split
  next => exact ⟨(octets_add l states ways).ge, (octets_add l states ways).le⟩
  next h =>
    rw [octets_add] at h
    exact Nat.lt_of_not_le h

theorem copies_one (f : Layout → Option Layout) (l : Layout) : copies f 1 l = f l := by
  rw [copies]
  cases f l with
  | none => rfl
  | some l' => rfl

theorem octets_le_room {l' : Layout} {states ways : Nat} (h : l.grow states ways = some l') :
    l'.octets ≤ room := by
  rw [grow] at h
  split at h
  next hroom => exact Option.some.inj h ▸ hroom
  next => cases h

end Layout

namespace Sharing
open Layout
variable {s s' s'' : Sharing} {n m : Nat}

/-- At most `n` octets are laid out, and none are taken back. -/
structure GrowsBy (s s' : Sharing) (n : Nat) : Prop where
  least : s.layout.octets ≤ s'.layout.octets
  most : s'.layout.octets ≤ s.layout.octets + n

theorem GrowsBy.refl (s : Sharing) : GrowsBy s s 0 := ⟨Nat.le_refl _, Nat.le_refl _⟩

theorem GrowsBy.mono (h : GrowsBy s s' n) (hn : n ≤ m) : GrowsBy s s' m :=
  ⟨h.least, h.most.trans (Nat.add_le_add_left hn _)⟩

theorem GrowsBy.trans (h : GrowsBy s s' n) (h' : GrowsBy s' s'' m) : GrowsBy s s'' (n + m) where
  least := h.least.trans h'.least
  most := h'.most.trans (by rw [← Nat.add_assoc]; exact Nat.add_le_add_right h.most m)

theorem growsBy_state (slots ways : Nat) (key : List Nat) (s : Sharing) :
    GrowsBy s (s.state slots ways key).2 (32 + ways) := by
  have hfresh : octets ⟨s.layout.states + 1, s.layout.ways + ways⟩ = s.layout.octets + (32 + ways) :=
    octets_add s.layout 1 ways
  rw [state]
  split
  · split
    · exact (GrowsBy.refl s).mono (Nat.zero_le _)
    · exact ⟨by rw [hfresh]; omega, hfresh.le⟩
  · exact ⟨by rw [hfresh]; omega, hfresh.le⟩

theorem growsBy_foldl {α β : Type} {f : β × Sharing → α → β × Sharing} {g : α → Nat}
    (h : ∀ v s x, GrowsBy s (f (v, s) x).2 (g x)) (xs : List α) (v : β) (s : Sharing) :
    GrowsBy s (xs.foldl f (v, s)).2 (xs.map g).sum := by
  induction xs generalizing v s with
  | nil => exact .refl s
  | cons x xs ih =>
    rw [List.foldl_cons, List.map_cons, List.sum_cons]
    exact (h v s x).trans (ih _ _)

theorem growsBy_backwardStates (stop : Nat) (q : List Utf8.OctetRange) (s : Sharing) :
    GrowsBy s (backwardStates stop q s) (32 * q.length) := by
  have h := growsBy_foldl (f := fun (ts : Nat × Sharing) (r : Utf8.OctetRange) =>
    ts.2.state backwardSlots 0 [ts.1, r.1, r.2]) (g := fun _ => 32)
    (fun v s r => growsBy_state backwardSlots 0 [v, r.1, r.2] s) q stop s
  rw [List.map_const', List.sum_replicate_nat, Nat.mul_comm] at h
  exact h

theorem growsBy_backwards (stop : Nat) (qs : List (List Utf8.OctetRange)) (s : Sharing) :
    GrowsBy s (qs.foldl (fun s q => backwardStates stop q s) s) (32 * (qs.map List.length).sum) := by
  induction qs generalizing s with
  | nil => exact .refl s
  | cons q qs ih =>
    rw [List.foldl_cons, List.map_cons, List.sum_cons, Nat.mul_add]
    exact (growsBy_backwardStates stop q s).trans (ih _)

/-- Each depth adds at most a state and a way for each sequence. -/
theorem growsBy_forwardState (stop depth : Nat) (qs : List (List Utf8.OctetRange)) (s : Sharing) :
    GrowsBy s (forwardState stop depth qs s).2 (40 * depth * qs.length) := by
  induction depth generalizing qs s with
  | zero => exact (GrowsBy.refl s).mono (Nat.zero_le _)
  | succ depth ih =>
    rw [forwardState]
    split
    next => exact (GrowsBy.refl s).mono (Nat.zero_le _)
    next hsome =>
      have hpos : 0 < qs.length := List.length_pos_iff.2 fun hnil => hsome (hnil ▸ rfl)
      have hsum : ((qs.splitBy fun a b => a.head? == b.head?).map List.length).sum = qs.length := by
        rw [← List.length_flatten, List.flatten_splitBy]
      have hcount : (qs.splitBy fun a b => a.head? == b.head?).length ≤ qs.length := by
        rw [← hsum, ← List.length_map List.length]
        exact List.length_le_sum_of_one_le _ (List.forall_mem_map.2 fun g hg =>
          List.length_pos_iff.2 (List.ne_nil_of_mem_splitBy hg))
      refine ((growsBy_foldl (g := fun group => 40 * depth * group.length)
        (fun key s group => ?_) _ [] s).trans (growsBy_state forwardSlots _ _ _)).mono ?_
      · have hgroup := ih (group.map List.tail) s
        rw [List.length_map] at hgroup
        dsimp only
        split
        · exact hgroup
        · exact hgroup
      · rw [List.sum_map_mul_left, hsum, Nat.mul_add, Nat.add_mul]
        omega

end Sharing

def classRoom (rs : Text.Ranges) : Nat :=
  if rs.isAscii then 64 + 8 * rs.length
  else 64 + 204 * (Utf8.octetRanges rs).length + 32 * ((Utf8.octetRanges rs).map List.length).sum

namespace Layout
variable {l : Layout} {k n : Nat}

theorem grows_of_growsBy {start s : Sharing} (h : start.GrowsBy s n)
    (hstart : start.layout.octets = l.octets + k) : Grows l 0 (k + n) (s.layout.grow 0 0) := by
  obtain ⟨hleast, hmost⟩ := h
  have hlast := grows_grow s.layout 0 0
  cases hgrown : s.layout.grow 0 0 with
  | none =>
    rw [hgrown] at hlast
    exact Nat.lt_of_lt_of_le hlast (by omega)
  | some l' =>
    rw [hgrown] at hlast
    obtain ⟨hleast', hmost'⟩ := hlast
    exact ⟨by omega, by omega⟩

theorem grows_addRanges (d : Direction) (rs : Text.Ranges) (l : Layout) :
    Grows l 0 (classRoom rs) (l.addRanges d rs) := by
  rw [addRanges, classRoom]
  split
  next => exact (grows_grow l 2 _).mono (Nat.zero_le _) (Nat.le_refl _)
  next =>
    cases d with
    | forwards =>
      have hstates := Sharing.growsBy_forwardState l.states 5 (Utf8.octetRanges rs)
        ⟨⟨l.states + 1, l.ways⟩, ∅⟩
      exact (grows_of_growsBy hstates (octets_add l 1 0)).mono (Nat.le_refl 0) (by omega)
    | backwards =>
      have hstates := Sharing.growsBy_backwards (l.states + 1) (Utf8.octetRanges rs)
        ⟨⟨l.states + 2, l.ways + 4 * (Utf8.octetRanges rs).length⟩, ∅⟩
      exact (grows_of_growsBy hstates (octets_add l 2 _)).mono (Nat.le_refl 0) (by omega)

end Layout

def octetsRoom : Nat → Nat
  | 0 => 0
  | 1 => 36
  | count => 36 + 8 * count

def Branches.room : Branches → Nat → Nat
  | .none, count => octetsRoom count
  | .way _ behind others, count =>
    (if behind.hasWay then 32 + behind.room 0 else 0) + others.room (count + 1)
  | .stop others, count => octetsRoom count + 4 + others.room 0

namespace Layout

theorem grows_addOctets (l : Layout) (count : Nat) :
    Grows l (octetsRoom count) (octetsRoom count) (l.addOctets count) := by
  match count with
  | 0 => exact grows_some l
  | 1 => exact grows_grow l 1 4
  | count + 2 =>
    have hstate : 32 * 1 + (8 * (count + 2) + 4) = octetsRoom (count + 2) := by
      simp only [octetsRoom]
      omega
    exact hstate ▸ grows_grow l 1 (8 * (count + 2) + 4)

theorem grows_addBranches (bs : Branches) (count : Nat) (l : Layout) :
    Grows l (bs.room count) (bs.room count) (addBranches bs count l) := by
  induction bs generalizing count l with
  | none => exact grows_addOctets l count
  | way octet behind others hbehind hothers =>
    rw [addBranches, Branches.room]
    split
    · exact ((grows_grow l 1 0).bind fun l => (hbehind 0 l).bind (hothers (count + 1))).mono
        (by omega) (by omega)
    · exact (grows_some l).bind (hothers (count + 1))
  | stop others ih =>
    rw [addBranches, Branches.room]
    exact ((grows_addOctets l count).bind fun l => (grows_grow l 0 4).bind (ih 0)).mono
      (Nat.add_assoc _ _ _).le (Nat.add_assoc _ _ _).ge

theorem grows_addWords (ws : List (List Nat)) (l : Layout) :
    Grows l 0 (64 + (Branches.ofWords ws).room 0) (l.addWords ws) :=
  ((grows_grow l 2 0).bind (grows_addBranches _ 0)).mono (Nat.zero_le _) (Nat.le_refl _)

end Layout

section
open Layout
variable {a b c e n : Nat} {d : Direction} {l : Layout} {r s : Regex} {rs : List Regex} {k : CharClass}

/-- The expression takes at least `a` octets and at most `b`, wherever it is laid out. -/
def HasRoom (r : Regex) (a b : Nat) : Prop := ∀ d l, Grows l a b (layOut d r .notIn l)

theorem HasRoom.mono (h : HasRoom r a b) (ha : c ≤ a) (hb : b ≤ e) : HasRoom r c e :=
  fun d l => (h d l).mono ha hb

theorem hasRoom_single (c : Char) :
    HasRoom (.char (.single c)) (32 * c.utf8Size) (32 * c.utf8Size) := by
  intro d l
  have hone : addClass d (.single c) l = l.grow c.utf8Size 0 := by
    simp only [addClass, CharClass.single, CharClass.single?, if_true]
  rw [layOut, hone]
  exact (grows_grow l c.utf8Size 0).bind grows_some

theorem hasRoom_within (rs : Text.Ranges) : HasRoom (.char (.within rs)) 0 (classRoom rs) :=
  fun d l => (grows_addRanges d rs l).bind grows_some

theorem HasRoom.seq (hr : HasRoom r a b) (hs : HasRoom s c e) :
    HasRoom (.seq r s) (a + c) (b + e) := by
  intro d l
  cases d with
  | forwards => exact (hr .forwards l).bind fun l => (hs .forwards l).bind grows_some
  | backwards =>
    rw [Nat.add_comm a c, Nat.add_comm b e]
    exact (hs .backwards l).bind fun l => (hr .backwards l).bind grows_some

/-- Both ends of a group are states of their own when the text is read forwards. -/
theorem HasRoom.group (key : GroupKey) (h : HasRoom r a b) : HasRoom (.group key r) a (b + 64) := by
  intro d l
  cases d with
  | forwards =>
    have hgroup : Grows l (32 + (a + 32)) (32 + (b + 32)) (layOut .forwards (.group key r) .notIn l) :=
      (grows_grow l 1 0).bind fun l => (h .forwards l).bind fun l => (grows_grow l 1 0).bind grows_some
    exact hgroup.mono (by omega) (by omega)
  | backwards =>
    exact ((h .backwards l).bind grows_some).mono (Nat.le_refl a) (Nat.le_add_right b 64)

theorem HasRoom.star (eager : Bool) (h : HasRoom r a b) : HasRoom (.star eager r) a (b + 112) := by
  intro d l
  have htimes : Grows l a (b + 112) (l.addTimes ⟨0, none⟩ r.alwaysTakes (layOut d r .notIn)) := by
    rw [addTimes]
    split
    next => exact ((grows_grow l 1 8).bind (h d)).mono (by omega) (by omega)
    next => exact ((h d l).bind fun l => grows_grow l 3 16).mono (by omega) (by omega)
  exact htimes.bind grows_some

theorem HasRoom.plus (eager : Bool) (h : HasRoom r a b) : HasRoom (.plus eager r) a (b + 40) := by
  intro d l
  have htimes : Grows l a (b + 40) (l.addTimes ⟨1, none⟩ r.alwaysTakes (layOut d r .notIn)) := by
    have hone : l.addTimes ⟨1, none⟩ r.alwaysTakes (layOut d r .notIn) =
        l.copies (layOut d r .notIn) 1 >>= fork := rfl
    rw [hone, copies_one]
    exact ((h d l).bind fun l => grows_grow l 1 8).mono (Nat.le_add_right a 40) (Nat.le_refl _)
  exact htimes.bind grows_some

theorem HasRoom.lookOr (k : Look) {rs : Text.Ranges} :
    HasRoom (.alt (.look k) (.char (.within rs))) 0 (classRoom rs + 104) := by
  intro d l
  have hlater (l : Layout) : Grows l 0 (classRoom rs + 72) (layOut d (.char (.within rs)) .second l) :=
    ((grows_addRanges d rs l).bind fun l => grows_grow l 2 8).mono (Nat.zero_le _) (Nat.le_refl _)
  have hboth : Grows l (32 + 0) (32 + (classRoom rs + 72))
      (layOut d (.alt (.look k) (.char (.within rs))) .notIn l) :=
    ((grows_grow l 1 0).bind grows_some).bind hlater
  exact hboth.mono (Nat.zero_le _) (by omega)

theorem hasRoom_words {ts : List Text} (h : (alt r s).alternatives.mapM literal? = some ts)
    (hn : ∀ d : Direction, 64 + (Branches.ofWords (ts.map d.octets)).room 0 ≤ n) :
    HasRoom (.alt r s) 0 n := by
  intro d l
  rw [layOut, h]
  exact (grows_addWords _ l).mono (Nat.zero_le 0) (hn d)

def layOutWhole (d : Direction) (r : Regex) (start : Layout) : Option Layout :=
  match d with
  | .forwards => do (← layOut .forwards r .notIn (← start.grow 1 0)).grow 2 0
  | .backwards => do (← layOut .backwards r .notIn start).grow 1 0

theorem layout?_eq (d : Direction) (r : Regex) : r.layout? d =
    (if isAnchored d r then grow 1 0 ⟨0, 0⟩ else grow 3 16 ⟨0, 0⟩) >>= layOutWhole d r := by
  rw [layout?]
  split
  · cases d with
    | forwards => rfl
    | backwards => rfl
  · cases d with
    | forwards => rfl
    | backwards => rfl

theorem HasRoom.grows_layOutWhole (h : HasRoom r a b) (d : Direction) (l : Layout) :
    Grows l a (b + 96) (layOutWhole d r l) := by
  cases d with
  | forwards =>
    have hall : Grows l (32 + (a + 64)) (32 + (b + 64)) (layOutWhole .forwards r l) :=
      (grows_grow l 1 0).bind fun l => (h .forwards l).bind fun l => grows_grow l 2 0
    exact hall.mono (by omega) (by omega)
  | backwards =>
    exact ((h .backwards l).bind fun l => grows_grow l 1 0).mono (by omega) (by omega)

theorem HasRoom.grows_layout? (h : HasRoom r a b) (d : Direction) :
    Grows ⟨0, 0⟩ a (b + 208) (r.layout? d) := by
  have hstart : Grows ⟨0, 0⟩ 0 112
      (if isAnchored d r then grow 1 0 ⟨0, 0⟩ else grow 3 16 ⟨0, 0⟩) := by
    split
    next => exact (grows_grow _ 1 0).mono (Nat.zero_le _) (by decide)
    next => exact (grows_grow _ 3 16).mono (Nat.zero_le _) (Nat.le_refl _)
  rw [layout?_eq]
  exact (hstart.bind (h.grows_layOutWhole d)).mono (by omega) (by omega)

theorem octets_of_layout? (h : r.layout? d = some l) : l.octets ≤ room := by
  rw [layout?_eq] at h
  obtain ⟨start, -, h⟩ := Option.bind_eq_some_iff.1 h
  cases d with
  | forwards =>
    obtain ⟨before, -, h⟩ := Option.bind_eq_some_iff.1 h
    obtain ⟨body, -, h⟩ := Option.bind_eq_some_iff.1 h
    exact octets_le_room h
  | backwards =>
    obtain ⟨body, -, h⟩ := Option.bind_eq_some_iff.1 h
    exact octets_le_room h

theorem HasRoom.fits (h : HasRoom r a b) (hb : b + 208 ≤ room) : r.fits = true := by
  have hsome (d : Direction) : (r.layout? d).isSome = true := by
    have hgrows := h.grows_layout? d
    cases hl : r.layout? d with
    | none =>
      rw [hl] at hgrows
      exact absurd hgrows (Nat.not_lt_of_le ((Nat.zero_add _).trans_le hb))
    | some l => rfl
  rw [Regex.fits, hsome, hsome]
  rfl

theorem HasRoom.not_fits (h : HasRoom r a b) (ha : room < a) : r.fits = false := by
  have hnone : r.layout? .forwards = none := by
    have hgrows := h.grows_layout? .forwards
    cases hl : r.layout? .forwards with
    | none => rfl
    | some l =>
      rw [hl] at hgrows
      have hleast : 0 + a ≤ l.octets := hgrows.1
      have hroom := octets_of_layout? hl
      omega
  rw [Regex.fits, hnone]
  rfl

structure HaveRoom (rs : List Regex) (a b : Nat) : Prop where
  ne_nil : rs ≠ []
  room : HasRoom (sequence rs) a b

theorem HasRoom.one (h : HasRoom r a b) : HaveRoom [r] a b := ⟨List.cons_ne_nil r [], h⟩

theorem HaveRoom.mono (h : HaveRoom rs a b) (ha : c ≤ a) (hb : b ≤ e) : HaveRoom rs c e :=
  ⟨h.ne_nil, h.room.mono ha hb⟩

theorem HaveRoom.cons (hr : HasRoom r a b) (hrs : HaveRoom rs c e) :
    HaveRoom (r :: rs) (a + c) (b + e) := by
  obtain ⟨hne, hroom⟩ := hrs
  cases rs with
  | nil => exact absurd rfl hne
  | cons s rs => exact ⟨List.cons_ne_nil r _, hr.seq hroom⟩

theorem HaveRoom.literal (x : Text) (h : HaveRoom rs a b) :
    HaveRoom (x.map (fun c => .char (.single c)) ++ rs) (32 * x.byteLength + a) (32 * x.byteLength + b) := by
  induction x with
  | nil => simpa using h
  | cons c x ih =>
    rw [Text.byteLength_cons, Nat.mul_add, Nat.add_assoc, Nat.add_assoc]
    exact .cons (hasRoom_single c) ih

end
end Unscramble.Regex
