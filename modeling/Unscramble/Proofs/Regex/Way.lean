import Mathlib.Logic.Relation
import Unscramble.Proofs.Text.Offsets
import Unscramble.Regex.Basic

/-! What it is for an expression to match, without an order of trying: the ways from one state to
another. -/
namespace Unscramble
open Relation

def Times.Allows (k : Times) (n : Nat) : Prop :=
  k.least ≤ n ∧ ∀ m, k.most = some m → n ≤ max k.least m

namespace Regex

def Chain (R : State → State → Prop) : Nat → State → State → Prop
  | 0 => Eq
  | n + 1 => Comp R (Chain R n)

/-- An expression can be matched from the first state so that the match comes to the second. -/
def Way : Regex → State → State → Prop
  | empty, s, t => s = t
  | char c, s, t => ∃ d u, s.place.rest = d :: u ∧ c.contains d = true ∧ t = s.past d u
  | look l, s, t => s.place.meets l = true ∧ s = t
  | seq a b, s, t => ∃ u, Way a s u ∧ Way b u t
  | alt a b, s, t => Way a s t ∨ Way b s t
  | repeated _ k r, s, t => ∃ n, k.Allows n ∧ Chain (Way r) n s t
  | group key r, s, t => ∃ u, Way r s u ∧ t = u.record key s.place

/-- Whether only single characters are repeated without a limit. -/
def loopsAreRuns : Regex → Bool
  | seq a b | alt a b => a.loopsAreRuns && b.loopsAreRuns
  | repeated _ k r => (k.most.isSome || r.charClass?.isSome) && r.loopsAreRuns
  | group _ r => r.loopsAreRuns
  | _ => true

theorem chain_add (R : State → State → Prop) (m n : Nat) :
    Chain R (m + n) = Comp (Chain R m) (Chain R n) := by
  induction m with
  | zero => simp only [Chain, Nat.zero_add, eq_comp]
  | succ m ih => simp only [Nat.succ_add, Chain, ih, comp_assoc]

theorem chain_one (R : State → State → Prop) : Chain R 1 = R := by
  simp only [Chain, comp_eq]

namespace Place

def IsIn (p : Place) (w : Text) : Prop :=
  ∃ u, w = u ++ p.rest ∧ p.offset = Text.byteLength u ∧ p.before = u.getLast?

theorem start_isIn (w : Text) : (start w).IsIn w := ⟨[], rfl, rfl, rfl⟩

theorem past_isIn {p : Place} {w u : Text} {c : Char} (h : p.IsIn w) (hr : p.rest = c :: u) :
    (p.past c u).IsIn w := by
  obtain ⟨v, hw, ho, -⟩ := h
  refine ⟨v ++ [c], ?_, ?_, ?_⟩
  · simp [past, hw, hr]
  · simp [past, ho]
  · simp [past]

theorem eq_of_offset_eq {p q : Place} {w : Text} (hp : p.IsIn w) (hq : q.IsIn w)
    (h : p.offset = q.offset) : p = q := by
  obtain ⟨u, hu, hpo, hpb⟩ := hp
  obtain ⟨v, hv, hqo, hqb⟩ := hq
  have he : u = v := Text.eq_of_byteLength_eq (hu ▸ hv) (by rw [← hpo, ← hqo, h])
  subst he
  have hr : p.rest = q.rest := List.append_cancel_left (hu.symm.trans hv)
  cases p
  cases q
  simp_all

theorem offset_lt_past (p : Place) (c : Char) (u : Text) : p.offset < (p.past c u).offset := by
  have hc := c.utf8Size_pos
  simp only [past]
  omega

def took (p : Place) (u : Text) : Place :=
  ⟨p.offset + Text.byteLength u, u.getLast?.or p.before, p.rest.drop u.length⟩

theorem took_nil (p : Place) : p.took [] = p := rfl

theorem took_append (p : Place) (u v : Text) : p.took (u ++ v) = (p.took u).took v := by
  simp only [took, Text.byteLength_append, List.getLast?_append, Option.or_assoc, List.length_append,
    List.drop_drop, Nat.add_assoc]

theorem past_eq_took {p : Place} {c : Char} {t : Text} (h : p.rest = c :: t) :
    p.past c t = p.took [c] := by
  simp [past, took, h]

theorem rest_took {p : Place} {u v : Text} (h : p.rest = u ++ v) : (p.took u).rest = v := by
  simp [took, h]

theorem took_isIn {p : Place} {w u v : Text} (h : p.IsIn w) (hr : p.rest = u ++ v) :
    (p.took u).IsIn w := by
  obtain ⟨x, hw, ho, hb⟩ := h
  refine ⟨x ++ u, ?_, ?_, ?_⟩
  · simp [took, hw, hr]
  · simp [took, ho]
  · simp only [took, hb, List.getLast?_append]

end Place
end Regex
end Unscramble
