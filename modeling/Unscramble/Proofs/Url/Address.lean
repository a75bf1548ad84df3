import Mathlib.Tactic.SplitIfs
import Unscramble.Proofs.Text.Cutting
import Unscramble.Proofs.Text.Number
import Unscramble.Url.Host

/-! Addresses are read back from their canonical form. -/
namespace Unscramble.Url
variable {b n : Nat} {t rest : Text} {ps qs : List Nat} {r : Ipv6Reading}

theorem hexDigitValue_lt (c : Char) : hexDigitValue c < 16 := by
  unfold hexDigitValue Percent.hexValue?
  split_ifs <;> simp only [Option.getD_some, Option.getD_none] <;> omega

theorem hexDigit_digitChar : ∀ n < 16, hexDigitValue n.digitChar = n ∧ isHexDigit n.digitChar = true := by
  decide

theorem digitsValue_concat (base : Nat) (t : Text) (c : Char) :
    digitsValue base (t ++ [c]) = digitsValue base t * base + hexDigitValue c := by
  simp [digitsValue]

theorem digitsValue_toDigits (hb : 1 < b) (hb' : b ≤ 16) (n : Nat) : digitsValue b (Nat.toDigits b n) = n := by
  induction n using Nat.strongRecOn with
  | ind n ih =>
    rw [Nat.toDigits_eq_if hb]
    split
    next hn => simp [digitsValue, (hexDigit_digitChar n (by omega)).1]
    next hn =>
      have hmod := Nat.mod_lt n (Nat.lt_trans Nat.zero_lt_one hb)
      rw [digitsValue_concat, ih (n / b) (Nat.div_lt_self (by omega) hb),
        (hexDigit_digitChar (n % b) (by omega)).1]
      exact Nat.div_add_mod' n b

theorem isHexDigit_of_mem_toDigits {c : Char} (h : c ∈ Nat.toDigits 16 n) : isHexDigit c = true := by
  induction n using Nat.strongRecOn with
  | ind n ih =>
    rw [Nat.toDigits_eq_if (by decide)] at h
    split at h
    next hn => exact List.mem_singleton.1 h ▸ (hexDigit_digitChar n hn).2
    · obtain h | h := List.mem_append.1 h
      · exact ih (n / 16) (by omega) h
      · exact List.mem_singleton.1 h ▸ (hexDigit_digitChar _ (by omega)).2

theorem digitsValue_lt (t : Text) : digitsValue 16 t < Nat.pow 16 t.length := by
  induction t using List.reverseRecOn with
  | nil => decide
  | append_singleton t c ih =>
    have hc := hexDigitValue_lt c
    have hpow : Nat.pow 16 (t.length + 1) = Nat.pow 16 t.length * 16 := rfl
    rw [digitsValue_concat, List.length_append, List.length_singleton, hpow]
    omega

theorem ipv4Part?_render (n : Nat) : ipv4Part? (Number.render n) = some n := by
  have hdigits : (Number.render n).all Char.isDigit = true :=
    List.all_eq_true.2 fun _ => Number.isDigit_of_mem_render
  have hvalue : digitsValue 10 (Number.render n) = n := digitsValue_toDigits (by decide) (by decide) n
  unfold ipv4Part?
  split
  next hr => exact absurd hr (Number.render_ne_nil n)
  next hr => cases Number.eq_nil_of_render hr
  next hr => cases Number.eq_nil_of_render hr
  next hr => cases Number.eq_nil_of_render hr
  · rw [if_pos hdigits, hvalue]

def octetsOf (n : Nat) : List Nat := [n / 16777216, n / 65536 % 256, n / 256 % 256, n % 256]

theorem ipv4OfParts?_singleton (p left : Nat) :
    ipv4OfParts? [p] left = if p < Nat.pow 256 left then some p else none := rfl

theorem ipv4OfParts?_cons_cons (p q : Nat) (ps : List Nat) (left : Nat) :
    ipv4OfParts? (p :: q :: ps) (left + 1) =
      if p < 256 then (ipv4OfParts? (q :: ps) left).map (p * Nat.pow 256 left + ·) else none := rfl

theorem ipv4OfParts?_octetsOf (hn : n < 4294967296) : ipv4OfParts? (octetsOf n) 4 = some n := by
  have hfirst : n / 16777216 < 256 := by omega
  have hsecond : n / 65536 % 256 < 256 := Nat.mod_lt _ (by decide)
  have hthird : n / 256 % 256 < 256 := Nat.mod_lt _ (by decide)
  have hlast : n % 256 < Nat.pow 256 1 := Nat.mod_lt _ (by decide)
  have hthree : Nat.pow 256 3 = 16777216 := rfl
  have htwo : Nat.pow 256 2 = 65536 := rfl
  have hone : Nat.pow 256 1 = 256 := rfl
  rw [octetsOf, ipv4OfParts?_cons_cons, if_pos hfirst, ipv4OfParts?_cons_cons, if_pos hsecond,
    ipv4OfParts?_cons_cons, if_pos hthird, ipv4OfParts?_singleton, if_pos hlast, hthree, htwo, hone]
  have hsum : n / 16777216 * 16777216 + (n / 65536 % 256 * 65536 + (n / 256 % 256 * 256 + n % 256)) = n := by
    omega
  exact congrArg some hsum

theorem pieces_renderIpv4 (n : Nat) : Text.pieces '.' (renderIpv4 n) = (octetsOf n).map Number.render := by
  rw [Text.pieces_eq_splitOn]
  refine List.splitOn_intercalate '.' ?_ (List.cons_ne_nil _ _)
  rw [List.forall_mem_map]
  exact fun m _ hm => absurd (Number.isDigit_of_mem_render hm) (by decide)

theorem ipv4Parts_renderIpv4 (n : Nat) : ipv4Parts (renderIpv4 n) = (octetsOf n).map Number.render := by
  have hlast : ((octetsOf n).map Number.render).getLast? ≠ some [] := fun h =>
    Number.render_ne_nil _ (Option.some.inj h)
  rw [ipv4Parts, pieces_renderIpv4, if_neg fun h => hlast (beq_iff_eq.1 (Bool.and_eq_true_iff.1 h).2)]

theorem ipv4?_renderIpv4 (hn : n < 4294967296) : ipv4? (renderIpv4 n) = some n := by
  have hparts : ((octetsOf n).map Number.render).mapM ipv4Part? = some (octetsOf n) := by
    simp [octetsOf, ipv4Part?_render]
  rw [ipv4?, ipv4Parts_renderIpv4, hparts]
  exact ipv4OfParts?_octetsOf hn

theorem endsInNumber_renderIpv4 (n : Nat) : endsInNumber (renderIpv4 n) = true := by
  rw [endsInNumber, ipv4Parts_renderIpv4]
  have hlast : ((octetsOf n).map Number.render).getLast? = some (Number.render (n % 256)) := rfl
  rw [hlast]
  dsimp only
  rw [ipv4Part?_render, Option.isSome_some, Bool.or_true]

theorem lt_of_ipv4OfParts? {left : Nat} (h : ipv4OfParts? ps left = some n) (hleft : ps.length ≤ left) :
    n < Nat.pow 256 left := by
  induction ps generalizing left n with
  | nil => cases h
  | cons p ps ih =>
    cases ps with
    | nil =>
      rw [ipv4OfParts?_singleton] at h
      split at h
      · exact Option.some.inj h ▸ ‹_›
      · cases h
    | cons q ps =>
      obtain ⟨left, rfl⟩ : ∃ m, left = m + 1 := ⟨left - 1, by simp at hleft; omega⟩
      rw [ipv4OfParts?_cons_cons] at h
      split at h
      next hp =>
        obtain ⟨m, hm, rfl⟩ := Option.map_eq_some_iff.1 h
        have hlt := ih hm (by simpa using hleft)
        have hpow : Nat.pow 256 (left + 1) = Nat.pow 256 left * 256 := rfl
        have hmul := Nat.mul_le_mul_right (Nat.pow 256 left) (Nat.succ_le_of_lt hp)
        rw [Nat.succ_mul] at hmul
        rw [hpow]
        omega
      · cases h

theorem lt_of_ipv4? (h : ipv4? t = some n) : n < 4294967296 := by
  obtain ⟨ps, -, hps⟩ := Option.bind_eq_some_iff.1 h
  split at hps
  · exact lt_of_ipv4OfParts? hps ‹_›
  · cases hps

structure IsIpv6 (ps : List Nat) : Prop where
  length : ps.length = 8
  lt : ∀ p ∈ ps, p < 65536

theorem isIpv6_finish (h : ∀ p ∈ r.pieces, p < 65536) (hps : r.finish = some ps) : IsIpv6 ps := by
  rw [Ipv6Reading.finish] at hps
  split at hps
  · split at hps
    · exact Option.some.inj hps ▸ ⟨‹_›, h⟩
    · cases hps
  next k _ =>
    split at hps
    next hlength =>
      obtain rfl := Option.some.inj hps
      refine ⟨by simp; omega, ?_⟩
      simp only [List.mem_append, List.mem_replicate]
      rintro p ((hp | ⟨-, rfl⟩) | hp)
      · exact h p (List.mem_of_mem_take hp)
      · decide
      · exact h p (List.mem_of_mem_drop hp)
    · cases hps

theorem lt_of_plainOctet? (h : plainOctet? t = some n) : n < 256 := by
  unfold plainOctet? at h
  split at h
  · cases h; decide
  · split at h
    next hguard => exact Option.some.inj h ▸ of_decide_eq_true (Bool.and_eq_true_iff.1 hguard).2
    · cases h
  · cases h

theorem forall_of_mapM {α β : Type} {f : α → Option β} {P : β → Prop} (hf : ∀ x y, f x = some y → P y)
    {xs : List α} {ys : List β} (h : xs.mapM f = some ys) : ∀ y ∈ ys, P y := by
  induction xs generalizing ys with
  | nil => cases h; nofun
  | cons x xs ih =>
    rw [List.mapM_cons] at h
    obtain ⟨y, hy, h⟩ := Option.bind_eq_some_iff.1 h
    obtain ⟨ys', hys, h⟩ := Option.bind_eq_some_iff.1 h
    obtain rfl := Option.some.inj h
    exact List.forall_mem_cons.2 ⟨hf x y hy, ih hys⟩

theorem lt_of_embeddedIpv4? (h : embeddedIpv4? t = some ps) : ∀ p ∈ ps, p < 65536 := by
  obtain ⟨os, hos, hps⟩ := Option.bind_eq_some_iff.1 h
  have hlt : ∀ o ∈ os, o < 256 := forall_of_mapM (fun _ _ => lt_of_plainOctet?) hos
  split at hps
  · obtain rfl := Option.some.inj hps
    simp only [List.forall_mem_cons] at hlt
    obtain ⟨ha, hb, hc, hd, -⟩ := hlt
    exact List.forall_mem_cons.2 ⟨by omega, List.forall_mem_singleton.2 (by omega)⟩
  · cases hps

theorem isIpv6_ipv6Pieces? (h : ∀ p ∈ r.pieces, p < 65536) (hps : ipv6Pieces? b r t = some ps) :
    IsIpv6 ps := by
  induction b generalizing r t with
  | zero => cases hps
  | succ b ih =>
    have hpush (n : Nat) (hn : n < 65536) : ∀ p ∈ r.pieces ++ [n], p < 65536 :=
      List.forall_mem_append.2 ⟨h, List.forall_mem_singleton.2 hn⟩
    cases t with
    | nil => exact isIpv6_finish h hps
    | cons c t =>
      have hdigits : digitsValue 16 (((c :: t).takeWhile isHexDigit).take 4) < 65536 := by
        refine Nat.lt_of_lt_of_le (digitsValue_lt _) ?_
        exact Nat.pow_le_pow_right (by decide) (List.length_take_le _ _)
      rw [ipv6Pieces?] at hps
      split at hps
      · cases hps
      split at hps
      · split at hps
        · cases hps
        · exact ih (hpush 0 (by decide)) hps
      dsimp only at hps
      split at hps
      · exact ih (hpush _ hdigits) hps
      split at hps
      · split at hps
        · cases hps
        · obtain ⟨qs, hqs, hps⟩ := Option.bind_eq_some_iff.1 hps
          exact isIpv6_finish (List.forall_mem_append.2 ⟨h, lt_of_embeddedIpv4? hqs⟩) hps
      split at hps
      · exact ih (hpush _ hdigits) hps
      · cases hps

theorem isIpv6_ipv6? (h : ipv6? t = some ps) : IsIpv6 ps := by
  unfold ipv6? at h
  split at h
  · exact isIpv6_ipv6Pieces? (by simp) h
  · cases h
  · exact isIpv6_ipv6Pieces? (by simp) h

theorem length_toDigits_le (hn : n < 65536) : (Nat.toDigits 16 n).length ≤ 4 :=
  (Nat.length_toDigits_le_iff (by decide) (by decide)).2 hn

theorem take_digits (hn : n < 65536) (rest : Text) (hrest : ∀ c ∈ rest.head?, isHexDigit c = false) :
    ((Nat.toDigits 16 n ++ rest).takeWhile isHexDigit).take 4 = Nat.toDigits 16 n := by
  have hdigits : ∀ c ∈ Nat.toDigits 16 n, isHexDigit c = true := fun _ => isHexDigit_of_mem_toDigits
  rw [(Text.span_append hdigits ((Option.any_eq_false _ _).2 hrest)).1,
    List.take_of_length_le (length_toDigits_le hn)]

theorem toDigits_eq_cons (n : Nat) : ∃ c t, Nat.toDigits 16 n = c :: t ∧ c ≠ ':' := by
  cases h : Nat.toDigits 16 n with
  | nil => exact absurd h Nat.toDigits_ne_nil
  | cons c t =>
    have hc : isHexDigit c = true := isHexDigit_of_mem_toDigits (h ▸ List.mem_cons_self)
    refine ⟨c, t, rfl, ?_⟩
    rintro rfl
    cases hc

theorem ipv6Pieces?_last (hn : n < 65536) (hr : r.pieces.length < 8) :
    ipv6Pieces? (b + 1) r (Nat.toDigits 16 n) = ipv6Pieces? b ⟨r.pieces ++ [n], r.gap⟩ [] := by
  have htake := take_digits hn [] nofun
  have hvalue := digitsValue_toDigits (b := 16) (by decide) (by decide) n
  rw [List.append_nil] at htake
  obtain ⟨c, t, hc, hcolon⟩ := toDigits_eq_cons n
  rw [hc] at htake hvalue ⊢
  rw [ipv6Pieces?, if_neg (Nat.ne_of_lt hr), if_neg hcolon]
  simp only [htake, List.drop_length, hvalue]

theorem ipv6Pieces?_colon (hn : n < 65536) (hr : r.pieces.length < 8) (hrest : rest ≠ []) :
    ipv6Pieces? (b + 1) r (Nat.toDigits 16 n ++ ':' :: rest) =
      ipv6Pieces? b ⟨r.pieces ++ [n], r.gap⟩ rest := by
  have htake := take_digits hn (':' :: rest) (by rintro c ⟨⟩; decide)
  have hvalue := digitsValue_toDigits (b := 16) (by decide) (by decide) n
  have hdrop : (Nat.toDigits 16 n ++ ':' :: rest).drop (Nat.toDigits 16 n).length = ':' :: rest :=
    List.drop_left
  obtain ⟨c, t, hc, hcolon⟩ := toDigits_eq_cons n
  rw [hc] at htake hvalue hdrop ⊢
  rw [List.cons_append] at htake hdrop ⊢
  rw [ipv6Pieces?, if_neg (Nat.ne_of_lt hr), if_neg hcolon]
  simp only [htake, hdrop, hvalue]
  rw [if_neg (by decide), if_pos (by simpa using hrest)]

theorem renderIpv6Pieces_singleton (p : Nat) : renderIpv6Pieces [p] = Nat.toDigits 16 p :=
  List.intercalate_singleton

theorem renderIpv6Pieces_cons_cons (p q : Nat) (ps : List Nat) :
    renderIpv6Pieces (p :: q :: ps) = Nat.toDigits 16 p ++ ':' :: renderIpv6Pieces (q :: ps) := by
  rw [renderIpv6Pieces, List.map_cons, List.map_cons, List.intercalate_cons_cons, List.append_assoc]
  rfl

theorem renderIpv6Pieces_ne_nil (p : Nat) (ps : List Nat) : renderIpv6Pieces (p :: ps) ≠ [] := by
  cases ps with
  | nil => rw [renderIpv6Pieces_singleton]; exact Nat.toDigits_ne_nil
  | cons q ps =>
    rw [renderIpv6Pieces_cons_cons]
    exact fun h => Nat.toDigits_ne_nil (List.append_eq_nil_iff.1 h).1

theorem ipv6Pieces?_before (hps : ∀ p ∈ ps, p < 65536) (hne : ps ≠ [])
    (hr : r.pieces.length + ps.length ≤ 8) (hrest : rest ≠ [])
    (hb : (renderIpv6Pieces ps ++ ':' :: rest).length < b) : ∃ b', rest.length < b' ∧
      ipv6Pieces? b r (renderIpv6Pieces ps ++ ':' :: rest) =
        ipv6Pieces? b' ⟨r.pieces ++ ps, r.gap⟩ rest := by
  induction ps generalizing b r with
  | nil => exact absurd rfl hne
  | cons p ps ih =>
    obtain ⟨hp, hps⟩ := List.forall_mem_cons.1 hps
    rw [List.length_cons] at hr
    obtain ⟨b, rfl⟩ : ∃ m, b = m + 1 := ⟨b - 1, by omega⟩
    cases ps with
    | nil =>
      rw [renderIpv6Pieces_singleton, List.length_append, List.length_cons] at hb
      rw [renderIpv6Pieces_singleton]
      exact ⟨b, by omega, ipv6Pieces?_colon hp (by omega) hrest⟩
    | cons q ps =>
      have hmore : renderIpv6Pieces (q :: ps) ++ ':' :: rest ≠ [] := fun h =>
        renderIpv6Pieces_ne_nil q ps (List.append_eq_nil_iff.1 h).1
      have hlength : (r.pieces ++ [p]).length + (q :: ps).length ≤ 8 := by
        rw [List.length_append, List.length_singleton]
        omega
      rw [renderIpv6Pieces_cons_cons, List.append_assoc, List.cons_append, List.length_append,
        List.length_cons] at hb
      obtain ⟨b', hb', hread⟩ := ih (r := ⟨r.pieces ++ [p], r.gap⟩) (b := b) hps (List.cons_ne_nil q ps)
        hlength (by omega)
      refine ⟨b', hb', ?_⟩
      rw [renderIpv6Pieces_cons_cons, List.append_assoc, List.cons_append,
        ipv6Pieces?_colon hp (by omega) hmore, hread, List.append_assoc]
      rfl

theorem ipv6Pieces?_render (hps : ∀ p ∈ ps, p < 65536) (hr : r.pieces.length + ps.length ≤ 8)
    (hb : (renderIpv6Pieces ps).length < b) :
    ipv6Pieces? b r (renderIpv6Pieces ps) = Ipv6Reading.finish ⟨r.pieces ++ ps, r.gap⟩ := by
  induction ps generalizing b r with
  | nil =>
    obtain ⟨b, rfl⟩ : ∃ m, b = m + 1 := ⟨b - 1, by omega⟩
    rw [List.append_nil]
    rfl
  | cons p ps ih =>
    obtain ⟨hp, hps⟩ := List.forall_mem_cons.1 hps
    have hpos := List.length_pos_iff.2 (renderIpv6Pieces_ne_nil p ps)
    rw [List.length_cons] at hr
    obtain ⟨b, rfl⟩ : ∃ m, b = m + 2 := ⟨b - 2, by omega⟩
    cases ps with
    | nil =>
      rw [renderIpv6Pieces_singleton, ipv6Pieces?_last hp (by omega)]
      rfl
    | cons q ps =>
      have hlength : (r.pieces ++ [p]).length + (q :: ps).length ≤ 8 := by
        rw [List.length_append, List.length_singleton]
        omega
      rw [renderIpv6Pieces_cons_cons, List.length_append, List.length_cons] at hb
      rw [renderIpv6Pieces_cons_cons, ipv6Pieces?_colon hp (by omega) (renderIpv6Pieces_ne_nil q ps),
        ih hps hlength (by omega), List.append_assoc]
      rfl

theorem zeroRun_spec (ps : List Nat) :
    zeroRun ps ≤ ps.length ∧ ps = List.replicate (zeroRun ps) 0 ++ ps.drop (zeroRun ps) := by
  induction ps with
  | nil => exact ⟨Nat.le_refl _, rfl⟩
  | cons p ps ih =>
    by_cases hp : p = 0
    · have hrun : zeroRun (p :: ps) = zeroRun ps + 1 := by simp [zeroRun, hp]
      rw [hrun, List.replicate_succ, List.drop_succ_cons, List.cons_append, ← ih.2, hp]
      exact ⟨Nat.succ_le_succ ih.1, rfl⟩
    · have hrun : zeroRun (p :: ps) = 0 := by simp [zeroRun, hp]
      rw [hrun]
      exact ⟨Nat.zero_le _, rfl⟩

/-- The run that is left out consists of zeros. -/
theorem longestZeroRun_spec {k : Nat} (h : longestZeroRun ps = (k, n)) :
    k + n ≤ ps.length ∧ ps = ps.take k ++ List.replicate n 0 ++ ps.drop (k + n) := by
  induction ps generalizing k with
  | nil =>
    obtain ⟨rfl, rfl⟩ := Prod.mk.inj h
    exact ⟨Nat.le_refl _, rfl⟩
  | cons p ps ih =>
    rw [longestZeroRun] at h
    generalize hrun : longestZeroRun ps = run at h
    obtain ⟨k', n'⟩ := run
    dsimp only at h
    split at h
    · obtain ⟨rfl, rfl⟩ := Prod.mk.inj h
      rw [Nat.zero_add]
      exact zeroRun_spec (p :: ps)
    · obtain ⟨rfl, rfl⟩ := Prod.mk.inj h
      obtain ⟨hle, heq⟩ := ih hrun
      refine ⟨by simp only [List.length_cons]; omega, ?_⟩
      rw [List.take_succ_cons, Nat.add_right_comm, List.drop_succ_cons, List.cons_append, List.cons_append,
        ← heq]

theorem finish_gap {before after : List Nat} (h : before.length + n + after.length = 8) (hn : 0 < n) :
    Ipv6Reading.finish ⟨before ++ [0] ++ after, some (before.length + 1)⟩ =
      some (before ++ List.replicate n 0 ++ after) := by
  have hlength : (before ++ [0] ++ after).length = before.length + 1 + after.length := by
    rw [List.length_append, List.length_append, List.length_singleton]
  have hfront : before.length + 1 = (before ++ [0]).length := by simp
  have hfill : 8 - (before.length + 1 + after.length) = n - 1 := by omega
  have hzeros : [0] ++ List.replicate (n - 1) 0 = List.replicate n 0 := by
    obtain ⟨m, rfl⟩ : ∃ m, n = m + 1 := ⟨n - 1, by omega⟩
    rfl
  rw [Ipv6Reading.finish]
  dsimp only
  rw [if_pos (by omega), hlength, hfill, hfront, List.take_left, List.drop_left, List.append_assoc before,
    hzeros]

theorem ipv6?_of_head (ht : ∀ c ∈ t.head?, c ≠ ':') :
    ipv6? t = ipv6Pieces? (t.length + 1) ⟨[], none⟩ t := by
  unfold ipv6?
  split
  · exact absurd rfl (ht _ rfl)
  · exact absurd rfl (ht _ rfl)
  · rfl

theorem head?_renderIpv6Pieces (p : Nat) (ps : List Nat) (rest : Text) :
    ∀ c ∈ (renderIpv6Pieces (p :: ps) ++ rest).head?, c ≠ ':' := by
  obtain ⟨c, t, hc, hcolon⟩ := toDigits_eq_cons p
  cases ps with
  | nil =>
    rw [renderIpv6Pieces_singleton, hc]
    rintro d ⟨⟩
    exact hcolon
  | cons q ps =>
    rw [renderIpv6Pieces_cons_cons, hc]
    rintro d ⟨⟩
    exact hcolon

theorem ipv6Pieces?_double (hr : r.pieces.length < 8) (hgap : r.gap = none) (t : Text) :
    ipv6Pieces? (b + 1) r (':' :: t) =
      ipv6Pieces? b ⟨r.pieces ++ [0], some (r.pieces.length + 1)⟩ t := by
  rw [ipv6Pieces?, if_neg (Nat.ne_of_lt hr), if_pos rfl, hgap]
  rfl

theorem ipv6?_gap {before after : List Nat} (hbefore : ∀ p ∈ before, p < 65536)
    (hafter : ∀ p ∈ after, p < 65536) (h : before.length + 1 + after.length ≤ 8) :
    ipv6? (renderIpv6Pieces before ++ [':', ':'] ++ renderIpv6Pieces after) =
      Ipv6Reading.finish ⟨before ++ [0] ++ after, some (before.length + 1)⟩ := by
  cases before with
  | nil =>
    have hread := ipv6Pieces?_render (r := ⟨[0], some 1⟩) hafter h (Nat.lt_succ_self _)
    exact hread
  | cons p ps =>
    rw [List.append_assoc, ipv6?_of_head (head?_renderIpv6Pieces p ps _)]
    obtain ⟨b, hb, hread⟩ := ipv6Pieces?_before (r := ⟨[], none⟩) hbefore (List.cons_ne_nil p ps)
      (by simp at h ⊢; omega) (List.cons_ne_nil ':' (renderIpv6Pieces after)) (Nat.lt_succ_self _)
    refine hread.trans ?_
    obtain ⟨b, rfl⟩ : ∃ m, b = m + 1 := ⟨b - 1, by omega⟩
    rw [List.length_cons] at hb
    rw [ipv6Pieces?_double (by simp at h ⊢; omega) rfl]
    exact ipv6Pieces?_render hafter (by simp at h ⊢; omega) (by omega)

/-- An address is read back from its pieces, whether a run of zeros is left out or not. -/
theorem ipv6?_renderIpv6 (h : IsIpv6 ps) : ipv6? (renderIpv6 ps) = some ps := by
  obtain ⟨hlength, hlt⟩ := h
  rw [renderIpv6]
  generalize hrun : longestZeroRun ps = run
  obtain ⟨k, n⟩ := run
  obtain ⟨hle, hps⟩ := longestZeroRun_spec hrun
  dsimp only
  split
  next hn =>
    have hbefore : (ps.take k).length = k := List.length_take_of_le (by omega)
    have hafter : (ps.drop (k + n)).length = 8 - (k + n) := by rw [List.length_drop, hlength]
    rw [ipv6?_gap (fun p hp => hlt p (List.mem_of_mem_take hp)) (fun p hp => hlt p (List.mem_of_mem_drop hp))
      (by omega), finish_gap (n := n) (by omega) (by omega), ← hps]
  · cases ps with
    | nil => cases hlength
    | cons p ps =>
      have hhead := head?_renderIpv6Pieces p ps []
      rw [List.append_nil] at hhead
      rw [ipv6?_of_head hhead, ipv6Pieces?_render hlt (by simp [hlength]) (Nat.lt_succ_self _), List.nil_append,
        Ipv6Reading.finish]
      exact if_pos hlength

end Unscramble.Url
