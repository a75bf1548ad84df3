import Unscramble.Text.Basic

/-! Offsets between the parts of a text: cutting where one part ends and the next begins. -/
namespace Unscramble.Text

@[simp] theorem byteLength_nil : byteLength [] = 0 := rfl

@[simp] theorem byteLength_cons (c : Char) (t : Text) :
    byteLength (c :: t) = c.utf8Size + byteLength t := rfl

@[simp] theorem byteLength_append (u t : Text) :
    byteLength (u ++ t) = byteLength u + byteLength t := by
  induction u with
  | nil => simp
  | cons c u ih => simp [ih, Nat.add_assoc]

theorem byteLength_replicate (n : Nat) (c : Char) :
    byteLength (List.replicate n c) = n * c.utf8Size := by
  induction n with
  | zero => exact (Nat.zero_mul _).symm
  | succ n ih => rw [List.replicate_succ, byteLength_cons, ih, Nat.succ_mul, Nat.add_comm]

/-- Of two texts that begin another one, the offsets of their ends tell which is which. -/
theorem eq_of_byteLength_eq {u v s t : Text} (h : u ++ s = v ++ t)
    (hl : byteLength u = byteLength v) : u = v := by
  induction u generalizing v with
  | nil =>
    cases v with
    | nil => rfl
    | cons d v =>
      have hd := d.utf8Size_pos
      simp only [byteLength_nil, byteLength_cons] at hl
      omega
  | cons c u ih =>
    cases v with
    | nil =>
      have hc := c.utf8Size_pos
      simp only [byteLength_nil, byteLength_cons] at hl
      omega
    | cons d v =>
      obtain ⟨rfl, ht⟩ := List.cons.inj h
      simp only [byteLength_cons, Nat.add_left_cancel_iff] at hl
      rw [ih ht hl]

theorem dropBytes?_append (u t : Text) : dropBytes? (byteLength u) (u ++ t) = some t := by
  induction u with
  | nil => simp [dropBytes?]
  | cons c u ih =>
    obtain ⟨n, hn⟩ := Nat.exists_eq_succ_of_ne_zero (Nat.ne_of_gt c.utf8Size_pos)
    have hs : c.utf8Size + byteLength u = (n + byteLength u) + 1 := by omega
    have hd : n + byteLength u + 1 - c.utf8Size = byteLength u := by omega
    have hle : c.utf8Size ≤ n + byteLength u + 1 := by omega
    simp only [byteLength_cons, List.cons_append, hs, dropBytes?, hd, if_pos hle, ih]

theorem takeBytes?_append (u t : Text) : takeBytes? (byteLength u) (u ++ t) = some u := by
  induction u with
  | nil => simp [takeBytes?]
  | cons c u ih =>
    obtain ⟨n, hn⟩ := Nat.exists_eq_succ_of_ne_zero (Nat.ne_of_gt c.utf8Size_pos)
    have hs : c.utf8Size + byteLength u = (n + byteLength u) + 1 := by omega
    have hd : n + byteLength u + 1 - c.utf8Size = byteLength u := by omega
    have hle : c.utf8Size ≤ n + byteLength u + 1 := by omega
    simp only [byteLength_cons, List.cons_append, hs, takeBytes?, hd, if_pos hle, ih,
      Option.map_some]

theorem slice?_append (u v t : Text) :
    slice? (u ++ v ++ t) ⟨byteLength u, byteLength (u ++ v)⟩ = some v := by
  rw [List.append_assoc]
  simp [slice?, dropBytes?_append, takeBytes?_append]

variable {c : Char} {n : Nat} {t x : Text}

theorem dropBytes?_cons (h : c.utf8Size ≤ n) :
    dropBytes? n (c :: t) = dropBytes? (n - c.utf8Size) t := by
  have hc := c.utf8Size_pos
  cases n with
  | zero => omega
  | succ n => rw [dropBytes?, if_pos h]

theorem dropBytes?_inside (h0 : 0 < n) (h : n < c.utf8Size) : dropBytes? n (c :: t) = none := by
  cases n with
  | zero => exact absurd h0 (Nat.lt_irrefl 0)
  | succ n => rw [dropBytes?, if_neg (Nat.not_le.2 h)]

theorem dropBytes?_eq_some_iff : dropBytes? n t = some x ↔ ∃ u, t = u ++ x ∧ byteLength u = n := by
  constructor
  · intro h
    induction t generalizing n with
    | nil =>
      cases n with
      | zero => exact ⟨[], by simpa [dropBytes?] using h, rfl⟩
      | succ n => simp [dropBytes?] at h
    | cons c t ih =>
      by_cases hn : c.utf8Size ≤ n
      · rw [dropBytes?_cons hn] at h
        obtain ⟨u, rfl, hu⟩ := ih h
        exact ⟨c :: u, rfl, by rw [byteLength_cons, hu, Nat.add_sub_cancel' hn]⟩
      · cases n with
        | zero => exact ⟨[], by simpa [dropBytes?] using h, rfl⟩
        | succ n =>
          rw [dropBytes?_inside (Nat.succ_pos n) (Nat.lt_of_not_le hn)] at h
          cases h
  · rintro ⟨u, rfl, rfl⟩
    exact dropBytes?_append u x

theorem takeBytes?_eq_some_iff : takeBytes? n t = some x ↔ ∃ v, t = x ++ v ∧ byteLength x = n := by
  constructor
  · intro h
    induction t generalizing n x with
    | nil =>
      cases n with
      | zero => exact ⟨[], by simpa [takeBytes?] using h.symm, by rw [← Option.some.inj h]; rfl⟩
      | succ n => simp [takeBytes?] at h
    | cons c t ih =>
      cases n with
      | zero =>
        obtain rfl : [] = x := by simpa [takeBytes?] using h
        exact ⟨c :: t, rfl, rfl⟩
      | succ n =>
        rw [takeBytes?] at h
        split at h
        next hn =>
          obtain ⟨y, hy, rfl⟩ := Option.map_eq_some_iff.1 h
          obtain ⟨v, rfl, hv⟩ := ih hy
          exact ⟨v, rfl, by rw [byteLength_cons, hv, Nat.add_sub_cancel' hn]⟩
        · cases h
  · rintro ⟨v, rfl, rfl⟩
    exact takeBytes?_append x v

theorem slice?_eq_some_iff {s : Span} : slice? t s = some x ↔
    ∃ u v, t = u ++ x ++ v ∧ byteLength u = s.start ∧ byteLength (u ++ x) = s.stop := by
  constructor
  · intro h
    rw [slice?] at h
    split at h
    next hle =>
      obtain ⟨y, hy, hx⟩ := Option.bind_eq_some_iff.1 h
      obtain ⟨u, rfl, hu⟩ := dropBytes?_eq_some_iff.1 hy
      obtain ⟨v, rfl, hv⟩ := takeBytes?_eq_some_iff.1 hx
      exact ⟨u, v, (List.append_assoc u x v).symm, hu, by rw [byteLength_append]; omega⟩
    · cases h
  · rintro ⟨u, v, rfl, hu, hv⟩
    have hs : s = ⟨byteLength u, byteLength (u ++ x)⟩ := by rw [hu, hv]
    rw [hs, slice?_append]

end Unscramble.Text
