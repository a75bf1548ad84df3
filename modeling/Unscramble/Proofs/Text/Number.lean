import Unscramble.Text.Number

/-! Numbers are read back from their decimal form. -/
namespace Unscramble.Number
variable {bound : Nat} {c : Char} {t : Text}

theorem isDigit_of_mem_render {n : Nat} (h : c ∈ render n) : c.isDigit = true :=
  Nat.isDigit_of_mem_toDigits (by decide) (by decide) h

theorem render_ne_nil (n : Nat) : render n ≠ [] := Nat.toDigits_ne_nil

theorem digitChar_ne_zero : ∀ n < 10, 0 < n → n.digitChar ≠ '0' := by decide

theorem head?_render {n : Nat} (hn : 0 < n) : (render n).head? ≠ some '0' := by
  induction n using Nat.strongRecOn with
  | ind n ih =>
    rw [render, Nat.toDigits_eq_if (by decide)]
    split
    next h => exact fun h0 => digitChar_ne_zero n h hn (Option.some.inj h0)
    next h =>
      cases htens : Nat.toDigits 10 (n / 10) with
      | nil => exact absurd htens Nat.toDigits_ne_nil
      | cons d ds =>
        have hhead := ih (n / 10) (by omega) (by omega)
        rwa [render, htens] at hhead

theorem eq_nil_of_render {n : Nat} (h : render n = '0' :: t) : t = [] := by
  cases n with
  | zero => exact (List.cons.inj h).2.symm
  | succ n => exact absurd (congrArg List.head? h) (head?_render (Nat.succ_pos n))

theorem le_ofDigitChars (t : Text) (acc : Nat) : acc ≤ Nat.ofDigitChars 10 t acc := by
  induction t generalizing acc with
  | nil => simp
  | cons c t ih =>
    rw [Nat.ofDigitChars_cons]
    have h := ih (10 * acc + (c.toNat - '0'.toNat))
    omega

/-- Digits are read as the number they stand for if it is within the bound, and nothing else is read. -/
theorem readDigits_eq_ok_iff {acc n : Nat} (h : acc ≤ bound) : readDigits bound acc t = .ok n ↔
    (∀ c ∈ t, c.isDigit = true) ∧ Nat.ofDigitChars 10 t acc = n ∧ n ≤ bound := by
  induction t generalizing acc with
  | nil =>
    simp only [readDigits, Except.ok.injEq, List.not_mem_nil, false_implies, implies_true,
      Nat.ofDigitChars_nil, true_and]
    constructor
    · rintro rfl
      exact ⟨rfl, h⟩
    · exact fun h => h.1
  | cons c t ih =>
    rw [Nat.ofDigitChars_cons, Nat.mul_comm 10 acc, List.forall_mem_cons]
    cases hc : c.isDigit with
    | false => simp [readDigits, digit?, hc]
    | true =>
      simp only [readDigits, digit?, hc, if_true, true_and]
      by_cases hle : acc * 10 + (c.toNat - '0'.toNat) ≤ bound
      · rw [if_pos hle, ih hle]
      · have hge := le_ofDigitChars t (acc * 10 + (c.toNat - '0'.toNat))
        rw [if_neg hle]
        constructor
        · nofun
        · rintro ⟨-, rfl, hb⟩
          omega

theorem readDigits_render {n : Nat} (hn : n ≤ bound) : readDigits bound 0 (render n) = .ok n := by
  have hv : Nat.ofDigitChars 10 (render n) 0 = n := Nat.ofDigitChars_ten_toDigits
  exact (readDigits_eq_ok_iff (Nat.zero_le bound)).2 ⟨fun c => isDigit_of_mem_render, hv, hn⟩

theorem read_eq_readDigits (h : ∀ c ∈ t.head?, c ≠ '+') (ht : t ≠ []) :
    read bound t = readDigits bound 0 t := by
  unfold read
  split
  · exact absurd rfl ht
  · exact absurd rfl (h _ rfl)
  · exact absurd rfl (h _ rfl)
  · rfl

theorem read_render {n : Nat} (hn : n ≤ bound) : read bound (render n) = .ok n := by
  have hsign : ∀ c ∈ (render n).head?, c ≠ '+' := by
    rintro c hc rfl
    exact absurd (isDigit_of_mem_render (List.mem_of_head? hc)) (by decide)
  rw [read_eq_readDigits hsign (render_ne_nil n), readDigits_render hn]

theorem readSigned?_eq (h : ∀ d ∈ t.head?, d ≠ '-') :
    readSigned? t = (read maxSigned t).toOption.map Int.ofNat := by
  unfold readSigned?
  split
  · exact absurd rfl (h _ rfl)
  · exact absurd rfl (h _ rfl)
  · rfl

theorem readSigned?_eq_none (hc : c.isDigit = false) (hm : c ≠ '-') (hp : c ≠ '+') (t : Text) :
    readSigned? (c :: t) = none := by
  have hread : read maxSigned (c :: t) = .error .invalidDigit := by
    rw [read_eq_readDigits (by rintro d ⟨⟩; exact hp) (List.cons_ne_nil c t)]
    simp [readDigits, digit?, hc]
  rw [readSigned?_eq (by rintro d ⟨⟩; exact hm), hread]
  rfl

def IsSigned (v : Int) : Prop := -(maxSigned + 1 : Int) ≤ v ∧ v ≤ maxSigned

theorem readSigned?_renderInt {v : Int} (hv : IsSigned v) : readSigned? (renderInt v) = some v := by
  obtain ⟨hlo, hhi⟩ := hv
  cases v with
  | ofNat n =>
    have hsign : ∀ d ∈ (render n).head?, d ≠ '-' := by
      rintro d hd rfl
      exact absurd (isDigit_of_mem_render (List.mem_of_head? hd)) (by decide)
    rw [renderInt, readSigned?_eq hsign, read_render (by simpa using hhi)]
    rfl
  | negSucc n =>
    have hn : n + 1 ≤ maxSigned + 1 := by omega
    have hread := readDigits_render hn
    rw [renderInt]
    cases hr : render (n + 1) with
    | nil => exact absurd hr (render_ne_nil _)
    | cons c t =>
      rw [hr] at hread
      simp only [readSigned?, hread, Except.toOption]
      rfl

end Unscramble.Number
