import Unscramble.Json.Printer
import Unscramble.Json.Scalar
import Unscramble.Proofs.Outcome
import Unscramble.Proofs.Text.Cutting
import Unscramble.Proofs.Text.Number

/-! Strings and numbers are read back from their JSON form, whatever follows a string, and with no
more digits behind a number. -/
namespace Unscramble.Json
open Outcome
variable {c : Char} {t rest : Text} {n : Nat}

theorem skipBlanks_cons (h : isBlank c = false) (t : Text) : skipBlanks (c :: t) = c :: t :=
  List.dropWhile_cons_of_neg (by simp [h])

theorem hexDigit?_digitChar : ∀ n < 16, Number.hexDigit? n.digitChar = some n := by decide

theorem readUnit_twoHexDigits (h : n < 256) (t : Text) :
    readUnit ('0' :: '0' :: (twoHexDigits n ++ t)) = .ok (n, t) := by
  have hzero : Number.hexDigit? '0' = some 0 := rfl
  have hhigh := hexDigit?_digitChar (n / 16) (by omega)
  have hlow := hexDigit?_digitChar (n % 16) (by omega)
  simp only [twoHexDigits, List.cons_append, List.nil_append, readUnit, hzero, hhigh, hlow]
  have hn : ((0 * 16 + 0) * 16 + n / 16) * 16 + n % 16 = n := by omega
  rw [hn]

theorem readEscape_control (h : c.toNat < 0x20) (t : Text) :
    readEscape ('u' :: '0' :: '0' :: (twoHexDigits c.toNat ++ t)) = .ok (c, t) := by
  have hlow : isLowSurrogate c.toNat = false := by simp [isLowSurrogate]; omega
  have hhigh : isHighSurrogate c.toNat = false := by simp [isHighSurrogate]; omega
  simp [readEscape, readUnit_twoHexDigits (n := c.toNat) (by omega), hlow, hhigh]

theorem readStringWithin_backslash (bound : Nat) (h : readEscape t = .ok (c, rest)) :
    readStringWithin (bound + 1) ('\\' :: t) =
      (readStringWithin bound rest).map fun (s, rest) => (c :: s, rest) := by
  rw [readStringWithin, if_neg (by decide), if_neg (by decide), if_pos rfl, h, ok_bind]
  dsimp only
  cases readStringWithin bound rest <;> rfl

theorem readStringWithin_plain (bound : Nat) (hquote : c ≠ '"') (hslash : c ≠ '\\')
    (hcontrol : ¬c.toNat < 0x20) : readStringWithin (bound + 1) (c :: t) =
      (readStringWithin bound t).map fun (s, rest) => (c :: s, rest) := by
  rw [readStringWithin, if_neg hquote, if_neg hcontrol, if_neg hslash, pure_eq, ok_bind]
  dsimp only
  cases readStringWithin bound t <;> rfl

theorem readStringWithin_escape (c : Char) (bound : Nat) (t : Text) :
    readStringWithin (bound + 1) (escape c ++ t) =
      (readStringWithin bound t).map fun (s, rest) => (c :: s, rest) := by
  unfold escape
  -- The seven characters that have a letter of their own.
  iterate 7
    split
    next h => subst h; exact readStringWithin_backslash bound rfl
  split
  next hcontrol => exact readStringWithin_backslash bound (readEscape_control hcontrol t)
  next hquote hslash _ _ _ _ _ hcontrol => exact readStringWithin_plain bound hquote hslash hcontrol

theorem one_le_length_escape (c : Char) : 1 ≤ (escape c).length := by
  unfold escape
  repeat' split
  all_goals simp

theorem readStringWithin_escaped (t rest : Text) {bound : Nat} (h : t.length < bound) :
    readStringWithin bound (t.flatMap escape ++ '"' :: rest) = .ok (t, rest) := by
  induction t generalizing bound with
  | nil =>
    cases bound with
    | zero => exact absurd h (by simp)
    | succ bound => rfl
  | cons c t ih =>
    cases bound with
    | zero => exact absurd h (by simp)
    | succ bound =>
      rw [List.flatMap_cons, List.append_assoc, readStringWithin_escape, ih (Nat.lt_of_succ_lt_succ h)]
      rfl

theorem readString_escaped (t rest : Text) :
    readString (t.flatMap escape ++ '"' :: rest) = .ok (t, rest) := by
  refine readStringWithin_escaped t rest ?_
  have hlength : t.length ≤ (t.flatMap escape).length := by
    induction t with
    | nil => exact Nat.le_refl 0
    | cons c t ih =>
      have := one_le_length_escape c
      simp only [List.length_cons, List.flatMap_cons, List.length_append]
      omega
  simp only [List.length_append, List.length_cons]
  omega

/-- What follows a value in an array or an object, or behind the whole text. -/
def Ends (rest : Text) : Prop := ∀ c ∈ rest.head?, c = ',' ∨ c = ']' ∨ c = '\x7d'

theorem Ends.nil : Ends [] := by simp [Ends]

theorem takeDigits_eq {acc : Nat}
    (hb : Nat.ofDigitChars 10 t acc ≤ Number.maxWord) :
    takeDigits acc t = (Nat.ofDigitChars 10 t acc, 0) := by
  induction t generalizing acc with
  | nil => rfl
  | cons c t ih =>
    rw [Nat.ofDigitChars_cons, Nat.mul_comm] at hb ⊢
    have hle := Number.le_ofDigitChars t (acc * 10 + (c.toNat - '0'.toNat))
    rw [takeDigits, if_pos (Nat.le_trans hle hb)]
    exact ih hb

theorem digitsAndRest_append (ht : ∀ c ∈ t, c.isDigit = true) (h : ∀ c ∈ rest.head?, c.isDigit = false) :
    digitsAndRest (t ++ rest) = (t, rest) := by
  obtain ⟨hdigits, hrest⟩ := Text.span_append ht ((Option.any_eq_false _ _).2 h)
  rw [digitsAndRest, hdigits, hrest]

theorem readWhole_render (n : Nat) (h : ∀ c ∈ rest.head?, c.isDigit = false) :
    readWhole (Number.render n ++ rest) = .ok (Number.render n, rest) := by
  have hdigits : readDigits (Number.render n ++ rest) = .ok (Number.render n, rest) := by
    rw [readDigits, digitsAndRest_append (fun c => Number.isDigit_of_mem_render) h]
    split
    next heq => exact absurd (Prod.mk.inj heq).1 (Number.render_ne_nil n)
    next heq => exact absurd (Prod.mk.inj heq).1 (Number.render_ne_nil n)
    · rfl
  rw [readWhole, hdigits, ok_bind]
  split
  next heq => exact absurd (Number.eq_nil_of_render (Prod.mk.inj heq).1) (List.cons_ne_nil _ _)
  · rfl

theorem Ends.notDigit (h : Ends rest) : ∀ c ∈ rest.head?, c.isDigit = false := by
  intro c hc
  obtain rfl | rfl | rfl := h c hc <;> rfl

theorem readParts_render (n : Nat) (h : Ends rest) :
    readParts (Number.render n ++ rest) = .ok (⟨false, Number.render n, [], none⟩, rest) ∧
    readParts ('-' :: (Number.render n ++ rest)) = .ok (⟨true, Number.render n, [], none⟩, rest) := by
  have hfraction : readFraction rest = .ok ([], rest) := by
    unfold readFraction
    split
    next => exact absurd (h '.' rfl) (by decide)
    · rfl
  have hexponent : readExponent rest = .ok (none, rest) := by
    unfold readExponent
    split
    next => exact absurd (h 'e' rfl) (by decide)
    next => exact absurd (h 'E' rfl) (by decide)
    · rfl
  have hwhole := readWhole_render n h.notDigit
  have hsign (t : Text) : Number.render n ++ rest ≠ '-' :: t := by
    intro heq
    cases hr : Number.render n with
    | nil => exact Number.render_ne_nil n hr
    | cons c cs =>
      rw [hr, List.cons_append] at heq
      have hc : c.isDigit = true := Number.isDigit_of_mem_render (hr ▸ List.mem_cons_self)
      rw [(List.cons.inj heq).1] at hc
      exact absurd hc (by decide)
  constructor
  · rw [readParts.eq_2 _ hsign]
    simp only [hwhole, hfraction, hexponent, ok_bind, pure_eq]
  · rw [readParts.eq_1]
    simp only [hwhole, hfraction, hexponent, ok_bind, pure_eq]

/-- An integer of 64 bits in decimal form is read as what it is, and nothing behind it belongs to it. -/
theorem readNumeral_render (hn : n ≤ Number.maxWord) (h : Ends rest) :
    readNumeral (Number.render n ++ rest) = .ok (.integer n, rest) := by
  have hvalue : Nat.ofDigitChars 10 (Number.render n) 0 = n := Nat.ofDigitChars_ten_toDigits
  have hdigits : takeDigits 0 (Number.render n) = (n, 0) := by
    rw [takeDigits_eq (by rwa [hvalue]), hvalue]
  rw [readNumeral, (readParts_render n h).1, ok_bind]
  simp [NumeralParts.numeral, hdigits]

theorem readNumeral_negative (hn : n ≤ Number.maxSigned) (h : Ends rest) :
    readNumeral ('-' :: (Number.render (n + 1) ++ rest)) = .ok (.integer (.negSucc n), rest) := by
  have hword : n + 1 ≤ Number.maxWord := Nat.le_trans (Nat.succ_le_succ hn) (by decide)
  have hvalue : Nat.ofDigitChars 10 (Number.render (n + 1)) 0 = n + 1 := Nat.ofDigitChars_ten_toDigits
  have hdigits : takeDigits 0 (Number.render (n + 1)) = (n + 1, 0) := by
    rw [takeDigits_eq (by rwa [hvalue]), hvalue]
  have hminus : Int.negSucc n = -((n : Int) + 1) := Int.negSucc_eq n
  rw [readNumeral, (readParts_render (n + 1) h).2, ok_bind, hminus]
  simp [NumeralParts.numeral, hdigits, Nat.not_lt.2 hn]

end Unscramble.Json
