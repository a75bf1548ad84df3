import Unscramble.Duration.Reader
import Unscramble.Proofs.Outcome
import Unscramble.Proofs.Text.Cutting
import Unscramble.Proofs.Text.Number
import Unscramble.Proofs.Text.Offsets

/-! A duration is read back from the spans that it is written in. -/
namespace Unscramble
open Outcome

namespace TimeUnit
variable {u : TimeUnit} {n : Nat} {name : Text}

def nanoseconds (u : TimeUnit) : Nat :=
  match u.size with
  | .seconds k => k * Duration.nanosPerSecond
  | .nanos k => k

/-- Seconds counted in the unit stay within 64 bits, and nanoseconds within a second. -/
def Fits (u : TimeUnit) (n : Nat) : Prop :=
  match u.size with
  | .seconds k => n * k ≤ Number.maxWord
  | .nanos k => n * k ≤ Duration.nanosPerSecond

theorem Fits.le_maxWord (h : u.Fits n) : n ≤ Number.maxWord := by
  cases u <;>
  · simp only [Fits, size, Duration.nanosPerSecond, Duration.secondsPerDay, Duration.secondsPerMonth,
      Duration.secondsPerYear, Number.maxWord] at h ⊢
    omega

def isLetter (c : Char) : Bool :=
  Duration.isUnitLetter c && (Number.digit? c).isNone && !Text.isBlank c

theorem isLetter_iff {c : Char} : isLetter c = true ↔
    Duration.isUnitLetter c = true ∧ Number.digit? c = none ∧ Text.isBlank c = false := by
  simp [isLetter, and_assoc]

theorem all_spellings :
    (spellings.all fun e => e.2.all fun s => !s.toList.isEmpty && s.toList.all isLetter) = true := by
  decide

theorem isLetter_of_ofName? (h : ofName? name = some u) :
    name ≠ [] ∧ ∀ c ∈ name, isLetter c = true := by
  obtain ⟨e, he, -⟩ := Option.map_eq_some_iff.1 h
  have hany := List.find?_some (p := fun e : TimeUnit × List String => e.2.any _) he
  obtain ⟨s, hs, hname⟩ := List.any_eq_true.1 hany
  obtain rfl : s.toList = name := beq_iff_eq.1 hname
  have hspelt := List.all_eq_true.1 (List.all_eq_true.1 all_spellings e (List.mem_of_find?_eq_some he)) s hs
  simpa using hspelt

end TimeUnit

namespace Duration
variable {d : Duration} {n seconds nanos start offset acc : Nat} {u : TimeUnit} {name ds rest : Text}
  {sum : Option Duration} {ps qs : List Text} {total total' : Nat}

theorem word_of_le (h : n ≤ Number.maxWord) : word n = .ok n := if_pos h

theorem checked_of_le (h : (ofParts seconds nanos).seconds ≤ Number.maxWord) :
    checked seconds nanos = .ok (ofParts seconds nanos) := if_pos h

theorem le_seconds_ofParts (seconds nanos : Nat) : seconds ≤ (ofParts seconds nanos).seconds := by
  rw [Duration.seconds, ofParts]
  exact (Nat.le_div_iff_mul_le (by decide)).2 (Nat.le_add_right _ _)

theorem addParts_eq (hn : d.subsecond + nanos ≤ Number.maxWord)
    (hd : (ofParts (d.seconds + seconds) (d.subsecond + nanos)).seconds ≤ Number.maxWord) :
    addParts d seconds nanos = .ok (ofParts (d.seconds + seconds) (d.subsecond + nanos)) := by
  have hcarried : wholeSeconds (d.subsecond + nanos) * nanosPerSecond ≤ d.subsecond + nanos := by
    rw [wholeSeconds]
    split
    · omega
    · exact Nat.div_mul_le_self _ _
  generalize hc : wholeSeconds (d.subsecond + nanos) = carried at hcarried
  have hsame : ofParts (d.seconds + (seconds + carried)) (d.subsecond + nanos - carried * nanosPerSecond) =
      ofParts (d.seconds + seconds) (d.subsecond + nanos) := by
    simp only [ofParts, Duration.mk.injEq]
    rw [← Nat.add_assoc, Nat.add_mul _ carried]
    omega
  rw [← hsame] at hd
  have hsum : d.seconds + (seconds + carried) ≤ Number.maxWord :=
    Nat.le_trans (le_seconds_ofParts _ _) hd
  have hseconds : seconds + carried ≤ Number.maxWord := Nat.le_trans (Nat.le_add_left _ _) hsum
  subst hc
  rw [addParts, word_of_le hn, ok_bind]
  dsimp only
  rw [word_of_le hseconds, ok_bind, word_of_le hsum, ok_bind, checked_of_le hd, hsame]

theorem addScaled_eq {size : TimeUnit.Size} {k : Nat} (hk : n * k ≤ Number.maxWord)
    (hsize : size = .seconds k ∨ size = .nanos k) :
    addScaled d n 1 size = match size with
      | .seconds _ => addParts d (n * k) 0
      | .nanos _ => addParts d 0 (n * k) := by
  obtain rfl | rfl := hsize <;>
  · rw [addScaled]
    dsimp only
    rw [word_of_le hk, ok_bind, if_neg (not_not_intro (Nat.mod_one _)), Nat.div_one]

theorem addSpan_eq (hu : TimeUnit.ofName? name = some u) (hn : u.Fits n)
    (hd : (⟨d.nanoseconds + n * u.nanoseconds⟩ : Duration).seconds ≤ Number.maxWord) :
    addSpan d n none name = .ok ⟨d.nanoseconds + n * u.nanoseconds⟩ := by
  have hparts : d.seconds * nanosPerSecond + d.subsecond = d.nanoseconds := Nat.div_add_mod' _ _
  have hsub : d.subsecond < nanosPerSecond := Nat.mod_lt _ (by decide)
  have hword : nanosPerSecond + nanosPerSecond ≤ Number.maxWord := by decide
  have hspan : addSpan d n none name = addScaled d n 1 u.size := by
    simp only [addSpan, hu]
    cases addScaled d n 1 u.size <;> rfl
  rw [TimeUnit.Fits] at hn
  rw [TimeUnit.nanoseconds] at hd ⊢
  rw [hspan]
  cases hsize : u.size with
  | seconds k =>
    rw [hsize] at hn hd
    have hsum : ofParts (d.seconds + n * k) (d.subsecond + 0) =
        ⟨d.nanoseconds + n * (k * nanosPerSecond)⟩ := by
      rw [ofParts, Nat.add_mul, Nat.mul_assoc, Duration.mk.injEq]
      omega
    rw [addScaled_eq hn (.inl rfl)]
    exact (addParts_eq (by omega) (hsum ▸ hd)).trans (congrArg _ hsum)
  | nanos k =>
    rw [hsize] at hn hd
    have hsum : ofParts (d.seconds + 0) (d.subsecond + n * k) = ⟨d.nanoseconds + n * k⟩ := by
      rw [ofParts, Duration.mk.injEq, Nat.add_zero]
      omega
    rw [addScaled_eq (Nat.le_trans hn (by decide)) (.inr rfl)]
    exact (addParts_eq (by omega) (hsum ▸ hd)).trans (congrArg _ hsum)

theorem readFrom_whole (h : ∀ c ∈ ds, c.isDigit = true)
    (hacc : Nat.ofDigitChars 10 ds acc ≤ Number.maxWord) (sum : Option Duration) (offset : Nat) (rest : Text) :
    readFrom (.whole acc) sum offset (ds ++ rest) =
      readFrom (.whole (Nat.ofDigitChars 10 ds acc)) sum (offset + ds.byteLength) rest := by
  induction ds generalizing acc offset with
  | nil => rfl
  | cons c ds ih =>
    obtain ⟨hc, hds⟩ := List.forall_mem_cons.1 h
    have hdigit : Number.digit? c = some (c.toNat - '0'.toNat) := if_pos hc
    rw [Nat.ofDigitChars_cons, Nat.mul_comm] at hacc
    have hle := Nat.le_trans (Number.le_ofDigitChars ds _) hacc
    rw [List.cons_append, readFrom]
    simp only [readChar, hdigit, word_of_le hle, ok_bind, pure_eq]
    rw [ih hds hacc, Nat.ofDigitChars_cons, Nat.mul_comm, Text.byteLength_cons, Nat.add_assoc]

theorem readFrom_unit (h : ∀ c ∈ name, TimeUnit.isLetter c = true) (letters : Text) (sum : Option Duration)
    (offset : Nat) (rest : Text) :
    readFrom (.unit n none letters) sum offset (name ++ rest) =
      readFrom (.unit n none (name.reverse ++ letters)) sum (offset + name.byteLength) rest := by
  induction name generalizing letters offset with
  | nil => rfl
  | cons c name ih =>
    obtain ⟨hc, hname⟩ := List.forall_mem_cons.1 h
    obtain ⟨hletter, hdigit, hblank⟩ := TimeUnit.isLetter_iff.1 hc
    rw [List.cons_append, readFrom]
    simp only [readChar, hdigit, hblank, hletter, if_true, Bool.false_eq_true, if_false, ok_bind, pure_eq]
    rw [ih hname, List.reverse_cons, List.append_assoc, List.singleton_append, Text.byteLength_cons,
      Nat.add_assoc]

theorem readFrom_span (hn : n ≤ Number.maxWord) (hne : name ≠ []) (h : ∀ c ∈ name, TimeUnit.isLetter c = true)
    (start : Nat) (sum : Option Duration) (offset : Nat) (rest : Text) :
    ∃ offset', readFrom (.gap start) sum offset (Number.render n ++ name ++ rest) =
      readFrom (.unit n none name.reverse) sum offset' rest := by
  have hvalue : Nat.ofDigitChars 10 (Number.render n) 0 = n := Nat.ofDigitChars_ten_toDigits
  have hdigits : ∀ c ∈ Number.render n, c.isDigit = true := fun _ => Number.isDigit_of_mem_render
  cases hr : Number.render n with
  | nil => exact absurd hr (Number.render_ne_nil n)
  | cons c ds =>
    obtain ⟨hc, hds⟩ := List.forall_mem_cons.1 (hr ▸ hdigits)
    have hdigit : Number.digit? c = some (c.toNat - '0'.toNat) := if_pos hc
    rw [hr, Nat.ofDigitChars_cons, Nat.mul_zero, Nat.zero_add] at hvalue
    cases name with
    | nil => exact absurd rfl hne
    | cons a name =>
      obtain ⟨ha, hname⟩ := List.forall_mem_cons.1 h
      obtain ⟨hletter, hdigit', hblank⟩ := TimeUnit.isLetter_iff.1 ha
      rw [List.cons_append, List.cons_append, readFrom]
      simp only [readChar, hdigit, ok_bind, pure_eq]
      rw [List.append_assoc, readFrom_whole hds (hvalue ▸ hn), hvalue, List.cons_append, readFrom]
      simp only [readChar, hdigit', hblank, hletter, if_true, Bool.false_eq_true, if_false, ok_bind, pure_eq]
      rw [readFrom_unit hname, List.reverse_cons]
      exact ⟨_, rfl⟩

/-- The texts are spans that make up so many nanoseconds together. -/
inductive Amounts : List Text → Nat → Prop
  | nil : Amounts [] 0
  | cons {n : Nat} {u : TimeUnit} {name : Text} {ps : List Text} {total : Nat}
      (hu : TimeUnit.ofName? name = some u) (hn : u.Fits n) (h : Amounts ps total) :
      Amounts ((Number.render n ++ name) :: ps) (n * u.nanoseconds + total)

theorem Amounts.append (h : Amounts ps total) (h' : Amounts qs total') :
    Amounts (ps ++ qs) (total + total') := by
  induction h with
  | nil => rwa [List.nil_append, Nat.zero_add]
  | cons hu hn _ ih => rw [List.cons_append, Nat.add_assoc]; exact .cons hu hn ih

theorem Amounts.of_eq (h : Amounts ps total) (total' : Nat) (he : total = total') : Amounts ps total' :=
  he ▸ h

theorem readFrom_intercalate (h : Amounts ps total) (hne : ps ≠ []) (start : Nat) (sum : Option Duration)
    (offset : Nat)
    (hd : (⟨(sum.getD ⟨0⟩).nanoseconds + total⟩ : Duration).seconds ≤ Number.maxWord) :
    readFrom (.gap start) sum offset ([' '].intercalate ps) = .ok ⟨(sum.getD ⟨0⟩).nanoseconds + total⟩ := by
  induction h generalizing start sum offset with
  | nil => exact absurd rfl hne
  | @cons n u name ps total hu hn h ih =>
    obtain ⟨hname, hletters⟩ := TimeUnit.isLetter_of_ofName? hu
    have hfirst : (⟨(sum.getD ⟨0⟩).nanoseconds + n * u.nanoseconds⟩ : Duration).seconds ≤ Number.maxWord :=
      Nat.le_trans (Nat.div_le_div_right (Nat.add_le_add_left (Nat.le_add_right _ _) _)) hd
    have hadd := addSpan_eq hu hn hfirst
    rw [← Nat.add_assoc] at hd ⊢
    cases ps with
    | nil =>
      obtain ⟨offset', hread⟩ := readFrom_span hn.le_maxWord hname hletters start sum offset []
      rw [List.append_nil] at hread
      cases h
      rw [List.intercalate_singleton, hread, readFrom, finish, List.reverse_reverse, hadd]
      rfl
    | cons q ps =>
      obtain ⟨offset', hread⟩ := readFrom_span hn.le_maxWord hname hletters start sum offset
        (' ' :: [' '].intercalate (q :: ps))
      have hblank : Number.digit? ' ' = none ∧ Text.isBlank ' ' = true := by decide
      rw [List.intercalate_cons_cons, List.append_assoc, List.singleton_append, hread, readFrom]
      simp only [readChar, hblank, if_true, List.reverse_reverse, hadd, ok_bind, pure_eq]
      exact ih (List.cons_ne_nil q ps) _ _ _ hd

theorem Amounts.trimmed (h : Amounts ps total) : ∀ p ∈ ps, Text.trim p = p ∧ p ≠ [] := by
  induction h with
  | nil => nofun
  | @cons n u name ps total hu _ _ ih =>
    obtain ⟨hname, hletters⟩ := TimeUnit.isLetter_of_ofName? hu
    have hplain : ∀ c ∈ Number.render n ++ name, Text.isBlank c = false := fun c hc =>
      (List.mem_append.1 hc).elim (fun hd => Text.isBlank_of_isDigit (Number.isDigit_of_mem_render hd))
        fun hl => (TimeUnit.isLetter_iff.1 (hletters c hl)).2.2
    exact List.forall_mem_cons.2 ⟨⟨Text.trimBy_plain hplain, fun hnil => hname (List.append_eq_nil_iff.1 hnil).2⟩, ih⟩

theorem amounts_part (n : Nat) (name : Text) (u : TimeUnit) (hu : TimeUnit.ofName? name = some u)
    (hn : u.Fits n) : Amounts (part n name) (n * u.nanoseconds) := by
  rw [part]
  split
  next h => rw [h, Nat.zero_mul]; exact .nil
  next => exact .cons hu hn .nil

theorem amounts_partPlural (n : Nat) (name : Text) (u : TimeUnit) (hu : TimeUnit.ofName? name = some u)
    (hs : TimeUnit.ofName? (name ++ ['s']) = some u) (hn : u.Fits n) :
    Amounts (partPlural n name) (n * u.nanoseconds) := by
  rw [partPlural]
  split
  · exact amounts_part n _ u hu hn
  · exact amounts_part n _ u hs hn

theorem amounts_parts (hd : d.seconds ≤ Number.maxWord) : Amounts d.parts d.nanoseconds := by
  have hsubsecond : d.subsecond < nanosPerSecond := Nat.mod_lt _ (by decide)
  have hsum : d.nanoseconds = d.seconds * nanosPerSecond + d.subsecond := (Nat.div_add_mod' _ _).symm
  rw [parts, hsum]
  generalize d.seconds = seconds at hd ⊢
  generalize d.subsecond = nanos at hsubsecond ⊢
  obtain ⟨inYear, hinYear⟩ : ∃ n, n = seconds % secondsPerYear := ⟨_, rfl⟩
  obtain ⟨inMonth, hinMonth⟩ : ∃ n, n = inYear % secondsPerMonth := ⟨_, rfl⟩
  obtain ⟨inDay, hinDay⟩ : ∃ n, n = inMonth % secondsPerDay := ⟨_, rfl⟩
  have hyears := amounts_partPlural (seconds / secondsPerYear) "year".toList .year rfl rfl
  have hmonths := amounts_partPlural (inYear / secondsPerMonth) "month".toList .month rfl rfl
  have hdays := amounts_partPlural (inMonth / secondsPerDay) "day".toList .day rfl rfl
  have hhours := amounts_part (inDay / 3600) ['h'] .hour rfl
  have hminutes := amounts_part (inDay % 3600 / 60) ['m'] .minute rfl
  have hseconds := amounts_part (inDay % 60) ['s'] .second rfl
  have hmillis := amounts_part (nanos / 1000000) ['m', 's'] .millisecond rfl
  have hmicros := amounts_part (nanos / 1000 % 1000) ['u', 's'] .microsecond rfl
  have hnanos := amounts_part (nanos % 1000) ['n', 's'] .nanosecond rfl
  simp only [TimeUnit.Fits, TimeUnit.nanoseconds, TimeUnit.size, secondsPerYear, secondsPerMonth,
    secondsPerDay, nanosPerSecond, Number.maxWord] at *
  have hdate := ((hyears (by omega)).append (hmonths (by omega))).append (hdays (by omega))
  have htime := ((hdate.append (hhours (by omega))).append (hminutes (by omega))).append (hseconds (by omega))
  have hall := ((htime.append (hmillis (by omega))).append (hmicros (by omega))).append (hnanos (by omega))
  have htotal := hall.of_eq (seconds * 1000000000 + nanos) (by omega)
  subst hinDay hinMonth hinYear
  exact htotal

theorem read_render (hd : d.seconds ≤ Number.maxWord) : read d.render = .ok d := by
  have hamounts := amounts_parts hd
  cases hp : d.parts with
  | nil =>
    rw [hp] at hamounts
    obtain ⟨nanoseconds⟩ := d
    cases hamounts
    rfl
  | cons p ps =>
    have hread := readFrom_intercalate (hp ▸ hamounts) (List.cons_ne_nil p ps) 0 none 0
      (by rwa [Option.getD_none, Nat.zero_add])
    rw [Option.getD_none, Nat.zero_add] at hread
    -- A lone digit lacks a unit, so the text is none.
    have hlone : [' '].intercalate (p :: ps) ≠ ['0'] := by
      intro h
      rw [h] at hread
      cases hread
    rw [render, hp, read, if_neg hlone, hread]

theorem trim_render (hd : d.seconds ≤ Number.maxWord) : Text.trim d.render = d.render ∧ d.render ≠ [] := by
  have hamounts := amounts_parts hd
  rw [render]
  cases hp : d.parts with
  | nil => decide
  | cons p ps => exact Text.trim_intercalate (hp ▸ hamounts).trimmed

end Duration
end Unscramble
