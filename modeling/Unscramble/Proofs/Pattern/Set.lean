import Unscramble.Pattern.Set
import Unscramble.Proofs.Regex.Hit

/-! Which expression of a pattern set decides. -/
namespace Unscramble.PatternSet
open Regex
variable {s : PatternSet} {r : Regex} {rs : List Regex} {w : Text} {h : Hit} {m : Match}

theorem firstMatch_of_search? (hp : s.patterns = r :: rs) (hs : r.search? w = some h)
    (hg : h.group? s.group = some m) : s.firstMatch w = .ok m := by
  simp only [firstMatch, first, firstIn, hp, hs, hg, Except.map]

theorem firstMatch_of_search?_eq_none (hp : s.patterns = r :: rs) (hs : r.search? w = none) :
    s.firstMatch w = (⟨s.target, s.group, rs⟩ : PatternSet).firstMatch w := by
  simp only [firstMatch, first, firstIn, hp, hs]

theorem firstIn_eq_some {group : Text} (hr : r ∈ rs) (hs : r.search? w = some h)
    (hg : h.group? group = some m) (hno : ∀ r' ∈ rs, r' ≠ r → r'.search? w = none) :
    firstIn group w rs = some (h, m) := by
  induction rs with
  | nil => cases hr
  | cons r' rs ih =>
    obtain ⟨hhead, htail⟩ := List.forall_mem_cons.1 hno
    by_cases he : r' = r
    · subst he
      simp only [firstIn, hs, hg]
    · have hr' : r ∈ rs := (List.mem_cons.1 hr).resolve_left (Ne.symm he)
      simp only [firstIn, hhead he, ih hr' htail]

/-- What an expression captures at its leftmost match. -/
def capture? (group w : Text) (r : Regex) : Option Match := do
  (← r.search? w).group? group

theorem capture?_of_search? {group : Text} (hs : r.search? w = some h) :
    capture? group w r = h.group? group := by
  rw [capture?, hs]
  rfl

theorem capture?_of_search?_eq_none {group : Text} (hs : r.search? w = none) :
    capture? group w r = none := by
  rw [capture?, hs]
  rfl

theorem map_firstIn (group w : Text) (rs : List Regex) :
    (firstIn group w rs).map (·.2) = rs.findSome? (capture? group w) := by
  induction rs with
  | nil => rfl
  | cons r rs ih =>
    rw [firstIn, List.findSome?_cons]
    cases hs : r.search? w with
    | none => simpa only [capture?_of_search?_eq_none hs] using ih
    | some h =>
      rw [capture?_of_search? hs]
      cases hg : h.group? group with
      | none => simpa only [hg] using ih
      | some m => simp only [hg, Option.map_some]

/-- The first expression that captures something decides. -/
theorem firstMatch_eq_ok_iff_findSome? :
    s.firstMatch w = .ok m ↔ s.patterns.findSome? (capture? s.group w) = some m := by
  rw [← map_firstIn, firstMatch, first]
  cases firstIn s.group w s.patterns with
  | none => simp [Except.map]
  | some found => simp [Except.map]

theorem exists_search?_of_firstMatch (hm : s.firstMatch w = .ok m) :
    ∃ r ∈ s.patterns, ∃ h, r.search? w = some h ∧ h.group? s.group = some m := by
  obtain ⟨r, hr, hc⟩ := List.exists_of_findSome?_eq_some (firstMatch_eq_ok_iff_findSome?.1 hm)
  obtain ⟨h, hs, hg⟩ := Option.bind_eq_some_iff.1 hc
  exact ⟨r, hr, h, hs, hg⟩

theorem firstMatch_cases (s : PatternSet) (w : Text) :
    s.firstMatch w = .error (.noMatch s.target) ∨ ∃ m, s.firstMatch w = .ok m := by
  rw [firstMatch, first]
  cases firstIn s.group w s.patterns with
  | none => exact .inl rfl
  | some found => exact .inr ⟨found.2, rfl⟩

theorem firstMatch_nil (target : Target) (group : Text) :
    (⟨target, group, []⟩ : PatternSet).firstMatch w = .error (.noMatch target) := rfl

variable {o : Nat} {u name key skipped content : Text} {ms : List Mark}

theorem group?_reading (o : Nat) (u : Text) (name skipped content : Text) (ms : List Mark) :
    (Hit.reading o u (⟨.named name, skipped, content⟩ :: ms)).group? name = some ⟨content,
      ⟨o + skipped.byteLength, o + skipped.byteLength + content.byteLength⟩⟩ := by
  simp [Hit.group?, Hit.reading]

theorem group?_reading_of_ne (hn : name ≠ key) :
    (Hit.reading o u (⟨.named key, skipped, content⟩ :: ms)).group? name =
      (Hit.reading o u ms).group? name := by
  have hk : (GroupKey.named name == .named key) = false := by simpa using hn
  simp [Hit.group?, Hit.reading, List.lookup_cons, hk]

end Unscramble.PatternSet
