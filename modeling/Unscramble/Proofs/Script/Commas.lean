import Unscramble.Proofs.Text.Cutting
import Unscramble.Script.Commas

/-! Splitting at top-level commas gives back the pieces that have been joined. -/
namespace Unscramble.Commas
variable {c : Char} {x y t : Text} {r r' : Reading}

/-- The reading after `x`, if there is no top-level comma in it. -/
def through : Reading → Text → Option Reading
  | r, [] => some r
  | r, c :: t => if r.cutsAt c then none else through (r.step c) t

/-- A text without a top-level comma, after which another piece can begin. -/
def Whole (x : Text) : Prop := through .start x = some .start

instance (x : Text) : Decidable (Whole x) := inferInstanceAs (Decidable (_ = _))

theorem through_append (r : Reading) (x y : Text) :
    through r (x ++ y) = (through r x).bind (through · y) := by
  induction x generalizing r with
  | nil => rfl
  | cons c x ih =>
    simp only [List.cons_append, through]
    split
    · rfl
    · exact ih _

theorem Whole.append (hx : Whole x) (hy : Whole y) : Whole (x ++ y) := by
  rw [Whole, through_append, hx]
  exact hy

def marks : List Char := [',', '"', '\'', '(', '[', '\x7b', ')', ']', '\x7d']

theorem whole_cons (hc : c ∉ marks) : Whole (c :: x) ↔ Whole x := by
  simp only [marks, List.mem_cons, List.not_mem_nil, or_false, not_or] at hc
  simp [Whole, through, Reading.cutsAt, Reading.step, Reading.start, hc]

theorem whole_of_plain (h : ∀ c ∈ x, c ∉ marks) : Whole x := by
  induction x with
  | nil => rfl
  | cons c x ih => exact (whole_cons (h c (.head x))).2 (ih fun d hd => h d (.tail c hd))

inductive Quoted (q : Char) : Text → Prop
  | nil : Quoted q []
  | plain {c : Char} {x : Text} (hq : c ≠ q) (hb : c ≠ '\\') (hx : Quoted q x) : Quoted q (c :: x)
  | escaped (c : Char) {x : Text} (hx : Quoted q x) : Quoted q ('\\' :: c :: x)

theorem Quoted.of_plain {q : Char} (h : ∀ c ∈ x, c ≠ q ∧ c ≠ '\\') : Quoted q x := by
  induction x with
  | nil => exact .nil
  | cons c x ih =>
    obtain ⟨hc, hx⟩ := List.forall_mem_cons.1 h
    exact .plain hc.1 hc.2 (ih hx)

section
variable {d : Nat} {q : Char}

theorem through_cons (h : r.cutsAt c = false) (t : Text) :
    through r (c :: t) = through (r.step c) t := by
  simp only [through, h, Bool.false_eq_true, if_false]

theorem cutsAt_within : (⟨d, .within q⟩ : Reading).cutsAt c = false := by
  simp [Reading.cutsAt, Reading.start]

theorem cutsAt_escaped : (⟨d, .escaped q⟩ : Reading).cutsAt c = false := by
  simp [Reading.cutsAt, Reading.start]

theorem step_within (hb : c ≠ '\\') : (⟨d, .within q⟩ : Reading).step c =
    if c = q then ⟨d, .none⟩ else ⟨d, .within q⟩ := by
  simp only [Reading.step, if_neg hb]

theorem step_backslash : (⟨d, .within q⟩ : Reading).step '\\' = ⟨d, .escaped q⟩ := rfl

theorem step_escaped : (⟨d, .escaped q⟩ : Reading).step c = ⟨d, .within q⟩ := rfl

theorem through_quoted (hq : q ≠ '\\') (hx : Quoted q x) (t : Text) :
    through ⟨d, .within q⟩ (x ++ q :: t) = through ⟨d, .none⟩ t := by
  induction hx with
  | nil => rw [List.nil_append, through_cons cutsAt_within, step_within hq, if_pos rfl]
  | plain hc hb _ ih => rw [List.cons_append, through_cons cutsAt_within, step_within hb, if_neg hc, ih]
  | escaped c _ ih =>
    rw [List.cons_append, List.cons_append, through_cons cutsAt_within, step_backslash,
      through_cons cutsAt_escaped, step_escaped, ih]

end

theorem whole_quoted (h : ∀ c ∈ x, c ≠ '"' ∧ c ≠ '\\') : Whole ('"' :: x ++ ['"']) :=
  through_quoted (d := 0) (by decide) (.of_plain h) []

def Quoting.IsUsual : Quoting → Prop
  | none => True
  | within q | escaped q => q = '"' ∨ q = '\''

theorem isUsual_step (h : r.quoting.IsUsual) (c : Char) : (r.step c).quoting.IsUsual := by
  obtain ⟨d, q⟩ := r
  cases q with
  | escaped q => exact h
  | within q =>
    simp only [Reading.step]
    split
    · exact h
    · split
      · trivial
      · exact h
  | none =>
    simp only [Reading.step]
    split
    · next hc => simpa [Quoting.IsUsual] using hc
    · split
      · trivial
      · split <;> trivial

/-- Word characters are plain, so that the form decides. -/
theorem through_fits {f : Text} (h : Text.Fits f x) (hr : r.quoting.IsUsual) :
    through r f = through r x := by
  induction h generalizing r with
  | nil => rfl
  | @cons s c f x hs _ ih =>
    have heq (d : Char) (hd : Text.isWord d = false) : s = d ↔ c = d := hs.eq_iff hd
    have hcut : r.cutsAt s = r.cutsAt c := by
      have hc := heq ',' (by decide)
      unfold Reading.cutsAt
      rw [Bool.eq_iff_iff]
      simp [hc]
    have hstep : r.step s = r.step c := by
      obtain ⟨d, q⟩ := r
      cases q with
      | escaped q => rfl
      | within q =>
        have hq : s = q ↔ c = q := by
          obtain rfl | rfl := hr
          · exact heq _ (by decide)
          · exact heq _ (by decide)
        have hb := heq '\\' (by decide)
        simp only [Reading.step, hq, hb]
      | none =>
        have h1 := heq '"' (by decide)
        have h2 := heq '\'' (by decide)
        have h3 := heq '(' (by decide)
        have h4 := heq '[' (by decide)
        have h5 := heq '\x7b' (by decide)
        have h6 := heq ')' (by decide)
        have h7 := heq ']' (by decide)
        have h8 := heq '\x7d' (by decide)
        simp only [Reading.step, h1, h2, h3, h4, h5, h6, h7, h8]
        split
        · next hc =>
          have hsc : s = c := by
            simp only [Bool.or_eq_true, decide_eq_true_eq] at hc
            cases hc with
            | inl hc => rw [hc, h1.2 hc]
            | inr hc => rw [hc, h2.2 hc]
          rw [hsc]
        · rfl
    simp only [through, hcut, hstep, ih (isUsual_step hr c)]

theorem Whole.of_fits {f : Text} (h : Text.Fits f x) (hf : Whole f) : Whole x :=
  (through_fits (r := .start) h trivial).symm.trans hf

theorem cutFrom?_of_through (h : through r x = some r') (t : Text) :
    cutFrom? r (x ++ t) = (cutFrom? r' t).map fun (a, b) => (x ++ a, b) := by
  induction x generalizing r with
  | nil =>
    cases h
    simp
  | cons c x ih =>
    simp only [through] at h
    split at h
    · cases h
    · next hc =>
      rw [List.cons_append, cutFrom?, if_neg hc, ih h, Option.map_map]
      rfl

theorem cut?_append (h : Whole x) (t : Text) : cut? (x ++ ',' :: t) = some (x, t) := by
  rw [cut?, cutFrom?_of_through h]
  simp [cutFrom?, Reading.cutsAt]

theorem cut?_eq_none (h : Whole x) : cut? x = none := by
  have ht := cutFrom?_of_through h []
  rwa [List.append_nil] at ht

theorem rawPiecesFrom_of_through (h : through r x = some r') {t p : Text} {ps : List Text}
    (hp : rawPiecesFrom r' t = p :: ps) : rawPiecesFrom r (x ++ t) = (x ++ p) :: ps := by
  induction x generalizing r with
  | nil =>
    cases h
    exact hp
  | cons c x ih =>
    simp only [through] at h
    split at h
    · cases h
    · next hc => rw [List.cons_append, rawPiecesFrom, if_neg hc, ih h]; rfl

theorem rawPieces_intercalate {xs : List Text} (hne : xs ≠ []) (h : ∀ x ∈ xs, Whole x) :
    rawPieces ([','].intercalate xs) = xs := by
  induction xs with
  | nil => exact absurd rfl hne
  | cons x xs ih =>
    have hx := h x (.head xs)
    cases xs with
    | nil =>
      have hend : rawPiecesFrom .start [] = [] :: [] := rfl
      have hp := rawPiecesFrom_of_through hx hend
      rw [List.append_nil] at hp
      rwa [List.intercalate_singleton, rawPieces]
    | cons y ys =>
      have hcut : rawPiecesFrom .start (',' :: [','].intercalate (y :: ys)) =
          [] :: rawPiecesFrom .start ([','].intercalate (y :: ys)) := by
        simp [rawPiecesFrom, Reading.cutsAt]
      have hp := rawPiecesFrom_of_through hx hcut
      have hys := ih (by simp) fun z hz => h z (.tail x hz)
      rw [rawPieces] at hys ⊢
      rw [List.intercalate_cons_cons, List.append_assoc, List.singleton_append, hp, hys,
        List.append_nil]

theorem dropEmptyLast_eq_self {xs : List Text} (h : ∀ x ∈ xs, x ≠ []) : dropEmptyLast xs = xs := by
  induction xs with
  | nil => rfl
  | cons x xs ih =>
    cases xs with
    | nil =>
      have hx : x.isEmpty = false := by simpa using h x (.head [])
      simp [dropEmptyLast, hx]
    | cons y ys => rw [dropEmptyLast, ih fun z hz => h z (.tail x hz)]

theorem pieces_intercalate {xs : List Text} (hne : xs ≠ []) (hx : ∀ x ∈ xs, x ≠ [])
    (ht : ∀ x ∈ xs, Text.trim x = x) (h : ∀ x ∈ xs, Whole x) : pieces ([','].intercalate xs) = xs := by
  have hmap : xs.map Text.trim = xs := (List.map_congr_left ht).trans (List.map_id xs)
  rw [pieces, rawPieces_intercalate hne h, hmap, dropEmptyLast_eq_self hx]

end Unscramble.Commas
