import Mathlib.Data.List.DropRight
import Unscramble.Proofs.Text.Wildcard
import Unscramble.Text.Basic

/-! Cutting texts at separators, trimming them and looking for parts of them. -/
namespace Unscramble.Text
variable {x t : Text} {c : Char} {p : Char → Bool}

theorem pieces_eq_splitOn (sep : Char) (t : Text) : pieces sep t = t.splitOn sep := by
  induction t with
  | nil => rfl
  | cons c t ih =>
    rw [pieces, List.splitOn_cons_eq_if_modifyHead, ← ih]
    by_cases hc : c = sep
    · simp [hc]
    · rw [if_neg hc, if_neg (by simpa using hc)]
      cases hp : pieces sep t with
      | nil => exact absurd (ih.symm.trans hp) (List.splitOn_ne_nil sep t)
      | cons q qs => rfl

theorem not_mem_of_mem_pieces {sep : Char} {t : Text} : ∀ x ∈ pieces sep t, sep ∉ x := by
  induction t with
  | nil => simp [pieces]
  | cons c t ih =>
    rw [pieces]
    split
    · exact List.forall_mem_cons.2 ⟨List.not_mem_nil, ih⟩
    next hc =>
      have hsep : sep ≠ c := Ne.symm hc
      split
      · simpa using hsep
      next p ps hp =>
        obtain ⟨hhead, htail⟩ := List.forall_mem_cons.1 (hp ▸ ih)
        exact List.forall_mem_cons.2 ⟨List.mem_cons.not.2 (not_or.2 ⟨hsep, hhead⟩), htail⟩

theorem mem_or_mem_of_append_eq {d : Char} {y v w : Text} (hcd : c ≠ d)
    (h : x ++ c :: v = y ++ d :: w) : c ∈ y ∨ d ∈ x := by
  obtain ⟨k, rfl, hk⟩ | ⟨k, rfl, hk⟩ := List.append_eq_append_iff.1 h
  · cases k with
    | nil => exact absurd (List.cons.inj hk).1 hcd
    | cons e k => exact .inl ((List.cons.inj hk).1 ▸ List.mem_append_right x (.head k))
  · cases k with
    | nil => exact absurd (List.cons.inj hk).1.symm hcd
    | cons e k => exact .inr ((List.cons.inj hk).1 ▸ List.mem_append_right y (.head k))

theorem splitOnce?_append {sep : Char} (h : sep ∉ x) (t : Text) :
    splitOnce? sep (x ++ sep :: t) = some (x, t) := by
  induction x with
  | nil => simp [splitOnce?]
  | cons c x ih =>
    obtain ⟨hc, hx⟩ := not_or.1 (List.mem_cons.not.1 h)
    simp only [List.cons_append, splitOnce?, if_neg (Ne.symm hc), ih hx, Option.map_some]

theorem splitOnce?_of_not_mem {sep : Char} (h : sep ∉ t) : splitOnce? sep t = none := by
  induction t with
  | nil => rfl
  | cons c t ih =>
    obtain ⟨hc, ht⟩ := not_or.1 (List.mem_cons.not.1 h)
    rw [splitOnce?, if_neg (Ne.symm hc), ih ht, Option.map_none]

theorem splitOnce?_cases (sep : Char) (t : Text) :
    (sep ∉ t ∧ splitOnce? sep t = none) ∨
      ∃ x y, t = x ++ sep :: y ∧ sep ∉ x ∧ splitOnce? sep t = some (x, y) := by
  by_cases h : sep ∈ t
  · obtain ⟨x, y, rfl, hx⟩ := List.eq_append_cons_of_mem h
    exact .inr ⟨x, y, rfl, hx, splitOnce?_append hx y⟩
  · exact .inl ⟨h, splitOnce?_of_not_mem h⟩

theorem splitOnce?_eq_some_iff {sep : Char} {y : Text} :
    splitOnce? sep t = some (x, y) ↔ t = x ++ sep :: y ∧ sep ∉ x := by
  constructor
  · intro h
    obtain ⟨-, hnone⟩ | ⟨x', y', ht, hx, hsome⟩ := splitOnce?_cases sep t
    · cases hnone.symm.trans h
    · obtain ⟨rfl, rfl⟩ := Prod.mk.inj (Option.some.inj (hsome.symm.trans h))
      exact ⟨ht, hx⟩
  · rintro ⟨rfl, hx⟩
    exact splitOnce?_append hx y

/-- What holds of the parts and is kept by appending holds of the parts joined. -/
theorem intercalate_induction {P : Text → Prop} {sep : Text} {xs : List Text} (hnil : P [])
    (happ : ∀ x y, P x → P y → P (x ++ y)) (hsep : P sep) (h : ∀ x ∈ xs, P x) :
    P (sep.intercalate xs) := by
  induction xs with
  | nil => exact hnil
  | cons x xs ih =>
    cases xs with
    | nil => rw [List.intercalate_singleton]; exact h x (.head _)
    | cons y ys =>
      rw [List.intercalate_cons_cons]
      exact happ _ _ (happ _ _ (h x (.head _)) hsep) (ih fun z hz => h z (.tail _ hz))

theorem not_mem_intercalate {sep : Text} {xs : List Text} (hsep : c ∉ sep) (h : ∀ x ∈ xs, c ∉ x) :
    c ∉ sep.intercalate xs :=
  intercalate_induction (P := (c ∉ ·)) List.not_mem_nil
    (fun _ _ hx hy hm => (List.mem_append.1 hm).elim hx hy) hsep h

theorem any_head? (h : ∀ c ∈ t, p c = false) : t.head?.any p = false := by
  cases t with
  | nil => rfl
  | cons c t => exact h c (.head t)

theorem any_getLast? (h : ∀ c ∈ t, p c = false) : t.getLast?.any p = false := by
  rw [← List.head?_reverse]
  exact any_head? fun c hc => h c (List.mem_reverse.1 hc)

theorem any_getLast?_concat (p : Char → Bool) (x : Text) (c : Char) :
    (x ++ [c]).getLast?.any p = p c := by
  rw [List.getLast?_concat]
  rfl

theorem dropWhile_eq_self (h : t.head?.any p = false) : t.dropWhile p = t := by
  cases t with
  | nil => rfl
  | cons c t => exact List.dropWhile_cons_of_neg (Bool.eq_false_iff.1 h)

theorem span_append (hx : ∀ c ∈ x, p c = true) (ht : t.head?.any p = false) :
    (x ++ t).takeWhile p = x ∧ (x ++ t).dropWhile p = t := by
  have hstop : t.takeWhile p = [] := by
    cases t with
    | nil => rfl
    | cons c t => exact List.takeWhile_cons_of_neg (Bool.eq_false_iff.1 ht)
  rw [List.takeWhile_append_of_pos hx, List.dropWhile_append_of_pos hx, hstop, List.append_nil,
    dropWhile_eq_self ht]
  exact ⟨rfl, rfl⟩

theorem dropEndWhile_eq_self (h : t.getLast?.any p = false) : dropEndWhile p t = t := by
  rw [dropEndWhile, dropWhile_eq_self, List.reverse_reverse]
  rwa [List.head?_reverse]

theorem trimBy_eq_self (h : t.head?.any p = false) (h' : t.getLast?.any p = false) :
    trimBy p t = t := by
  rw [trimBy, dropWhile_eq_self h, dropEndWhile_eq_self h']

theorem trimBy_plain (h : ∀ c ∈ t, p c = false) : trimBy p t = t :=
  trimBy_eq_self (any_head? h) (any_getLast? h)

theorem trimBy_concat (h : (x ++ [c]).head?.any p = false) (hc : p c = false) :
    trimBy p (x ++ [c]) = x ++ [c] :=
  trimBy_eq_self h ((any_getLast?_concat p x c).trans hc)

theorem trimBy_enclosed {a b : Char} (ha : p a = true) (hb : p b = true)
    (hx : ∀ c ∈ x, p c = false) : trimBy p (a :: x ++ [b]) = x := by
  have hstart : (a :: x ++ [b]).dropWhile p = (x ++ [b]).dropWhile p := List.dropWhile_cons_of_pos ha
  have hend : dropEndWhile p (x ++ [b]) = x := by
    rw [dropEndWhile, List.reverse_append, List.reverse_singleton, List.singleton_append,
      List.dropWhile_cons_of_pos hb]
    exact dropEndWhile_eq_self (any_getLast? hx)
  cases x with
  | nil => simp [trimBy, dropEndWhile, ha, hb]
  | cons c x =>
    rw [trimBy, hstart, List.cons_append,
      List.dropWhile_cons_of_neg (by simp [hx c (.head x)]), ← List.cons_append, hend]

theorem any_head?_trimBy (p : Char → Bool) (t : Text) : (trimBy p t).head?.any p = false := by
  have hd := List.head?_dropWhile_not p t
  have hprefix : trimBy p t <+: t.dropWhile p := List.rdropWhile_prefix p _
  cases ht : trimBy p t with
  | nil => rfl
  | cons c x =>
    obtain ⟨v, hv⟩ := ht ▸ hprefix
    rw [← hv] at hd
    exact hd

theorem any_head?_trimStart (t : Text) : (trimStart t).head?.any isBlank = false := by
  have hd := List.head?_dropWhile_not isBlank t
  rw [trimStart]
  cases ht : (t.dropWhile isBlank).head? with
  | none => rfl
  | some c => rwa [ht] at hd

theorem any_getLast?_trimBy (p : Char → Bool) (t : Text) :
    (trimBy p t).getLast?.any p = false := by
  have hd := List.head?_dropWhile_not p (t.dropWhile p).reverse
  rw [trimBy, dropEndWhile, List.getLast?_reverse]
  cases ht : ((t.dropWhile p).reverse.dropWhile p).head? with
  | none => rfl
  | some c => rwa [ht] at hd

theorem trimBy_eq_self_iff :
    trimBy p t = t ↔ t.head?.any p = false ∧ t.getLast?.any p = false :=
  ⟨fun h => h ▸ ⟨any_head?_trimBy p t, any_getLast?_trimBy p t⟩, fun h => trimBy_eq_self h.1 h.2⟩

theorem trimBy_sublist (p : Char → Bool) (t : Text) : (trimBy p t).Sublist t :=
  (List.rdropWhile_prefix p _).sublist.trans (List.dropWhile_sublist p)

theorem trim_trim (t : Text) : trim (trim t) = trim t :=
  trimBy_eq_self (any_head?_trimBy _ t) (any_getLast?_trimBy _ t)

def Blank (w : Text) : Prop := ∀ c ∈ w, isBlank c = true

instance (w : Text) : Decidable (Blank w) := decidable_of_iff (w.all isBlank = true) List.all_eq_true

theorem blank_nil : Blank [] := List.forall_mem_nil _

theorem trimStart_blank_append (h : Blank x) (t : Text) : trimStart (x ++ t) = trimStart t :=
  List.dropWhile_append_of_pos h

theorem trimStart_blank (h : Blank x) : trimStart x = [] := by
  have ht := trimStart_blank_append h []
  rwa [List.append_nil] at ht

theorem trimEnd_append_blank (t : Text) (h : Blank x) : trimEnd (t ++ x) = trimEnd t := by
  rw [trimEnd, dropEndWhile, List.reverse_append, List.dropWhile_append_of_pos]
  · rfl
  · exact fun c hc => h c (List.mem_reverse.1 hc)

theorem exists_trimStart (t : Text) : ∃ w, Blank w ∧ t = w ++ trimStart t :=
  ⟨t.takeWhile isBlank, fun _ => List.mem_takeWhile_imp, List.takeWhile_append_dropWhile.symm⟩

theorem exists_trimEnd (t : Text) : ∃ w, Blank w ∧ t = trimEnd t ++ w := by
  obtain ⟨w, hw, ht⟩ := exists_trimStart t.reverse
  refine ⟨w.reverse, fun c hc => hw c (List.mem_reverse.1 hc), ?_⟩
  have hr := congrArg List.reverse ht
  rwa [List.reverse_append, List.reverse_reverse] at hr

theorem trim_eq_nil_iff : trim t = [] ↔ Blank t := by
  constructor
  · intro h
    obtain ⟨w, hw, ht⟩ := exists_trimStart t
    obtain ⟨v, hv, hs⟩ := exists_trimEnd (trimStart t)
    have hv' : trimStart t = v := hs.trans (congrArg (· ++ v) h)
    rw [ht, hv']
    exact fun c hc => (List.mem_append.1 hc).elim (hw c) (hv c)
  · intro h
    rw [trim, trimBy]
    exact congrArg (dropEndWhile isBlank) (trimStart_blank h)

theorem trimStart_eq_nil_iff : trimStart t = [] ↔ Blank t :=
  ⟨fun h => trim_eq_nil_iff.1 (congrArg (dropEndWhile isBlank) h), trimStart_blank⟩

theorem isBlank_of_isDigit (h : c.isDigit = true) : isBlank c = false := by
  have hrange : 48 ≤ c.toNat ∧ c.toNat ≤ 57 := by
    simpa [Char.isDigit, UInt32.le_iff_toNat_le] using h
  simp only [isBlank, Bool.or_eq_false_iff, Bool.and_eq_false_iff, decide_eq_false_iff_not,
    beq_eq_false_iff_ne]
  omega

theorem trim_blank_around {y : Text} (hx : Blank x) (hy : Blank y) (ht : trim t = t) (hne : t ≠ []) :
    trim (x ++ (t ++ y)) = t := by
  obtain ⟨hhead, hlast⟩ := trimBy_eq_self_iff.1 ht
  have hstart : (t ++ y).head?.any isBlank = false := by
    cases t with
    | nil => exact absurd rfl hne
    | cons c t => exact hhead
  have hfront : (x ++ (t ++ y)).dropWhile isBlank = t ++ y :=
    (trimStart_blank_append hx _).trans (dropWhile_eq_self hstart)
  rw [trim, trimBy, hfront]
  exact (trimEnd_append_blank t hy).trans (dropEndWhile_eq_self hlast)

theorem trim_append {y : Text} (hx : trim x = x) (hy : trim y = y) (hx' : x ≠ []) (hy' : y ≠ []) (t : Text) :
    trim (x ++ t ++ y) = x ++ t ++ y := by
  refine trimBy_eq_self ?_ ?_
  · rw [List.append_assoc, List.head?_append_of_ne_nil _ hx']
    exact (trimBy_eq_self_iff.1 hx).1
  · rw [List.getLast?_append_of_ne_nil _ hy']
    exact (trimBy_eq_self_iff.1 hy).2

theorem trim_intercalate {sep : Text} {xs : List Text} (h : ∀ y ∈ x :: xs, trim y = y ∧ y ≠ []) :
    trim (sep.intercalate (x :: xs)) = sep.intercalate (x :: xs) ∧ sep.intercalate (x :: xs) ≠ [] := by
  induction xs generalizing x with
  | nil =>
    rw [List.intercalate_singleton]
    exact h x (.head _)
  | cons y xs ih =>
    obtain ⟨hx, hys⟩ := List.forall_mem_cons.1 h
    obtain ⟨hy, hne⟩ := ih hys
    rw [List.intercalate_cons_cons]
    exact ⟨trim_append hx.1 hy hx.2 hne sep, fun hnil => hne (List.append_eq_nil_iff.1 hnil).2⟩

theorem offsetOf?_append {needle : Text}
    (hno : ∀ y z, x = y ++ z → z ≠ [] → ¬needle <+: z ++ (needle ++ t)) :
    offsetOf? needle (x ++ (needle ++ t)) = some x.byteLength := by
  induction x with
  | nil =>
    have hpre : needle.isPrefixOf (needle ++ t) = true := by simp
    rw [List.nil_append]
    cases hn : needle ++ t with
    | nil =>
      obtain ⟨rfl, -⟩ := List.append_eq_nil_iff.1 hn
      rfl
    | cons c v =>
      rw [hn] at hpre
      rw [offsetOf?, if_pos hpre]
      rfl
  | cons c x ih =>
    have hc : ¬needle <+: c :: (x ++ (needle ++ t)) := hno [] (c :: x) rfl (by simp)
    rw [List.cons_append, offsetOf?, if_neg (by simpa using hc),
      ih fun y z hx hz => hno (c :: y) z (by rw [hx]; rfl) hz]
    rfl

end Unscramble.Text
