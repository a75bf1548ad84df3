import Unscramble.Proofs.Url.Form

/-! Looking pairs up by name and giving one of them a value: the first of several pairs is the one
that changes, and the last of several fields is the one that counts. -/
namespace Unscramble.Form
variable {name value old : Text} {ps qs before after : Pairs}

def Lacks (name : Text) (ps : Pairs) : Prop := ∀ p ∈ ps, p.1 ≠ name

instance (name : Text) (ps : Pairs) : Decidable (Lacks name ps) :=
  inferInstanceAs (Decidable (∀ p ∈ ps, p.1 ≠ name))

def IsLast (name value : Text) (ps : Pairs) : Prop :=
  ∃ before after, ps = before ++ (name, value) :: after ∧ Lacks name after

/-- The first pair with the name gets the value where it stands, or, if there is none, a pair is put
behind all others. -/
inductive Sets (name value : Text) : Pairs → Pairs → Prop where
  | inPlace {before : Pairs} (old : Text) (after : Pairs) (h : Lacks name before) :
      Sets name value (before ++ (name, old) :: after) (before ++ (name, value) :: after)
  | appended {ps : Pairs} (h : Lacks name ps) : Sets name value ps (ps ++ [(name, value)])

theorem lacks_iff : Lacks name ps ↔ ∀ p ∈ ps, (name != p.1) = true :=
  forall₂_congr fun _ _ => ne_comm.trans bne_iff_ne.symm

theorem first?_eq_none_iff : first? ps name = none ↔ Lacks name ps :=
  List.lookup_eq_none_iff.trans lacks_iff.symm

theorem first?_eq_some_iff : first? ps name = some value ↔
    ∃ before after, ps = before ++ (name, value) :: after ∧ Lacks name before := by
  simp only [lacks_iff]
  exact List.lookup_eq_some_iff

theorem lacks_reverse : Lacks name ps.reverse ↔ Lacks name ps := by simp [Lacks]

theorem last?_eq_none_iff : last? ps name = none ↔ Lacks name ps :=
  first?_eq_none_iff.trans lacks_reverse

theorem last?_eq_some_iff : last? ps name = some value ↔ IsLast name value ps := by
  rw [last?]
  refine first?_eq_some_iff.trans ⟨?_, ?_⟩
  · rintro ⟨after, before, hps, hafter⟩
    refine ⟨before.reverse, after.reverse, ?_, lacks_reverse.2 hafter⟩
    rw [← List.reverse_reverse ps, hps]
    simp
  · rintro ⟨before, after, rfl, hafter⟩
    exact ⟨after.reverse, before.reverse, by simp, lacks_reverse.2 hafter⟩

theorem set_append (h : Lacks name before) :
    set name value (before ++ (name, old) :: after) = before ++ (name, value) :: after := by
  induction before with
  | nil => exact if_pos rfl
  | cons p before ih =>
    obtain ⟨hp, hbefore⟩ := List.forall_mem_cons.1 h
    exact (if_neg hp).trans (congrArg (p :: ·) (ih hbefore))

theorem set_of_lacks (h : Lacks name ps) : set name value ps = ps ++ [(name, value)] := by
  induction ps with
  | nil => rfl
  | cons p ps ih =>
    obtain ⟨hp, hps⟩ := List.forall_mem_cons.1 h
    exact (if_neg hp).trans (congrArg (p :: ·) (ih hps))

theorem sets_iff : Sets name value ps qs ↔ qs = set name value ps := by
  constructor
  · rintro (⟨old, after, h⟩ | h)
    · exact (set_append h).symm
    · exact (set_of_lacks h).symm
  · rintro rfl
    cases h : first? ps name with
    | none =>
      have hlacks := first?_eq_none_iff.1 h
      rw [set_of_lacks hlacks]
      exact .appended hlacks
    | some old =>
      obtain ⟨before, after, rfl, hbefore⟩ := first?_eq_some_iff.1 h
      rw [set_append hbefore]
      exact .inPlace old after hbefore

theorem first?_cons_of_ne {other : Text} (h : name ≠ other) (value : Text) (ps : Pairs) :
    first? ((name, value) :: ps) other = first? ps other := by
  rw [first?, List.lookup_cons, beq_eq_false_iff_ne.2 h.symm]
  rfl

theorem first?_set_of_ne {other : Text} (h : name ≠ other) (value : Text) (ps : Pairs) :
    first? (set name value ps) other = first? ps other := by
  induction ps with
  | nil => exact first?_cons_of_ne h value []
  | cons p ps ih =>
    obtain ⟨n, v⟩ := p
    by_cases hn : n = name
    · rw [set, if_pos hn, hn, first?_cons_of_ne h, first?_cons_of_ne h]
    · rw [set, if_neg hn, first?, first?, List.lookup_cons, List.lookup_cons]
      split
      · rfl
      · exact ih

theorem last?_concat_self (ps : Pairs) (name value : Text) :
    last? (ps ++ [(name, value)]) name = some value :=
  last?_eq_some_iff.2 ⟨ps, [], rfl, nofun⟩

theorem last?_concat_of_ne {other : Text} (h : name ≠ other) (ps : Pairs) (value : Text) :
    last? (ps ++ [(name, value)]) other = last? ps other := by
  rw [last?, List.reverse_append]
  exact first?_cons_of_ne h value ps.reverse

/-- The order in which two names get their values does not count if there is a pair for one of them
already; otherwise it is the order of the two pairs at the end. -/
theorem set_comm {other value' : Text} (h : name ≠ other) (hfirst : first? ps other = some old) :
    set name value (set other value' ps) = set other value' (set name value ps) := by
  obtain ⟨before, after, rfl, hbefore⟩ := first?_eq_some_iff.1 hfirst
  clear hfirst
  rw [set_append hbefore]
  induction before with
  | nil => simp [set, h.symm]
  | cons p before ih =>
    obtain ⟨n, v⟩ := p
    obtain ⟨hn', hlacks⟩ := List.forall_mem_cons.1 hbefore
    have hother : n ≠ other := hn'
    by_cases hn : n = name
    · simp only [List.cons_append, set, if_pos hn, if_neg hother]
      exact congrArg _ (set_append hlacks).symm
    · simp only [List.cons_append, set, if_neg hn, if_neg hother]
      exact congrArg _ (ih hlacks)

end Unscramble.Form
