import Mathlib.Algebra.GroupWithZero.Nat
import Mathlib.Data.Finset.Card
import Mathlib.Data.List.Induction
import Mathlib.Tactic.MkIffOfInductiveProp
import Unscramble.Store

/-! What is relied on of a store: while the names fit into it, it finds what was put in last and is
young enough, and it never finds anything else. The store that gives up what was put in first keeps to
it. -/
namespace Unscramble.Store

section Latest
variable {β : Type} {gives ends : β → Prop} {time : β → Nat} {age : Nat} {x : β} {xs : List β}

/-- Something was given so long ago, and nothing has ended it since. -/
def Latest (gives ends : β → Prop) (time : β → Nat) (age : Nat) (xs : List β) : Prop :=
  ∃ before x after, xs = before ++ x :: after ∧ gives x ∧ (∀ y ∈ after, ¬ends y) ∧
    (after.map time).sum = age

theorem not_latest_nil : ¬Latest gives ends time age [] := by
  intro ⟨before, x, after, h, _⟩
  simp at h

theorem latest_concat : Latest gives ends time age (xs ++ [x]) ↔ gives x ∧ age = 0 ∨
    ∃ earlier, Latest gives ends time earlier xs ∧ ¬ends x ∧ age = earlier + time x := by
  constructor
  · intro ⟨before, y, after, heq, hy, hafter, hage⟩
    cases after using List.reverseRecOn with
    | nil =>
      obtain ⟨rfl, hxy⟩ := List.append_singleton_inj.1 heq
      exact .inl ⟨hxy ▸ hy, hage.symm⟩
    | append_singleton after z =>
      rw [← List.cons_append, ← List.append_assoc] at heq
      obtain ⟨rfl, rfl⟩ := List.append_singleton_inj.1 heq
      refine .inr ⟨_, ⟨before, y, after, rfl, hy, fun z hz => hafter z (by simp [hz]), rfl⟩,
        hafter x (by simp), ?_⟩
      simpa using hage.symm
  · intro h
    cases h with
    | inl h => exact ⟨xs, x, [], rfl, h.1, by simp, h.2.symm⟩
    | inr h =>
      obtain ⟨earlier, ⟨before, y, after, rfl, hy, hafter, rfl⟩, hx, rfl⟩ := h
      refine ⟨before, y, after ++ [x], by simp, hy, ?_, by simp⟩
      simpa [or_imp, forall_and] using ⟨hafter, hx⟩

end Latest

variable {S α : Type}

inductive Command (α : Type) where
  | get (name : Text)
  | insert (name : Text) (value : α)
  | invalidate (name : Text)
  | clear
  | wait (time : Nat)

def perform (st : Store S α) (s : S) : Command α → S
  | .get name => (st.get s name).2
  | .insert name value => st.insert s name value
  | .invalidate name => st.invalidate s name
  | .clear => st.clear s
  | .wait time => st.wait s time

def after (st : Store S α) (capacity : Nat) (lifetime : Duration) (cs : List (Command α)) : S :=
  cs.foldl st.perform (st.create capacity lifetime)

theorem after_append (st : Store S α) (capacity : Nat) (lifetime : Duration) (cs ds : List (Command α)) :
    st.after capacity lifetime (cs ++ ds) = ds.foldl st.perform (st.after capacity lifetime cs) :=
  List.foldl_append

namespace Command

def time : Command α → Nat
  | wait t => t
  | _ => 0

def name? : Command α → Option Text
  | insert name _ => some name
  | _ => none

@[mk_iff]
inductive Ends (name : Text) : Command α → Prop where
  | insert (value : α) : Ends name (.insert name value)
  | invalidate : Ends name (.invalidate name)
  | clear : Ends name .clear

end Command

/-- The value was put under the name so long ago, and is the last one that was. -/
def IsLatest (name : Text) (value : α) : Nat → List (Command α) → Prop :=
  Latest (· = .insert name value) (Command.Ends name) Command.time

section IsLatest
variable {name k : Text} {value v : α} {age : Nat} {cs : List (Command α)}

theorem isLatest_concat {c : Command α} :
    IsLatest name value age (cs ++ [c]) ↔ c = .insert name value ∧ age = 0 ∨
      ∃ earlier, IsLatest name value earlier cs ∧ ¬c.Ends name ∧ age = earlier + c.time :=
  latest_concat

@[simp] theorem isLatest_get : IsLatest name value age (cs ++ [.get k]) ↔ IsLatest name value age cs := by
  simp [isLatest_concat, Command.ends_iff, Command.time]

@[simp] theorem isLatest_insert : IsLatest name value age (cs ++ [.insert k v]) ↔
    (name = k ∧ value = v) ∧ age = 0 ∨ IsLatest name value age cs ∧ name ≠ k := by
  simp [isLatest_concat, Command.ends_iff, Command.time, @eq_comm _ k, @eq_comm _ v]

@[simp] theorem isLatest_invalidate : IsLatest name value age (cs ++ [.invalidate k]) ↔
    IsLatest name value age cs ∧ name ≠ k := by
  simp [isLatest_concat, Command.ends_iff, Command.time, @eq_comm _ k]

@[simp] theorem isLatest_clear : ¬IsLatest name value age (cs ++ [.clear]) := by
  simp [isLatest_concat, Command.ends_iff]

@[simp] theorem isLatest_wait {time : Nat} : IsLatest name value age (cs ++ [.wait time]) ↔
    ∃ earlier, IsLatest name value earlier cs ∧ age = earlier + time := by
  simp [isLatest_concat, Command.ends_iff, Command.time]

end IsLatest

def names (cs : List (Command α)) : Finset Text := (cs.filterMap Command.name?).toFinset

/-- What is found was put in last and is younger than the lifetime, and nothing is found in a store
without room. What was put in last and is younger than the lifetime is found if there is room for all
names. -/
structure IsLawful (st : Store S α) : Prop where
  found : ∀ capacity lifetime cs name value,
    (st.get (st.after capacity lifetime cs) name).1 = some value →
      ∃ age, IsLatest name value age cs ∧ age < lifetime.nanoseconds
  hasRoom : ∀ capacity lifetime cs name value,
    (st.get (st.after capacity lifetime cs) name).1 = some value → 0 < capacity
  finds : ∀ capacity lifetime cs name value age,
    IsLatest name value age cs → age < lifetime.nanoseconds → (names cs).card ≤ capacity →
      (st.get (st.after capacity lifetime cs) name).1 = some value

end Unscramble.Store

namespace Unscramble.Shelf
open Store
variable {α : Type} {name k : Text} {es : List (Text × Nat × α)} {cs : List (Command α)}
  {c : Command α} {s : Shelf α} {capacity : Nat} {lifetime : Duration}

theorem lookup_filter (es : List (Text × Nat × α)) (p : Text → Bool) (k : Text) :
    (es.filter (p ·.1)).lookup k = if p k then es.lookup k else none := by
  induction es with
  | nil => simp
  | cons e es ih =>
    by_cases he : p e.1 <;> by_cases hk : k = e.1 <;> grind

theorem lookup_take {n : Nat} {x : Nat × α} (h : (es.take n).lookup k = some x) :
    es.lookup k = some x := by
  rw [← List.take_append_drop n es, List.lookup_append, h]
  rfl

theorem lookup_cons_without (s : Shelf α) (name k : Text) (x : Nat × α) :
    ((name, x) :: s.without name).lookup k = if k = name then some x else s.entries.lookup k := by
  by_cases hk : k = name
  · simp [hk]
  · simp [List.lookup_cons, hk, beq_eq_false_iff_ne.2 hk, without, lookup_filter s.entries (· != name)]

/-- The entries are what the commands have put in last, and all of it if there is room for all names. -/
structure Reflects (capacity : Nat) (lifetime : Duration) (cs : List (Command α)) (s : Shelf α) :
    Prop where
  hasCapacity : s.capacity = capacity
  hasLifetime : s.lifetime = lifetime.nanoseconds
  length_le : s.entries.length ≤ capacity
  nodup : (s.entries.map (·.1)).Nodup
  mem_names : ∀ e ∈ s.entries, e.1 ∈ names cs
  sound : ∀ k time value, s.entries.lookup k = some (time, value) →
    ∃ age, IsLatest k value age cs ∧ s.clock = time + age
  complete : (names cs).card ≤ capacity → ∀ k value age, IsLatest k value age cs →
    ∃ time, s.entries.lookup k = some (time, value) ∧ s.clock = time + age

theorem names_subset (cs : List (Command α)) (c : Command α) : names cs ⊆ names (cs ++ [c]) := by
  rw [names, names, List.filterMap_append, List.toFinset_append]
  exact Finset.subset_union_left

theorem room_of_concat (h : (names (cs ++ [c])).card ≤ capacity) : (names cs).card ≤ capacity :=
  (Finset.card_le_card (names_subset cs c)).trans h

namespace Reflects

theorem create (capacity : Nat) (lifetime : Duration) :
    Reflects capacity lifetime ([] : List (Command α)) (store.create capacity lifetime) where
  hasCapacity := rfl
  hasLifetime := rfl
  length_le := Nat.zero_le _
  nodup := List.nodup_nil
  mem_names := nofun
  sound := nofun
  complete _ _ _ _ h := absurd h not_latest_nil

theorem keep (h : Reflects capacity lifetime cs s) (p : Text → Bool)
    (hlatest : ∀ k value age, IsLatest k value age (cs ++ [c]) ↔ IsLatest k value age cs ∧ p k) :
    Reflects capacity lifetime (cs ++ [c]) { s with entries := s.entries.filter (p ·.1) } := by
  refine ⟨h.hasCapacity, h.hasLifetime, (List.length_filter_le _ _).trans h.length_le,
    h.nodup.sublist (List.filter_sublist.map _),
    fun e he => names_subset cs c (h.mem_names e (List.mem_of_mem_filter he)), ?_, ?_⟩
  · intro k time value hk
    rw [lookup_filter, Option.ite_none_right_eq_some] at hk
    obtain ⟨age, hage, hclock⟩ := h.sound k time value hk.2
    exact ⟨age, (hlatest k value age).2 ⟨hage, hk.1⟩, hclock⟩
  · intro hroom k value age hk
    obtain ⟨hk, hp⟩ := (hlatest k value age).1 hk
    rw [lookup_filter, if_pos hp]
    exact h.complete (room_of_concat hroom) k value age hk

theorem wait (h : Reflects capacity lifetime cs s) (time : Nat) :
    Reflects capacity lifetime (cs ++ [.wait time]) { s with clock := s.clock + time } := by
  refine ⟨h.hasCapacity, h.hasLifetime, h.length_le, h.nodup,
    fun e he => names_subset cs _ (h.mem_names e he), ?_, ?_⟩
  · intro k time' value hk
    obtain ⟨age, hage, hclock⟩ := h.sound k time' value hk
    exact ⟨age + time, isLatest_wait.2 ⟨age, hage, rfl⟩, by simp only [hclock, Nat.add_assoc]⟩
  · intro hroom k value age hk
    obtain ⟨earlier, hearlier, rfl⟩ := isLatest_wait.1 hk
    obtain ⟨time', hlookup, hclock⟩ := h.complete (room_of_concat hroom) k value earlier hearlier
    exact ⟨time', hlookup, by simp only [hclock, Nat.add_assoc]⟩

section insert
variable (h : Reflects capacity lifetime cs s) (name : Text) (value : α)
include h

theorem nodup_insert : (((name, s.clock, value) :: s.without name).map (·.1)).Nodup := by
  rw [List.map_cons, List.nodup_cons]
  exact ⟨by simp [without], h.nodup.sublist (List.filter_sublist.map _)⟩

theorem mem_names_insert : ∀ e ∈ (name, s.clock, value) :: s.without name,
    e.1 ∈ names (cs ++ [.insert name value]) := by
  rw [List.forall_mem_cons]
  refine ⟨?_, fun e he => names_subset cs _ (h.mem_names e (List.mem_of_mem_filter he))⟩
  simp [names, Command.name?]

/-- While there is room for all names nothing is given up. -/
theorem entries_insert (hroom : (names (cs ++ [.insert name value])).card ≤ capacity) :
    (s.insert name value).entries = (name, s.clock, value) :: s.without name := by
  refine List.take_of_length_le ?_
  rw [h.hasCapacity, ← List.length_map (·.1), ← List.toFinset_card_of_nodup (h.nodup_insert name value)]
  refine (Finset.card_le_card fun k hk => ?_).trans hroom
  obtain ⟨e, he, rfl⟩ := List.mem_map.1 (List.mem_toFinset.1 hk)
  exact h.mem_names_insert name value e he

theorem insert : Reflects capacity lifetime (cs ++ [.insert name value]) (s.insert name value) := by
  refine ⟨h.hasCapacity, h.hasLifetime, (List.length_take_le _ _).trans h.hasCapacity.le,
    (h.nodup_insert name value).sublist ((List.take_sublist _ _).map _),
    fun e he => h.mem_names_insert name value e (List.mem_of_mem_take he), ?_, ?_⟩
  · intro k time v hk
    have hk := lookup_take hk
    rw [lookup_cons_without] at hk
    split at hk
    next hname =>
      obtain ⟨rfl, rfl⟩ := Prod.mk.inj (Option.some.inj hk)
      exact ⟨0, isLatest_insert.2 (.inl ⟨⟨hname, rfl⟩, rfl⟩), rfl⟩
    next hname =>
      obtain ⟨age, hage, hclock⟩ := h.sound k time v hk
      exact ⟨age, isLatest_insert.2 (.inr ⟨hage, hname⟩), hclock⟩
  · intro hroom k v age hk
    rw [h.entries_insert name value hroom, lookup_cons_without]
    cases isLatest_insert.1 hk with
    | inl hnew =>
      obtain ⟨⟨rfl, rfl⟩, rfl⟩ := hnew
      exact ⟨s.clock, if_pos rfl, rfl⟩
    | inr hold =>
      rw [if_neg hold.2]
      exact h.complete (room_of_concat hroom) k v age hold.1

end insert

theorem perform (h : Reflects capacity lifetime cs s) (c : Command α) :
    Reflects capacity lifetime (cs ++ [c]) (store.perform s c) := by
  cases c with
  | get name => simpa [Store.perform, store] using h.keep (c := .get name) (fun _ => true) (by simp)
  | insert name value => exact h.insert name value
  | invalidate name => exact h.keep (· != name) (by simp)
  | clear => simpa [Store.perform, store] using h.keep (c := .clear) (fun _ => false) (by simp)
  | wait time => exact h.wait time

theorem after (capacity : Nat) (lifetime : Duration) (cs : List (Command α)) :
    Reflects capacity lifetime cs (store.after capacity lifetime cs) := by
  induction cs using List.reverseRecOn with
  | nil => exact create capacity lifetime
  | append_singleton cs c ih =>
    rw [after_append]
    exact ih.perform c

end Reflects

theorem get?_eq_some_iff {value : α} : s.get? name = some value ↔
    ∃ time, s.entries.lookup name = some (time, value) ∧ s.clock < time + s.lifetime := by
  simp [get?, Option.filter_eq_some_iff]

theorem isLawful_store : (store : Store (Shelf α) α).IsLawful where
  found capacity lifetime cs name value h := by
    have hr := Reflects.after capacity lifetime cs
    obtain ⟨time, hlookup, hyoung⟩ := get?_eq_some_iff.1 h
    obtain ⟨age, hage, hclock⟩ := hr.sound name time value hlookup
    rw [hr.hasLifetime] at hyoung
    exact ⟨age, hage, by omega⟩
  hasRoom capacity lifetime cs name value h := by
    obtain ⟨time, hlookup, -⟩ := get?_eq_some_iff.1 h
    have hlength := (Reflects.after capacity lifetime cs).length_le
    refine Nat.pos_of_ne_zero fun hzero => ?_
    have hempty : (store.after capacity lifetime cs).entries = [] :=
      List.eq_nil_of_length_eq_zero (Nat.le_zero.1 (hzero ▸ hlength))
    rw [hempty] at hlookup
    cases hlookup
  finds capacity lifetime cs name value age h hyoung hroom := by
    have hr := Reflects.after capacity lifetime cs
    obtain ⟨time, hlookup, hclock⟩ := hr.complete hroom name value age h
    refine get?_eq_some_iff.2 ⟨time, hlookup, ?_⟩
    rw [hr.hasLifetime]
    omega

end Unscramble.Shelf
