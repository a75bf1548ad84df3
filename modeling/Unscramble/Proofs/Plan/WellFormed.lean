import Unscramble.Plan.SignatureScript
import Unscramble.Proofs.Operation.Table
import Unscramble.Proofs.Plan.Heads

/-! What every plan has that is built from a script, whatever the script is. -/
namespace Unscramble
variable {script : Text}

namespace SignaturePlan
open Regex Catalogue
variable {s body object : Text} {table : OperationTable} {m : Match} {p : SignaturePlan}

def BeginsCall (s : Text) : Prop := ∃ object, IsName object ∧
  ((∃ name v, IsName name ∧ s = object ++ '.' :: (name ++ '(' :: v)) ∨
    ∃ v, s = object ++ '[' :: '"' :: v)

structure IsStatement (s : Text) : Prop where
  ne_nil : s ≠ []
  trimmed : s.trim = s
  whole : ';' ∉ s

structure IsWellFormed (p : SignaturePlan) : Prop where
  statements : ∀ s ∈ p.statements, IsStatement s
  first : ∃ s ss, p.statements = s :: ss ∧ BeginsCall s
  operations : p.operations.entries ≠ []

theorem isStatement_of_mem (h : s ∈ statementsOf body) : IsStatement s := by
  obtain ⟨hmem, hne⟩ := List.mem_filter.1 h
  obtain ⟨piece, hpiece, rfl⟩ := List.mem_map.1 hmem
  refine ⟨by simpa using hne, Text.trim_trim piece, fun hm => ?_⟩
  exact Text.not_mem_of_mem_pieces piece hpiece ((Text.trimBy_sublist _ piece).subset hm)

theorem exists_object_of_search? {rs : List Regex} {hit : Hit}
    (hl : (sequence (.look .textStart :: gap :: named objectGroup identifier :: rs)).loopsAreRuns =
      true) (ht : s.trim = s)
    (hs : search? (sequence (.look .textStart :: gap :: named objectGroup identifier :: rs)) s =
      some hit) :
    ∃ object z v, IsName object ∧ s = object ++ (z ++ v) ∧ Spells (sequence rs) z := by
  obtain ⟨_, v, rfl, h⟩ := exists_spells_of_search?_anchored hl hs
  obtain ⟨g, _, rfl, hg, h⟩ := spells_sequence_cons.1 h
  obtain ⟨object, z, rfl, hobject, hz⟩ := spells_sequence_cons.1 h
  rw [List.append_assoc] at ht
  obtain rfl := eq_nil_of_spells_gap hg ht
  exact ⟨object, z, v, isName_of_spells hobject, List.append_assoc object z v, hz⟩

theorem beginsCall_of_transformObject (h : transformObject.firstMatch s = .ok m) (ht : s.trim = s) :
    BeginsCall s := by
  obtain ⟨r, hr, hit, hs, -⟩ := PatternSet.exists_search?_of_firstMatch h
  simp only [transformObject, List.mem_cons, List.not_mem_nil, or_false] at hr
  obtain rfl | rfl := hr
  · obtain ⟨object, _, v, hobject, rfl, hcall⟩ := exists_object_of_search? (by decide) ht hs
    obtain ⟨_, _, rfl, hdot, hcall⟩ := spells_sequence_cons.1 hcall
    obtain ⟨name, _, rfl, hname, hparen⟩ := spells_sequence_cons.1 hcall
    obtain rfl := spells_literal.1 hdot
    obtain rfl := spells_literal.1 hparen
    exact ⟨object, hobject, .inl ⟨name, v, isName_of_spells hname, by simp⟩⟩
  · obtain ⟨object, _, v, hobject, rfl, hquote⟩ := exists_object_of_search? (by decide) ht hs
    obtain rfl := spells_literal.1 hquote
    exact ⟨object, hobject, .inr ⟨v, rfl⟩⟩

theorem entries_of_operationsOf (h : operationsOf object = .ok table) : table.entries ≠ [] := by
  rw [operationsOf] at h
  split at h
  · cases h
  next hne =>
    obtain rfl := Except.ok.inj h
    exact OperationTable.entries_ofList_ne_nil hne

theorem exists_of_ofScript (h : ofScript script = .ok p) : ∃ body call calls m object,
    p.statements = ((statementsOf body).drop 1).dropLast ∧ p.statements = call :: calls ∧
      transformObject.firstMatch call = .ok m ∧ operationsOf object = .ok p.operations := by
  obtain ⟨name, -, h⟩ := Outcome.bind_eq_ok.1 h
  obtain ⟨definition, -, h⟩ := Outcome.bind_eq_ok.1 h
  obtain ⟨body, -, h⟩ := Outcome.bind_eq_ok.1 h
  simp only at h
  split at h
  · cases h
  split at h
  · cases h
  next call calls hcalls =>
    obtain ⟨m, hm, h⟩ := Outcome.bind_eq_ok.1 h
    obtain ⟨finder, -, h⟩ := Outcome.bind_eq_ok.1 h
    obtain ⟨opening, -, h⟩ := Outcome.bind_eq_ok.1 h
    obtain ⟨literal, -, h⟩ := Outcome.bind_eq_ok.1 h
    obtain ⟨object, -, h⟩ := Outcome.bind_eq_ok.1 h
    obtain ⟨table, ht, h⟩ := Outcome.bind_eq_ok.1 h
    obtain rfl := Except.ok.inj h
    exact ⟨body, call, calls, m, object, rfl, hcalls, hm, ht⟩

theorem isWellFormed_of_ofScript (h : ofScript script = .ok p) : p.IsWellFormed := by
  obtain ⟨body, call, calls, m, object, hbody, hcalls, hm, ht⟩ := exists_of_ofScript h
  have hstatements : ∀ s ∈ p.statements, IsStatement s := by
    intro s hs
    rw [hbody] at hs
    exact isStatement_of_mem (List.mem_of_mem_drop (List.mem_of_mem_dropLast hs))
  have hcall := hstatements call (hcalls ▸ .head calls)
  exact ⟨hstatements, ⟨call, calls, hcalls, beginsCall_of_transformObject hm hcall.trimmed⟩,
    entries_of_operationsOf ht⟩

end SignaturePlan

namespace ThrottlingProgram
variable {count i : Nat} {block : Text} {step : Step} {steps : List Step} {p : ThrottlingProgram}

structure IsWellFormed (p : ThrottlingProgram) : Prop where
  plan : p.plan ≠ []
  indices : ∀ s ∈ p.plan, ∀ i ∈ s.indices, i < p.operands.length

theorem lt_of_indexOf {m : Match} (h : indexOf count m = .ok i) : i < count := by
  simp only [indexOf] at h
  split at h
  · cases h
  · split at h
    next hlt => exact Except.ok.inj h ▸ hlt
    · cases h

theorem lt_of_step {s : WrittenStep} (h : s.step count = .ok step) : ∀ i ∈ step.indices, i < count :=
  Outcome.forall_of_forall₂ (forall₂_indices h) fun _ _ => lt_of_indexOf

theorem ne_nil_of_stepsOf (h : stepsOf block count = .ok steps) : steps ≠ [] := by
  rw [WrittenStep.stepsOf_eq] at h
  obtain ⟨ss, -, h⟩ := Outcome.bind_eq_ok.1 h
  cases ss with
  | nil => cases h
  | cons s ss => exact Except.ok.inj h ▸ List.cons_ne_nil s ss

theorem isWellFormed_of_ofScript (h : ofScript script = .ok p) : p.IsWellFormed := by
  rw [ofScript_eq] at h
  obtain ⟨⟨block, operands⟩, -, h⟩ := Outcome.bind_eq_ok.1 h
  obtain ⟨steps, hsteps, h⟩ := Outcome.bind_eq_ok.1 h
  obtain rfl := Except.ok.inj h
  exact ⟨ne_nil_of_stepsOf hsteps, Outcome.forall_of_forall₂ (forall₂_calls hsteps) fun _ _ => lt_of_step⟩

end ThrottlingProgram

/-- The plans that are built from a script are well formed. -/
theorem isWellFormed_of_script (script : Text) :
    (∀ p, SignaturePlan.ofScript script = .ok p → p.IsWellFormed) ∧
    ∀ p, ThrottlingProgram.ofScript script = .ok p → p.IsWellFormed :=
  ⟨fun _ => SignaturePlan.isWellFormed_of_ofScript, fun _ => ThrottlingProgram.isWellFormed_of_ofScript⟩

def twoCalls : Text :=
  "var O=\x7br:function(a)\x7ba.reverse()\x7d,s:function(a,b)\x7ba.splice(0,b)\x7d\x7d;".toList ++
    ("N=function(a)\x7ba=a.split(\"\"); O[\"r\"](a);O.s(a,2);return a.join(\"\")\x7d;".toList ++
      "c&&a.set(b,encodeURIComponent(N(c)))".toList)

theorem isWellFormed_twoCalls :
    (∃ p, SignaturePlan.ofScript twoCalls = .ok p ∧
      p.statements = ["O[\"r\"](a)".toList, "O.s(a,2)".toList] ∧ p.IsWellFormed) ∧
    ∃ p, ThrottlingProgram.ofScript (ThrottlingProgram.holding "c[0](c[1]),c[0](c[1],c[2])") = .ok p ∧
      p.plan = [⟨0, 1, none⟩, ⟨0, 1, some 2⟩] ∧ p.IsWellFormed := by
  have hsignature : SignaturePlan.ofScript twoCalls =
      .ok ⟨["O[\"r\"](a)".toList, "O.s(a,2)".toList],
        .ofList [("r".toList, .reverse), ("s".toList, .splice)]⟩ := by decide +kernel
  have hthrottling : ThrottlingProgram.ofScript
      (ThrottlingProgram.holding "c[0](c[1]),c[0](c[1],c[2])") =
        .ok ⟨[⟨0, 1, none⟩, ⟨0, 1, some 2⟩], ThrottlingProgram.heldOperands⟩ := by decide +kernel
  exact ⟨⟨_, hsignature, rfl, (isWellFormed_of_script _).1 _ hsignature⟩,
    _, hthrottling, rfl, (isWellFormed_of_script _).2 _ hthrottling⟩

end Unscramble
