import Unscramble.Cipher
import Unscramble.Plan.Stored
import Unscramble.Proofs.Json.Reader
import Unscramble.Proofs.Operation.Table
import Unscramble.Proofs.Plan.Steps

/-! Stored plans are read back, and the cipher of the plans read back does what the cipher of the
stored ones does. -/
namespace Unscramble
open Json Outcome

theorem Operation.reads_toJson (op : Operation) : Reads reader op.toJson op :=
  reads_alone (ofTag?_tag op)

namespace Operand

/-- Integers are signed numbers of 64 bits. -/
def IsStorable : Operand → Prop
  | integer v => Number.IsSigned v
  | _ => True

theorem reads_toJson {o : Operand} (h : o.IsStorable) : Reads reader o.toJson o := by
  cases o with
  | integer v => exact reads_holding rfl ((reads_int h).map integer)
  | text t => exact reads_holding rfl ((reads_text t).map text)
  | operation op => exact reads_holding rfl (op.reads_toJson.map operation)
  | itself => exact reads_alone rfl

end Operand

namespace Step

def IsStorable (s : Step) : Prop := ∀ i ∈ s.indices, i ≤ Number.maxWord

theorem head?_renderNat (n : Nat) : (renderNat n).head? ≠ some 'n' := by
  obtain ⟨c, u, h, hc⟩ := starts_render n
  rw [renderNat, h]
  rintro ⟨⟩
  cases hc

theorem reads_second {second : Option Nat} (h : ∀ i ∈ second, i ≤ Number.maxWord) :
    Reads (readOptional (readNat Number.maxWord)) (second.elim null renderNat) second := by
  cases second with
  | none => exact reads_optional_null
  | some k => exact (reads_nat (h k rfl)).optional (head?_renderNat k)

theorem reads_toJson {s : Step} (h : s.IsStorable) : Reads reader s.toJson s := by
  obtain ⟨operation, first, second⟩ := s
  have hoperation := reads_nat (h operation (.head _))
  have hfirst := reads_nat (h first (.tail _ (.head _)))
  have hsecond : Reads _ _ second :=
    reads_second fun i hi => h i (.tail _ (.tail _ (Option.mem_toList.2 hi)))
  refine reads_record (s := ⟨some operation, some first, some second⟩) ?_ rfl
  refine .cons _ rfl rfl (hoperation.collect fun n => Partial.mk (some n) none none) ?_
  refine .cons _ rfl rfl (hfirst.collect fun n => Partial.mk (some operation) (some n) none) ?_
  exact .cons _ rfl rfl (hsecond.collect fun n => Partial.mk (some operation) (some first) (some n)) (.nil _)

end Step

namespace ThrottlingProgram

structure IsStorable (p : ThrottlingProgram) : Prop where
  plan : ∀ s ∈ p.plan, s.IsStorable
  operands : ∀ o ∈ p.operands, o.IsStorable

theorem reads_toJson {p : ThrottlingProgram} (h : p.IsStorable) : Reads reader p.toJson p := by
  obtain ⟨plan, operands⟩ := p
  have hplan := reads_array fun s hs => Step.reads_toJson (h.plan s hs)
  have hoperands := reads_array fun o ho => Operand.reads_toJson (h.operands o ho)
  refine reads_record (s := ⟨some plan, some operands⟩) ?_ rfl
  refine .cons _ rfl rfl (hplan.collect fun steps => Partial.mk (some steps) none) ?_
  exact .cons _ rfl rfl (hoperands.collect fun operands => Partial.mk (some plan) (some operands)) (.nil _)

theorem ofJson_toJson {p : ThrottlingProgram} (h : p.IsStorable) : ofJson p.toJson = .ok p :=
  (reads_toJson h).whole

end ThrottlingProgram

namespace OperationTable

theorem reads_toJson (t : OperationTable) : Reads reader t.toJson t := by
  have hmembers : List.Forall₂ (fun m e => m.1 = e.1 ∧ Reads Operation.reader m.2 e.2)
      (t.entries.map fun e => (e.1, e.2.toJson)) t.entries :=
    List.forall₂_map_left_iff.2 (List.forall₂_same.2 fun e _ => ⟨rfl, e.2.reads_toJson⟩)
  have hread := (reads_map hmembers).map ofList
  rwa [ofList_entries] at hread

end OperationTable

namespace SignaturePlan

theorem reads_statements (statements : List Text) :
    Reads statementsReader (renderObject [(statementsName, renderArray (statements.map renderText))])
      statements := by
  have hread := reads_array fun s (_ : s ∈ statements) => reads_text s
  refine reads_record (s := some statements) ?_ rfl
  exact .cons _ rfl rfl (hread.collect _) (.nil _)

theorem reads_toJson (p : SignaturePlan) : Reads reader p.toJson p := by
  obtain ⟨statements, operations⟩ := p
  refine reads_record (s := ⟨some statements, some operations⟩) ?_ rfl
  refine .cons _ rfl rfl ((reads_statements statements).collect fun ss => Partial.mk (some ss) none) ?_
  exact .cons _ rfl rfl (operations.reads_toJson.collect fun t => Partial.mk (some statements) (some t)) (.nil _)

theorem ofJson_toJson (p : SignaturePlan) : ofJson p.toJson = .ok p := p.reads_toJson.whole

/-- Equal plans, whatever order the entries of their tables are kept in. -/
structure Agrees (p q : SignaturePlan) : Prop where
  statements : p.statements = q.statements
  operations : ∀ name, p.operations.find? name = q.operations.find? name

theorem Agrees.of_perm {p q : SignaturePlan} (hs : p.statements = q.statements)
    (h : p.operations.entries.Perm q.operations.entries) : p.Agrees q :=
  ⟨hs, OperationTable.find?_of_perm h⟩

variable {α : Type} {t u : OperationTable}

theorem runStatement_congr (h : ∀ name, t.find? name = u.find? name) (xs : List α) (s : Text) :
    runStatement t xs s = runStatement u xs s := by
  simp only [runStatement, h]

theorem runStatements_congr (h : ∀ name, t.find? name = u.find? name) (ss : List Text) (xs : List α) :
    runStatements t ss xs = runStatements u ss xs := by
  induction ss generalizing xs with
  | nil => rfl
  | cons s ss ih => simp only [runStatements, runStatement_congr h, ih]

theorem Agrees.run {p q : SignaturePlan} (h : p.Agrees q) (input : Text) : p.run input = q.run input := by
  rw [SignaturePlan.run, SignaturePlan.run, h.statements, runStatements_congr h.operations]

end SignaturePlan

namespace Cipher

/-- The entries of the table are written in any order, and it is the plan in this order that is read
back. -/
theorem stored_plans_run_alike {stored p : SignaturePlan} {q : ThrottlingProgram}
    (hp : stored.Agrees p) (hq : q.IsStorable) :
    SignaturePlan.ofJson stored.toJson = .ok stored ∧ ThrottlingProgram.ofJson q.toJson = .ok q ∧
      ∀ p' q', SignaturePlan.ofJson stored.toJson = .ok p' → ThrottlingProgram.ofJson q.toJson = .ok q' →
        ∀ input, decipherSignature ⟨p', q'⟩ input = decipherSignature ⟨p, q⟩ input ∧
          decipherThrottling ⟨p', q'⟩ input = decipherThrottling ⟨p, q⟩ input := by
  have hsignature := stored.ofJson_toJson
  have hthrottling := ThrottlingProgram.ofJson_toJson hq
  refine ⟨hsignature, hthrottling, fun p' q' hp' hq' input => ?_⟩
  obtain rfl : stored = p' := Except.ok.inj (hsignature.symm.trans hp')
  obtain rfl : q = q' := Except.ok.inj (hthrottling.symm.trans hq')
  exact ⟨hp.run input, rfl⟩

def sampleSignature : SignaturePlan where
  statements := ["\"\\\x01é".toList, "Ab.cd(a,3)".toList]
  operations := .ofList [("cd".toList, .splice), ("\x7f\n".toList, .reverse)]

def reorderedSignature : SignaturePlan where
  statements := sampleSignature.statements
  operations := .ofList [("\x7f\n".toList, .reverse), ("cd".toList, .splice)]

def sampleThrottling : ThrottlingProgram where
  plan := [⟨1, 0, none⟩, ⟨Number.maxWord, 0, some Number.maxWord⟩]
  operands := [.itself, .operation .reverse, .text "\u2028\t".toList, .integer (-9223372036854775808)]

theorem stored_plans_run_alike_sample :
    reorderedSignature.Agrees sampleSignature ∧ sampleThrottling.IsStorable ∧
      SignaturePlan.ofJson reorderedSignature.toJson = .ok reorderedSignature ∧
      ThrottlingProgram.ofJson sampleThrottling.toJson = .ok sampleThrottling ∧
      ∀ p' q', SignaturePlan.ofJson reorderedSignature.toJson = .ok p' →
        ThrottlingProgram.ofJson sampleThrottling.toJson = .ok q' →
        ∀ input,
          decipherSignature ⟨p', q'⟩ input =
            decipherSignature ⟨sampleSignature, sampleThrottling⟩ input ∧
          decipherThrottling ⟨p', q'⟩ input =
            decipherThrottling ⟨sampleSignature, sampleThrottling⟩ input := by
  have hp : reorderedSignature.Agrees sampleSignature := .of_perm rfl (.swap _ _ _)
  have hq : sampleThrottling.IsStorable := by
    constructor
    · simp [sampleThrottling, Step.IsStorable, Step.indices, Number.maxWord]
    · simp [sampleThrottling, Operand.IsStorable, Number.IsSigned, Number.maxSigned]
  exact ⟨hp, hq, stored_plans_run_alike hp hq⟩

end Cipher
end Unscramble
