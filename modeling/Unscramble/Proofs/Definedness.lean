import Unscramble.Proofs.Outcome
import Unscramble.Run.Signature

/-! Outcomes of what reaches nowhere outside a text or a sequence. -/
namespace Unscramble
open Outcome
variable {α β : Type} {x : Except Failure α} {f : Failure}

/-- The outcome is a value, or a failure for another reason than an access outside. -/
def IsDefined (x : Except Failure α) : Prop := x ≠ .error .undefinedAccess

namespace IsDefined

theorem ok (a : α) : IsDefined (.ok a : Except Failure α) := nofun

theorem error (h : f ≠ .undefinedAccess) : IsDefined (.error f : Except Failure α) :=
  fun he => h (Except.error.inj he)

theorem of_some {o : Option α} {a : α} (h : o = some a) : IsDefined (defined o) := h ▸ ok a

theorem bind {g : α → Except Failure β} (hx : IsDefined x)
    (hg : ∀ a, x = .ok a → IsDefined (g a)) : IsDefined (x >>= g) := by
  intro h
  obtain h | ⟨a, ha, h⟩ := bind_eq_error.1 h
  · exact hx h
  · exact hg a ha h

theorem mapM {g : α → Except Failure β} {xs : List α} (h : ∀ x ∈ xs, IsDefined (g x)) :
    IsDefined (xs.mapM g) := by
  induction xs with
  | nil => exact ok []
  | cons x xs ih =>
    obtain ⟨hx, hxs⟩ := List.forall_mem_cons.1 h
    rw [List.mapM_cons]
    exact hx.bind fun _ _ => (ih hxs).bind fun _ _ => ok _

end IsDefined
end Unscramble
