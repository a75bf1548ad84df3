import Unscramble.Proofs.Url.Rereading

/-! What is relied on of a library of URLs. The standard's way to read and write them keeps to it,
however names beyond ASCII are mapped. -/
namespace Unscramble.Url.Library
variable {U : Type} {lib : Library U} {u r : U} {ps : Form.Pairs} {t : Text}

/-- Pairs are put into the query and nowhere else. A URL is written as its parts, and marks stand only
where these end. What was read is read again whatever pairs it is given, as a URL in which nothing else
depends on them (the same one, if writing and reading a URL gives it back). -/
structure IsLawful (lib : Library U) : Prop where
  parts_withPairs : ∀ u ps, lib.parts (lib.withPairs u ps) = (lib.parts u).withPairs ps
  withPairs_withPairs : ∀ u ps qs, lib.withPairs (lib.withPairs u ps) qs = lib.withPairs u qs
  render_eq : ∀ u, lib.render u = (lib.parts u).render
  isSeparable : ∀ t u, lib.parse t = .ok u → (lib.parts u).IsSeparable
  parse_render : ∀ t u, lib.parse t = .ok u →
    ∃ v, ∀ ps, lib.parse (lib.render (lib.withPairs u ps)) = .ok (lib.withPairs v ps)

/-- `r` is `u` with the pairs `ps` in its query, and so it is when it has been written. -/
structure HasPairs (lib : Library U) (u : U) (ps : Form.Pairs) (r : U) : Prop where
  scheme : (lib.parts r).scheme = (lib.parts u).scheme
  authority : (lib.parts r).authority = (lib.parts u).authority
  path : (lib.parts r).path = (lib.parts u).path
  fragment : (lib.parts r).fragment = (lib.parts u).fragment
  pairs : lib.pairs r = ps
  written : cut (lib.render r) = ((lib.parts u).front, (lib.parts r).query, (lib.parts u).fragment)
  read : ∃ v, lib.parse (lib.render r) = .ok v ∧ lib.pairs v = ps

namespace IsLawful

theorem pairs_withPairs (h : lib.IsLawful) (u : U) (ps : Form.Pairs) :
    lib.pairs (lib.withPairs u ps) = ps := by
  rw [Library.pairs, h.parts_withPairs]
  exact Form.parse_render ps

theorem setPair_withPairs (h : lib.IsLawful) (u : U) (ps : Form.Pairs) (name value : Text) :
    lib.setPair (lib.withPairs u ps) name value = lib.withPairs u (Form.set name value ps) := by
  rw [setPair, h.pairs_withPairs, h.withPairs_withPairs]

theorem hasPairs_withPairs (h : lib.IsLawful) (hread : lib.parse t = .ok u) (ps : Form.Pairs) :
    lib.HasPairs u ps (lib.withPairs u ps) := by
  have hparts := h.parts_withPairs u ps
  have hseparable := h.isSeparable t u hread
  obtain ⟨v, hagain⟩ := h.parse_render t u hread
  have hwritten : ((lib.parts u).withPairs ps).IsSeparable := by
    refine ⟨hseparable.scheme, hseparable.authority, hseparable.path, ?_⟩
    rintro _ ⟨⟩
    exact Form.not_mem_render (by decide) (by decide) (by decide) ps
  constructor
  case pairs => exact h.pairs_withPairs u ps
  case written =>
    rw [h.render_eq, hparts]
    exact hwritten.cut_render
  case read => exact ⟨_, hagain ps, h.pairs_withPairs v ps⟩
  all_goals rw [hparts]; rfl

end IsLawful
end Unscramble.Url.Library

namespace Unscramble.Url

theorem isLawful_standard (toAscii : Text → Option Text) : (standard toAscii).IsLawful where
  parts_withPairs _ _ := rfl
  withPairs_withPairs _ _ _ := rfl
  render_eq _ := rfl
  isSeparable := yields_read
  parse_render _ _ := read_withPairs

end Unscramble.Url
