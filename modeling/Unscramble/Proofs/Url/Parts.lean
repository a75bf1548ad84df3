import Unscramble.Proofs.Text.Cutting
import Unscramble.Url.Basic

/-! Where the parts of a written URL end: the fragment begins at the first `#`, and in front of it the
query at the first `?`. -/
namespace Unscramble.Url
variable {c : Char} {t x y : Text} {u : Url}

def cutAt (c : Char) (t : Text) : Text × Option Text :=
  match Text.splitOnce? c t with
  | none => (t, none)
  | some (x, y) => (x, some y)

/-- What stands in front of the query of a written URL, the query and the fragment. -/
def cut (t : Text) : Text × Option Text × Option Text :=
  let (body, fragment) := cutAt '#' t
  let (front, query) := cutAt '?' body
  (front, query, fragment)

theorem cutAt_behind (h : c ∉ x) (o : Option Text) : cutAt c (x ++ behind c o) = (x, o) := by
  cases o with
  | none => rw [behind, List.append_nil, cutAt, Text.splitOnce?_of_not_mem h]
  | some y => rw [behind, cutAt, Text.splitOnce?_append h]

theorem append_cutAt (c : Char) (t : Text) : (cutAt c t).1 ++ behind c (cutAt c t).2 = t := by
  obtain ⟨-, hs⟩ | ⟨x, y, rfl, -, hs⟩ := Text.splitOnce?_cases c t
  · simp [cutAt, hs, behind]
  · simp [cutAt, hs, behind]

theorem not_mem_cutAt (c : Char) (t : Text) : c ∉ (cutAt c t).1 := by
  obtain ⟨h, hs⟩ | ⟨x, y, -, hx, hs⟩ := Text.splitOnce?_cases c t
  · simpa [cutAt, hs] using h
  · simpa [cutAt, hs] using hx

def isMark (c : Char) : Bool := c == '?' || c == '#'

def Unmarked (t : Text) : Prop := ∀ c ∈ t, isMark c = false

theorem isMark_iff : isMark c ↔ c = '?' ∨ c = '#' := by simp [isMark]

theorem isMark_of_class {p : Char → Bool} (hquery : p '?' = false) (hfragment : p '#' = false)
    (h : p c) : isMark c = false := by
  rw [Bool.eq_false_iff]
  intro hc
  obtain rfl | rfl := isMark_iff.1 hc
  · exact absurd h (by simp [hquery])
  · exact absurd h (by simp [hfragment])

theorem unmarked_iff : Unmarked t ↔ '?' ∉ t ∧ '#' ∉ t := by
  constructor
  · exact fun h => ⟨fun hm => absurd (h _ hm) (by decide), fun hm => absurd (h _ hm) (by decide)⟩
  · intro ⟨hquery, hfragment⟩ c hc
    rw [Bool.eq_false_iff]
    intro hmark
    obtain rfl | rfl := isMark_iff.1 hmark
    · exact hquery hc
    · exact hfragment hc

namespace Unmarked

theorem nil : Unmarked [] := nofun

theorem append (hx : Unmarked x) (hy : Unmarked y) : Unmarked (x ++ y) :=
  List.forall_mem_append.2 ⟨hx, hy⟩

theorem cons (hc : isMark c = false) (ht : Unmarked t) : Unmarked (c :: t) :=
  List.forall_mem_cons.2 ⟨hc, ht⟩

end Unmarked

/-- The marks stand where the parts end and nowhere else. -/
structure IsSeparable (u : Url) : Prop where
  scheme : Unmarked u.scheme
  authority : ∀ a ∈ u.authority, Unmarked a
  path : Unmarked u.path
  query : ∀ q ∈ u.query, '#' ∉ q

theorem unmarked_cut (t : Text) : Unmarked (cut t).1 := by
  refine unmarked_iff.2 ⟨not_mem_cutAt '?' _, fun h => not_mem_cutAt '#' t ?_⟩
  rw [← append_cutAt '?' (cutAt '#' t).1]
  exact List.mem_append_left _ h

def front (u : Url) : Text :=
  u.scheme ++ ':' :: (match u.authority with
    | some a => '/' :: '/' :: a
    | none => if ['/', '/'].isPrefixOf u.path then ['/', '.'] else []) ++ u.path

theorem render_eq (u : Url) : u.render = u.front ++ behind '?' u.query ++ behind '#' u.fragment := rfl

theorem IsSeparable.front (h : u.IsSeparable) : Unmarked u.front := by
  refine .append (.append h.scheme (.cons rfl ?_)) h.path
  split
  next a ha => exact .cons rfl (.cons rfl (h.authority a ha))
  · split
    · exact .cons rfl (.cons rfl .nil)
    · exact .nil

theorem cut_append {query fragment : Option Text} (ht : Unmarked t) (hq : ∀ q ∈ query, '#' ∉ q) :
    cut (t ++ behind '?' query ++ behind '#' fragment) = (t, query, fragment) := by
  obtain ⟨hquery, hfragment⟩ := unmarked_iff.1 ht
  have hbody : '#' ∉ t ++ behind '?' query := by
    rw [List.mem_append, not_or]
    refine ⟨hfragment, ?_⟩
    cases query with
    | none => exact List.not_mem_nil
    | some q => exact List.mem_cons.not.2 (not_or.2 ⟨by decide, hq q rfl⟩)
  rw [cut, cutAt_behind hbody]
  dsimp only
  rw [cutAt_behind hquery]

theorem IsSeparable.cut_render (h : u.IsSeparable) :
    cut u.render = (u.front, u.query, u.fragment) := by
  rw [render_eq]
  exact cut_append h.front h.query

end Unscramble.Url
