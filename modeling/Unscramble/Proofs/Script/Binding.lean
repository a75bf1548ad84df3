import Unscramble.Proofs.Pattern.Catalogue
import Unscramble.Proofs.Pattern.Set
import Unscramble.Proofs.Regex.Avoids

/-! The literal that is bound to a name where a script starts. -/
namespace Unscramble.Catalogue
open Regex
variable {name : Text} {opening : String}

def binding (name v : Text) : Text := "var".toList ++ (" ".toList ++ (name ++ ("=".toList ++ v)))

theorem binding_append (name u v : Text) : binding name (u ++ v) = binding name u ++ v := by
  simp only [binding, List.append_assoc]

theorem avoids_binding {ks : List CharClass} {k : Literal.Context} {x : Text} (hn : IsName name)
    (hs : Avoids (.single '=' :: ks) ['=', k.opener]) (hc : k.closer ≠ '=')
    (hx : Avoids (.single '=' :: ks) x) : Avoids (.single '=' :: ks) (binding name (k.enclose x)) := by
  have hclose : '=' ∉ [k.closer] := by simpa using hc.symm
  exact (avoids_of_not_mem (by decide)).append <| (avoids_of_not_mem (by decide)).append <|
    (avoids_of_not_mem (hn.not_mem (by decide))).append <|
    hs.append (hx.append (avoids_of_not_mem hclose))

def boundParts (name : Text) (opening : String) : List Regex :=
  [blanks, literal name, gap, text "=", gap, named openGroup (text opening)]

theorem loopsAreRuns_bound {r : Regex} (hr : r.loopsAreRuns = true) (name : Text)
    (opening : String) : (sequence (r :: boundParts name opening)).loopsAreRuns = true := by
  have hopen : (named openGroup (text opening)).loopsAreRuns = true := loopsAreRuns_literal _
  simp only [loopsAreRuns_sequence, boundParts, List.all_cons, hr, loopsAreRuns_literal, hopen,
    Bool.true_and]
  decide

theorem reads_bound (hn : IsName name) {v : Text}
    (ho : (opening.toList ++ v).head?.any CharClass.blank.contains = false) :
    Reads (text "var" :: boundParts name opening) (binding name (opening.toList ++ v))
      (binding name (opening.toList ++ []))
      [⟨.named openGroup, binding name [], opening.toList⟩] := by
  have hequals : Reads [gap, text "=", gap, named openGroup (text opening)]
      ("=".toList ++ (opening.toList ++ v)) ("=".toList ++ (opening.toList ++ []))
      [⟨.named openGroup, "=".toList, opening.toList⟩] :=
    reads_gap rfl <| reads_text "=" <| reads_gap ho <|
      .namedLiteral openGroup opening.toList (.nil v)
  have hblank : IsRun CharClass.blank 1 " ".toList := by decide
  have hbound : Reads (boundParts name opening)
      (" ".toList ++ (name ++ ("=".toList ++ (opening.toList ++ v))))
      (" ".toList ++ (name ++ ("=".toList ++ (opening.toList ++ []))))
      [⟨.named openGroup, " ".toList ++ (name ++ "=".toList), opening.toList⟩] := by
    exact .run hblank hn.head_not_blank (fun z d w hz hl => (not_longer_than_one hz hl).elim)
      (.literal name hequals)
  exact reads_text "var" hbound

def bound (name : Text) (opening : String) : Match :=
  ⟨opening.toList, ⟨(binding name []).byteLength,
    (binding name []).byteLength + Text.byteLength opening.toList⟩⟩

theorem firstMatch_bound {s : PatternSet} {r : Regex} {rs : List Regex} {v : Text}
    {u : Text} (hs : s.patterns = sequence (r :: boundParts name opening) :: rs)
    (hg : s.group = openGroup) (hr : r.loopsAreRuns = true)
    (h : Reads (r :: boundParts name opening) v u
      [⟨.named openGroup, binding name [], opening.toList⟩]) :
    s.firstMatch v = .ok (bound name opening) := by
  have hsearch := search?_at_start (loopsAreRuns_bound hr name opening) (h.at rfl)
  have hgroup := PatternSet.group?_reading 0 u openGroup (binding name []) opening.toList []
  rw [Nat.zero_add] at hgroup
  exact PatternSet.firstMatch_of_search? hs hsearch (hg ▸ hgroup)

theorem objectLiteral_firstMatch (hn : IsName name) (v : Text) :
    (objectLiteral name).firstMatch (binding name ('\x7b' :: v)) = .ok (bound name "\x7b") := by
  have h : Reads (text "var" :: boundParts name "\x7b") (binding name ("\x7b".toList ++ v)) _ _ :=
    reads_bound hn rfl
  have hother {s : String} {rs : List Regex} (hs : s.toList.head?.map (· == 'v') = some false) :
      Bars (text s :: rs) (binding name ("\x7b".toList ++ v)) := bars_text hs
  exact firstMatch_bound rfl rfl (by decide) (h.left (.alt (hother rfl) (hother rfl)))

theorem arrayLiteral_firstMatch (hn : IsName name) (v : Text) :
    (arrayLiteral name).firstMatch (binding name ('[' :: v)) = .ok (bound name "[") := by
  have h : Reads (text "var" :: boundParts name "[") (binding name ("[".toList ++ v)) _ _ :=
    reads_bound hn rfl
  exact firstMatch_bound rfl rfl (by decide) h

/-- The literal that a binding opens, found by any pattern set that finds its opening character. -/
theorem exists_literal {s : PatternSet} {k : Literal.Context} {x : Text} (hk : k.IsLevel)
    (hm : ∀ v, s.firstMatch (binding name (k.opener :: v)) = .ok (bound name opening))
    (hx : Literal.Closed x) (v : Text) : ∃ m l,
      s.firstMatch (binding name (k.enclose x ++ v)) = .ok m ∧
        Literal.at? (binding name (k.enclose x ++ v)) m.span.start = .ok l ∧ l.text = k.enclose x := by
  have hopen := hm (x ++ k.closer :: v)
  rw [← Literal.Context.enclose_append] at hopen
  have hl := Literal.at?_enclose hk (binding name []) hx v
  rw [← binding_append, List.nil_append] at hl
  exact ⟨_, _, hopen, hl, rfl⟩

end Unscramble.Catalogue
