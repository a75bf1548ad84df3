import Unscramble.Proofs.Script.Elements
import Unscramble.Proofs.Script.Reading

/-! Splitting an array literal undoes writing it: function literals with anything in them, texts that
close what they open, and blanks around both. -/
namespace Unscramble.Elements
open Literal (Context Items)
variable {x : Text}

/-- What stands between two commas of an array, without the blanks around it. -/
inductive IsItem : Text → Prop
  | function {front gap body : Text} (hf : ')' ∉ front) (hg : Text.Blank gap)
    (hb : Items .brace body) : IsItem (functionWith front gap (Context.brace.enclose body))
  | other {x : Text} (hne : x ≠ []) (ht : x.trim = x) (hk : ¬keyword <+: x)
    (hx : Commas.Closes 0 x) : IsItem x

theorem IsItem.readsAs {before after : Text} (h : IsItem x) (hb : Text.Blank before)
    (ha : Text.Blank after) : ReadsAs (before ++ (x ++ after)) x := by
  cases h with
  | function hf hg hi => exact readsAs_functionWith hf hg ⟨.brace, _, .inl rfl, hi, rfl⟩ hb ha
  | other hne ht hk hx =>
    obtain ⟨hs, he⟩ := Text.trimBy_eq_self_iff.1 ht
    exact readsAs_of_whole hne hk (Commas.whole_iff.2 hx) hs he hb ha

structure Spaced where
  before : Text
  item : Text
  after : Text
  before_blank : Text.Blank before
  isItem : IsItem item
  after_blank : Text.Blank after

def Spaced.text (s : Spaced) : Text := s.before ++ (s.item ++ s.after)

def arrayOf (items : List Spaced) (ending : Text) : Text :=
  Context.bracket.enclose ([','].intercalate (items.map Spaced.text) ++ ending)

theorem readsAs_items (items : List Spaced) :
    List.Forall₂ ReadsAs (items.map Spaced.text) (items.map Spaced.item) := by
  rw [List.forall₂_map_left_iff, List.forall₂_map_right_iff, List.forall₂_same]
  exact fun s _ => s.isItem.readsAs s.before_blank s.after_blank

theorem collect_comma {w v : Text} (hw : Text.Blank w) (hv : Text.Blank v) (bound : Nat) :
    collect (bound + 1) (w ++ ',' :: v) = .ok [[]] := by
  have ht : Text.trimStart (w ++ ',' :: v) = ',' :: v :=
    (Text.trimStart_blank_append hw _).trans (trimStart_comma v)
  have hcut : Commas.cut? (',' :: v) = some ([], v) := Commas.cut?_append (x := []) rfl v
  have hkeyword : ¬keyword <+: ',' :: v := not_keyword_comma (x := []) (by decide) v
  have hnext : next (',' :: v) = .ok ([], v) := by
    rw [next, if_neg (by simpa using hkeyword), hcut]
    rfl
  rw [collect, ht, if_neg (by simp), hnext, Outcome.ok_bind]
  simp only [collect_blank hv, Outcome.ok_bind, Outcome.pure_eq]

/-- What an array literal was written from is read back, whatever the blanks around each item, and
with one more comma behind the last item, if there is one. Without items a comma makes an empty one. -/
theorem ofLiteral_arrayOf (items : List Spaced) :
    ofLiteral (arrayOf items []) = .ok (items.map Spaced.item) ∧
    (items ≠ [] → ∀ w, Text.Blank w →
      ofLiteral (arrayOf items (',' :: w)) = .ok (items.map Spaced.item)) ∧
    ∀ w, Text.Blank w → ofLiteral (arrayOf [] w) = .ok [] ∧
      ∀ v, Text.Blank v → ofLiteral (arrayOf [] (w ++ ',' :: v)) = .ok [[]] := by
  refine ⟨?_, fun hne w hw => ?_, fun w hw => ⟨?_, fun v hv => ?_⟩⟩
  · cases items with
    | nil => rfl
    | cons s items => exact ofLiteral_intercalate (readsAs_items _) (List.cons_ne_nil _ _) (.inl rfl)
  · exact ofLiteral_intercalate (readsAs_items _) (mt List.map_eq_nil_iff.1 hne) (.inr ⟨w, hw, rfl⟩)
  · exact (ofLiteral_bracket w).trans (collect_blank hw _)
  · have hlen : (w ++ ',' :: v).length = w.length + v.length + 1 := List.length_append
    refine (ofLiteral_bracket (w ++ ',' :: v)).trans ?_
    rw [hlen, collect_comma hw hv]

def mixedItems : List Spaced :=
  [⟨" ".toList, "b['),'](\"]\")".toList, [], by decide, .other (by decide) (by decide) (by decide)
      (by decide), by decide⟩,
   ⟨[], functionWith " f(d,e[,".toList "\n".toList
      (Context.brace.enclose "return[d,\x7bk:e,s:\"]\x7d,\"\x7d]".toList), " ".toList, by decide,
      .function (by decide) (by decide) (Literal.Closed.items (by decide) (.inl rfl)), by decide⟩,
   ⟨"\t".toList, "-5".toList, " ".toList, by decide, .other (by decide) (by decide) (by decide)
      (by decide), by decide⟩]

theorem ofLiteral_mixedItems :
    arrayOf mixedItems ", ".toList =
      "[ b['),'](\"]\"),function f(d,e[,)\n\x7breturn[d,\x7bk:e,s:\"]\x7d,\"\x7d]\x7d ,\t-5 , ]".toList ∧
    ofLiteral (arrayOf mixedItems ", ".toList) = .ok ["b['),'](\"]\")".toList,
      "function f(d,e[,)\n\x7breturn[d,\x7bk:e,s:\"]\x7d,\"\x7d]\x7d".toList, "-5".toList] :=
  ⟨by decide, (ofLiteral_arrayOf mixedItems).2.1 (List.cons_ne_nil _ _) " ".toList (by decide)⟩

/-- Without items the comma in the end is not one too many. -/
theorem ofLiteral_comma_ne : ofLiteral (arrayOf [] [',']) ≠ .ok (([] : List Spaced).map Spaced.item) := by
  decide

end Unscramble.Elements
