import Unscramble.Proofs.Url.Reader

/-! A URL that has been read is read again after it has been written with other pairs. What comes out then
has the same pairs, and nothing else in it depends on them. -/
namespace Unscramble.Url
open Outcome
variable {c : Char} {s t rest g a path : Text} {fragment : Option Text} {ps : Form.Pairs} {k : Kind} {u : Url}
  {toAscii : Text → Option Text}

def tail (ps : Form.Pairs) (fragment : Option Text) : Text :=
  behind '?' (some (Form.render ps)) ++ behind '#' fragment

theorem render_withPairs (u : Url) (ps : Form.Pairs) :
    (u.withPairs ps).render = u.front ++ tail ps u.fragment := by
  rw [render_eq, List.append_assoc]
  rfl

theorem plain_of_mem_render (h : c ∈ Form.render ps) :
    c.toNat < 128 ∧ ' ' < c ∧ escapesInQuery .file c = false := by
  have hclass : Form.isPlain c.toNat ∨ c ∈ "+%=&".toList := by
    by_contra hc
    obtain ⟨hplain, hmarks⟩ := not_or.1 hc
    have hne : c ≠ '+' ∧ c ≠ '%' ∧ c ≠ '=' ∧ c ≠ '&' := by simpa using hmarks
    exact absurd h (Form.not_mem_render (by simp [hplain, hne]) hne.2.2.1 hne.2.2.2 ps)
  obtain hplain | hmark := hclass
  · have hlt := lt_of_isPlain hplain
    exact ⟨hlt, of_ascii (P := fun c => Form.isPlain c.toNat = true → ' ' < c ∧ escapesInQuery .file c = false)
      (by decide) hlt hplain⟩
  · have hcases : c = '+' ∨ c = '%' ∨ c = '=' ∨ c = '&' := by simpa using hmark
    obtain rfl | rfl | rfl | rfl := hcases <;> decide

theorem encode_render (k : Kind) (ps : Form.Pairs) :
    Percent.encode (escapesInQuery k) (Form.render ps) = Form.render ps :=
  percentEncode_eq_self fun _ hc =>
    ⟨(plain_of_mem_render hc).1, escapesInQuery_file (plain_of_mem_render hc).2.2 k⟩

theorem lt_of_escapesInFragment (h : escapesInFragment c = false) : ' ' < c := by
  by_cases hc : c.toNat < 128
  · exact of_ascii (P := fun c => escapesInFragment c = false → ' ' < c) (by decide) hc h
  · exact UInt32.lt_iff_toNat_lt.2 (Nat.lt_of_lt_of_le (by decide) (Nat.le_of_not_lt hc))

theorem lt_of_mem_tail (hf : IsFragment fragment) (h : c ∈ tail ps fragment) : ' ' < c := by
  obtain h | h := List.mem_append.1 h
  · obtain rfl | h := List.mem_cons.1 h
    · decide
    · exact (plain_of_mem_render h).2.1
  · cases fragment with
    | none => cases h
    | some f =>
      obtain rfl | h := List.mem_cons.1 h
      · decide
      · exact lt_of_escapesInFragment (hf f rfl c h)

theorem splitTail_append (hg : Unmarked g) (k : Kind) (ps : Form.Pairs) (fragment : Option Text) :
    splitTail k (g ++ tail ps fragment) =
      (g, some (Form.render ps), fragment.map (Percent.encode escapesInFragment)) := by
  have hcut : cut (g ++ behind '?' (some (Form.render ps)) ++ behind '#' fragment) =
      (g, some (Form.render ps), fragment) := by
    refine cut_append hg ?_
    rintro q ⟨⟩
    exact Form.not_mem_render (by decide) (by decide) (by decide) ps
  rw [splitTail_eq, tail, ← List.append_assoc, hcut]
  simp only [Option.map_some, encode_render]

theorem isBreak_of_lt (h : ' ' < c) : isBreak c = false := by
  rw [Bool.eq_false_iff]
  intro hb
  obtain rfl | rfl | rfl := isBreak_cases hb <;> exact absurd h (by decide)

theorem withoutBreaks_append (hg : Intact g) (hf : IsFragment fragment) (ps : Form.Pairs) :
    withoutBreaks (g ++ tail ps fragment) = g ++ tail ps fragment := by
  have htail : withoutBreaks (tail ps fragment) = tail ps fragment :=
    List.filter_eq_self.2 fun c hc => by simp [isBreak_of_lt (lt_of_mem_tail hf hc)]
  rw [withoutBreaks, List.filter_append]
  exact congrArg₂ _ hg.withoutBreaks htail

theorem scheme?_append (hs : IsScheme s) (rest : Text) : scheme? (s ++ ':' :: rest) = some (s, rest) := by
  have hspan := Text.span_append (t := ':' :: rest) hs.chars rfl
  obtain ⟨c, t, rfl⟩ := List.exists_cons_of_ne_nil hs.ne_nil
  rw [List.cons_append] at hspan ⊢
  rw [scheme?, if_pos (hs.starts c rfl), hspan.1, hspan.2, hs.lower]
  rfl

/-- A text starts with a scheme, whether breaks are dropped from it or not. -/
structure Starts (s rest t : Text) : Prop where
  scheme : scheme? (withoutBreaks (trimmed t)) = some (s, rest)
  behind : ((trimmed t).dropWhile (· != ':')).drop 1 = rest

namespace Starts

theorem read_other (h : Starts s rest t) (hk : Kind.ofScheme s = .other) : read toAscii t = readOther toAscii s rest := by
  rw [read, h.scheme]
  dsimp only
  rw [hk]

theorem read_file (h : Starts s rest t) (hk : Kind.ofScheme s = .file) : read toAscii t = readFile toAscii s rest := by
  rw [read, h.scheme, h.behind]
  dsimp only
  rw [hk]

theorem read_special {n : Nat} (h : Starts s rest t) (hk : Kind.ofScheme s = .special n) :
    read toAscii t = readHierarchical toAscii s (.special n) (rest.dropWhile (Kind.special n).isSlash) := by
  rw [read, h.scheme]
  dsimp only
  rw [hk]

end Starts

/-- No character is trimmed or dropped from a URL whose front is intact. -/
theorem starts_append (hs : IsScheme s) (hg : Intact g) (hf : IsFragment fragment) (ps : Form.Pairs) :
    Starts s (g ++ tail ps fragment) (s ++ ':' :: g ++ tail ps fragment) := by
  have htrim : trimmed (s ++ ':' :: g ++ tail ps fragment) = s ++ ':' :: g ++ tail ps fragment := by
    refine Text.trimBy_eq_self ?_ ?_
    · obtain ⟨c, t, rfl⟩ := List.exists_cons_of_ne_nil hs.ne_nil
      have hc := hs.starts c rfl
      exact of_ascii (P := fun c => c.isAlpha = true → decide (c ≤ ' ') = false) (by decide)
        (toNat_lt_of_isAlpha hc) hc
    · have hne : tail ps fragment ≠ [] := List.cons_ne_nil _ _
      rw [List.getLast?_append_of_ne_nil _ hne]
      exact Text.any_getLast? fun c hc => decide_eq_false (Char.not_le.2 (lt_of_mem_tail hf hc))
  have hbreaks := withoutBreaks_append (hs.intact.append (.cons (c := ':') (by decide) hg)) hf ps
  have hcolon : ∀ c ∈ s, (c != ':') = true := by
    intro c hc
    refine bne_iff_ne.2 ?_
    rintro rfl
    exact absurd (hs.chars ':' hc) (by decide)
  have hsplit : s ++ ':' :: g ++ tail ps fragment = s ++ ':' :: (g ++ tail ps fragment) := by
    rw [List.append_assoc, List.cons_append]
  constructor
  · rw [htrim, hbreaks, hsplit, scheme?_append hs]
  · rw [htrim, hsplit, (Text.span_append hcolon rfl).2]
    rfl

theorem isSlash_of_inside (h : isOutside c = false) (k : Kind) : k.isSlash c = false := by
  simp only [isOutside, Bool.or_eq_false_iff] at h
  simp [Kind.isSlash, h.1.1.1.1, h.1.1.1.2]

theorem intact_authority (ha : ∀ c ∈ a, isOutside c = false) (hpath : IsPath path) :
    Intact ('/' :: '/' :: (a ++ path)) :=
  .cons (by decide) (.cons (by decide) ((intact_of_inside ha).append hpath.intact))

theorem span_authority (ha : ∀ c ∈ a, isOutside c = false) (hpath : IsPath path) (k : Kind) :
    (a ++ path).takeWhile (fun c => !k.isSlash c) = a ∧ (a ++ path).dropWhile (fun c => !k.isSlash c) = path := by
  refine Text.span_append (fun c hc => by simp [isSlash_of_inside (ha c hc) k]) ?_
  cases path with
  | nil => rfl
  | cons c path =>
    obtain rfl := hpath.rooted c rfl
    simp [Kind.isSlash]

theorem readHierarchical_append (ha : IsAuthority toAscii k a) (hpath : IsPath path) (s : Text) (fragment : Option Text) :
    ∃ v : Url, ∀ ps, readHierarchical toAscii s k (a ++ path ++ tail ps fragment) = .ok (v.withPairs ps) := by
  obtain ⟨r, hr⟩ := ha.read true
  obtain ⟨hauthority, hrest⟩ := span_authority ha.inside hpath k
  have hunmarked : Unmarked (a ++ path) := ((intact_of_inside ha.inside).append hpath.intact).unmarked
  refine ⟨⟨s, some r.1, pathBehindAuthority k (r.2 ++ path), none,
    fragment.map (Percent.encode escapesInFragment)⟩, fun ps => ?_⟩
  rw [readHierarchical, splitTail_append hunmarked]
  dsimp only
  rw [hauthority, hrest, Option.isSome_some, Bool.or_true, Bool.true_or, hr]
  rfl

theorem fileHostAndPath_append {host : Text} (hhost : IsFileHost toAscii host) (hpath : IsPath path) :
    ∃ r, fileHostAndPath toAscii (host ++ path) = .ok r := by
  obtain ⟨hsplit, hrest⟩ := span_authority hhost.inside hpath .file
  rw [fileHostAndPath, hsplit, (intact_of_inside hhost.inside).withoutBreaks, hrest]
  dsimp only
  split
  · exact ⟨_, rfl⟩
  cases hhost with
  | none => exact ⟨_, rfl⟩
  | @some h hh =>
    rw [if_neg (by simpa using hh.shown.ne_nil), hh.again, map_ok, ok_bind]
    split <;> exact ⟨_, rfl⟩

theorem readFile_append {host : Text} (hhost : IsFileHost toAscii host) (hpath : IsPath path)
    (hf : IsFragment fragment) (s : Text) : ∃ v : Url, ∀ ps,
      readFile toAscii s ('/' :: '/' :: (host ++ path) ++ tail ps fragment) = .ok (v.withPairs ps) := by
  obtain ⟨r, hr⟩ := fileHostAndPath_append hhost hpath
  have hintact := intact_authority hhost.inside hpath
  refine ⟨⟨s, some r.1, r.2.path .file, none, fragment.map (Percent.encode escapesInFragment)⟩, fun ps => ?_⟩
  have hbody : ('/' :: '/' :: (host ++ path) ++ tail ps fragment).takeWhile (fun c => c != '?' && c != '#') =
      '/' :: '/' :: (host ++ path) := by
    refine (Text.span_append (fun c hc => ?_) rfl).1
    have hmark := (hintact c hc).1
    simp only [isMark, Bool.or_eq_false_iff, beq_eq_false_iff_ne] at hmark
    simp [hmark]
  have hslash (t : Text) : behindSlash? ('/' :: t) = some t := rfl
  rw [readFile, withoutBreaks_append hintact hf, splitTail_append hintact.unmarked, hbody]
  dsimp only
  rw [hslash]
  dsimp only
  rw [hslash]
  dsimp only
  rw [hr]
  rfl

theorem isPrefixOf_append_tail (g : Text) (ps : Form.Pairs) (fragment : Option Text) :
    ['/', '/'].isPrefixOf (g ++ tail ps fragment) = ['/', '/'].isPrefixOf g := by
  cases g with
  | nil => rfl
  | cons c g =>
    cases g with
    | nil => simp [tail, behind, List.isPrefixOf]
    | cons d g => simp [List.isPrefixOf]

theorem readOther_append (hg : Unmarked g) (hslashes : ['/', '/'].isPrefixOf g = false) (s : Text)
    (fragment : Option Text) :
    ∃ v : Url, ∀ ps, readOther toAscii s (g ++ tail ps fragment) = .ok (v.withPairs ps) := by
  have hno (ps : Form.Pairs) (r : Text) : g ++ tail ps fragment ≠ '/' :: '/' :: r := fun hr => by
    have hstart := isPrefixOf_append_tail g ps fragment
    rw [hr, hslashes] at hstart
    cases hstart
  -- Only behind a slash does the path have segments.
  by_cases hrooted : ∃ r, g = '/' :: r
  · obtain ⟨r, rfl⟩ := hrooted
    refine ⟨⟨s, none, pathOf .other r, none, fragment.map (Percent.encode escapesInFragment)⟩, fun ps => ?_⟩
    rw [readOther.eq_def]
    split
    next r' hr => exact absurd hr (hno ps r')
    · rw [splitTail_append hg]
      rfl
  · refine ⟨⟨s, none, Percent.encode isControl g, none,
      fragment.map (Percent.encode escapesInFragment)⟩, fun ps => ?_⟩
    rw [readOther.eq_def]
    split
    next r' hr => exact absurd hr (hno ps r')
    · rw [splitTail_append hg]
      dsimp only
      split
      next r _ => exact absurd ⟨r, rfl⟩ hrooted
      · rfl

theorem front_some (s a path : Text) (query fragment : Option Text) :
    front ⟨s, some a, path, query, fragment⟩ = s ++ ':' :: ('/' :: '/' :: (a ++ path)) :=
  List.append_assoc s _ path

/-- A path that would be taken for an authority is kept apart from one. -/
theorem front_none (s path : Text) (query fragment : Option Text) :
    ∃ g, front ⟨s, none, path, query, fragment⟩ = s ++ ':' :: (g ++ path) ∧
      (g = [] ∨ g = ['/', '.']) ∧ ['/', '/'].isPrefixOf (g ++ path) = false := by
  refine ⟨if ['/', '/'].isPrefixOf path then ['/', '.'] else [], List.append_assoc s _ path, ?_⟩
  split
  · exact ⟨.inr rfl, rfl⟩
  next hpath => exact ⟨.inl rfl, Bool.eq_false_iff.2 hpath⟩

theorem dropWhile_slashes (hk : k ≠ .other) (ha : IsAuthority toAscii k a) (rest : Text) :
    ('/' :: '/' :: (a ++ rest)).dropWhile k.isSlash = a ++ rest := by
  have hslashes : ∀ c ∈ ['/', '/'], k.isSlash c = true := by simp [Kind.isSlash]
  refine (Text.span_append (x := ['/', '/']) hslashes ?_).2
  have hinside := ha.inside
  obtain ⟨c, a, rfl⟩ := List.exists_cons_of_ne_nil (ha.ne_nil hk)
  exact isSlash_of_inside (hinside c List.mem_cons_self) k

/-- What has been read is read again with other pairs. -/
theorem read_withPairs (h : read toAscii t = .ok u) :
    ∃ v : Url, ∀ ps, read toAscii (u.withPairs ps).render = .ok (v.withPairs ps) := by
  obtain ⟨s, authority, path, query, fragment⟩ := u
  obtain ⟨hs, hplace, -, hf⟩ := canonical_of_read h
  dsimp only at hs hplace hf
  -- In each case `v` comes from what stands behind the scheme and is named before the pairs are.
  cases hplace with
  | @hierarchical a _ hk ha hpath =>
    obtain ⟨v, hv⟩ := readHierarchical_append ha hpath s fragment
    refine ⟨v, fun ps => ?_⟩
    have hstarts := starts_append hs (intact_authority ha.inside hpath) hf ps
    rw [render_withPairs, front_some, ← hv]
    cases hkind : Kind.ofScheme s with
    | file => exact absurd hkind hk
    | other => exact hstarts.read_other hkind
    | special n =>
      rw [hkind] at ha
      rw [hstarts.read_special hkind, List.cons_append, List.cons_append, List.append_assoc,
        dropWhile_slashes (by simp) ha, ← List.append_assoc]
  | @file host _ hk hhost hpath =>
    obtain ⟨v, hv⟩ := readFile_append hhost hpath hf s
    refine ⟨v, fun ps => ?_⟩
    have hstarts := starts_append hs (intact_authority hhost.inside hpath) hf ps
    rw [render_withPairs, front_some, ← hv]
    exact hstarts.read_file hk
  | bare hk hpath =>
    obtain ⟨g, hfront, hg, hslashes⟩ := front_none s path query fragment
    have hintact : Intact (g ++ path) := by
      obtain rfl | rfl := hg
      · exact hpath
      · exact .append (.cons (by decide) (.cons (by decide) .nil)) hpath
    obtain ⟨v, hv⟩ := readOther_append hintact.unmarked hslashes s fragment
    refine ⟨v, fun ps => ?_⟩
    rw [render_withPairs, hfront, ← hv]
    exact (starts_append hs hintact hf ps).read_other hk

end Unscramble.Url
