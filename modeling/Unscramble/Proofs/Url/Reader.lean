import Unscramble.Proofs.Url.Authority
import Unscramble.Proofs.Url.Parts

/-! A URL that has been read is in canonical form. It has marks only where its parts end: the text is
cut at them first, and what is escaped afterwards does not bring them back. -/
namespace Unscramble.Url
open Outcome
variable {c : Char} {s t x y : Text} {k : Kind} {u : Url} {toAscii : Text → Option Text}

/-- A text that is not cut and from which nothing is dropped. -/
def Intact (t : Text) : Prop := ∀ c ∈ t, isMark c = false ∧ isBreak c = false

theorem intact_of_class {p : Char → Bool} (hp : "?#\t\n\r".toList.any p = false)
    (h : ∀ c ∈ t, p c = true) : Intact t := by
  intro c hc
  have hmem : c ∉ "?#\t\n\r".toList := fun hm => List.any_eq_false.1 hp c hm (h c hc)
  have hne : c ≠ '?' ∧ c ≠ '#' ∧ c ≠ '\t' ∧ c ≠ '\n' ∧ c ≠ '\r' := by simpa using hmem
  simp [isMark, isBreak, hne]

theorem intact_of_inside (h : ∀ c ∈ t, isOutside c = false) : Intact t :=
  intact_of_class (p := fun c => !isOutside c) (by decide) fun c hc => by simp [h c hc]

namespace Intact

theorem nil : Intact [] := nofun

theorem append (hx : Intact x) (hy : Intact y) : Intact (x ++ y) := List.forall_mem_append.2 ⟨hx, hy⟩

theorem cons (hc : isMark c = false ∧ isBreak c = false) (ht : Intact t) : Intact (c :: t) :=
  List.forall_mem_cons.2 ⟨hc, ht⟩

theorem unmarked (h : Intact t) : Unmarked t := fun c hc => (h c hc).1

theorem withoutBreaks (h : Intact t) : withoutBreaks t = t :=
  List.filter_eq_self.2 fun c hc => by simp [(h c hc).2]

end Intact

structure IsPath (t : Text) : Prop where
  intact : Intact t
  rooted : ∀ c ∈ t.head?, c = '/'

theorem spares_escapesInPath : Spares escapesInPath := by decide

theorem intact_segment (s : Text) : Intact (Percent.encode escapesInPath s) :=
  intact_of_class (p := fun c => !escapesInPath c) (by decide) fun _ hc => by
    simp [spares_escapesInPath.of_mem hc]

-- Drive letters are the only segments that are put into a path without being escaped.
theorem intact_drive (hc : c.isAlpha = true) : Intact [c, ':'] :=
  .append (x := [c]) (intact_of_class (by decide) (List.forall_mem_singleton.2 hc))
    (.cons (by decide) .nil)

theorem exists_of_isDriveLetter (h : isDriveLetter t) : ∃ c d, t = [c, d] ∧ c.isAlpha := by
  match t, h with
  | [c, d], h => exact ⟨c, d, rfl, (Bool.and_eq_true_iff.1 h).1⟩

theorem intact_brokenDrive {s drive rest : Text} (h : brokenDrive? s = some (drive, rest)) :
    Intact drive := by
  rw [brokenDrive?] at h
  split at h
  · cases h
  split at h
  · split at h
    next hguard =>
      obtain ⟨hstart, -⟩ := Bool.and_eq_true_iff.1 hguard
      obtain ⟨rfl, -⟩ := Prod.mk.inj (Option.some.inj h)
      exact intact_drive (Bool.and_eq_true_iff.1 hstart).1
    · cases h
  · cases h

theorem intact_firstOfFile (s : Text) : ∀ x ∈ (firstOfFile s).segments, Intact x := by
  rw [firstOfFile]
  split
  next drive rest hd => simpa using ⟨intact_segment rest, intact_brokenDrive hd⟩
  · dsimp only
    split
    next hletter =>
      obtain ⟨c, d, hs, hc⟩ := exists_of_isDriveLetter hletter
      simpa [hs] using intact_drive hc
    · simpa using intact_segment _

theorem parent_subset (ss : List Text) : parent ss ⊆ ss := by
  cases ss with
  | nil => exact List.Subset.refl _
  | cons s ss =>
    rw [parent]
    split
    · exact List.Subset.refl _
    · exact List.subset_cons_self s ss

theorem intact_resolve {r : Resolved} (h : ∀ x ∈ r.segments, Intact x) (isLast : Bool) (s : Text) :
    ∀ x ∈ (resolve k isLast r s).segments, Intact x := by
  have hended (ss : List Text) (hss : ∀ x ∈ ss, Intact x) :
      ∀ x ∈ if isLast then [] :: ss else ss, Intact x := by
    split
    · exact List.forall_mem_cons.2 ⟨.nil, hss⟩
    · exact hss
  simp only [resolve]
  split
  · exact hended _ fun x hx => h x (parent_subset _ hx)
  split
  · exact hended _ h
  split
  · exact intact_firstOfFile s
  · exact List.forall_mem_cons.2 ⟨intact_segment _, h⟩

theorem intact_resolveAll {r : Resolved} (h : ∀ x ∈ r.segments, Intact x) (ss : List Text) :
    ∀ x ∈ (resolveAll k r ss).segments, Intact x := by
  induction ss generalizing r with
  | nil => exact h
  | cons s ss ih =>
    cases ss with
    | nil => exact intact_resolve h true s
    | cons s' ss => exact ih (intact_resolve h false s)

theorem intact_ofText (k : Kind) (t : Text) : ∀ x ∈ (Resolved.ofText k t).segments, Intact x :=
  intact_resolveAll (List.forall_mem_nil _) _

theorem isPath_path {r : Resolved} (h : ∀ x ∈ r.segments, Intact x) (k : Kind) : IsPath (r.path k) := by
  have hreverse : ∀ x ∈ r.segments.reverse, Intact x := fun x hx => h x (List.mem_reverse.1 hx)
  have hjoined {ts : List Text} (hts : ∀ t ∈ ts, Intact t) : Intact (['/'].intercalate ts) :=
    Text.intercalate_induction .nil (fun _ _ => .append) (.cons (by decide) .nil) hts
  refine ⟨.cons (by decide) (hjoined ?_), by rintro c ⟨⟩; rfl⟩
  split
  · split
    · exact List.forall_mem_singleton.2 .nil
    · exact fun x hx => hreverse x ((List.dropWhile_sublist _).subset hx)
  · exact hreverse

theorem isPath_behindAuthority (k : Kind) (t : Text) : IsPath (pathBehindAuthority k t) := by
  rw [pathBehindAuthority.eq_def]
  split
  · split
    · exact ⟨.nil, fun _ h => by cases h⟩
    · exact ⟨.cons (by decide) .nil, fun _ h => by cases h; rfl⟩
  · exact isPath_path (intact_ofText k _) k

theorem intact_bare (ht : Unmarked t) : Intact (Percent.encode isControl t) := by
  intro c hc
  have hcontrol : isControl c = false := spares_isControl.of_mem hc
  have hbreak : isBreak c = false := by
    rw [Bool.eq_false_iff]
    intro hb
    obtain rfl | rfl | rfl := isBreak_cases hb <;> cases hcontrol
  obtain ⟨hmem, -⟩ | hplain | rfl := mem_percentEncode hc
  · exact ⟨ht c hmem, hbreak⟩
  · exact ⟨isMark_of_class (p := fun c => Form.isPlain c.toNat) rfl rfl hplain, hbreak⟩
  · exact ⟨rfl, hbreak⟩

structure IsScheme (s : Text) : Prop where
  starts : ∀ c ∈ s.head?, c.isAlpha = true
  chars : ∀ c ∈ s, isSchemeChar c = true
  lower : s.map Char.toLower = s
  ne_nil : s ≠ []

theorem IsScheme.intact (h : IsScheme s) : Intact s := intact_of_class (by decide) h.chars

theorem toNat_lt_of_isAlpha (h : c.isAlpha = true) : c.toNat < 128 := by
  obtain hupper | hlower := Bool.or_eq_true_iff.1 h
  · have hrange : 'A'.val ≤ c.val ∧ c.val ≤ 'Z'.val := of_decide_eq_true hupper
    exact Nat.lt_of_le_of_lt (UInt32.le_iff_toNat_le.1 hrange.2) (by decide)
  · have hlast : c.val ≤ 'z'.val := of_decide_eq_true (Bool.and_eq_true_iff.1 hlower).2
    exact Nat.lt_of_le_of_lt (UInt32.le_iff_toNat_le.1 hlast) (by decide)

theorem isAlpha_toLower (h : c.isAlpha = true) : c.toLower.isAlpha = true :=
  of_ascii (P := fun c => c.isAlpha = true → c.toLower.isAlpha = true) (by decide) (toNat_lt_of_isAlpha h) h

theorem isSchemeChar_toLower (h : isSchemeChar c = true) : isSchemeChar c.toLower = true := by
  have hlt : c.toNat < 128 := by
    simp only [isSchemeChar, Char.isAlphanum, Bool.or_eq_true, beq_iff_eq] at h
    obtain (((halpha | hdigit) | rfl) | rfl) | rfl := h
    · exact toNat_lt_of_isAlpha halpha
    · exact lt_of_isDigit hdigit
    all_goals decide
  exact of_ascii (P := fun c => isSchemeChar c = true → isSchemeChar c.toLower = true) (by decide) hlt h

theorem isScheme_of_scheme? {rest : Text} (h : scheme? t = some (s, rest)) : IsScheme s := by
  rw [scheme?.eq_def] at h
  split at h
  · cases h
  next c t =>
    split at h
    next halpha =>
      split at h
      · obtain ⟨rfl, -⟩ := Prod.mk.inj (Option.some.inj h)
        have hfirst : isSchemeChar c = true := by simp [isSchemeChar, Char.isAlphanum, halpha]
        rw [List.takeWhile_cons_of_pos hfirst]
        refine ⟨?_, ?_, ?_, List.cons_ne_nil _ _⟩
        · rintro d ⟨⟩
          exact isAlpha_toLower halpha
        · rw [List.forall_mem_map]
          refine List.forall_mem_cons.2 ⟨isSchemeChar_toLower hfirst, fun d hd => ?_⟩
          exact isSchemeChar_toLower (List.mem_takeWhile_imp hd)
        · rw [List.map_map]
          exact List.map_congr_left fun d _ => toLower_toLower d
      · cases h
    · cases h

inductive IsFileHost (toAscii : Text → Option Text) : Text → Prop
  | none : IsFileHost toAscii []
  | some {h : Host} (hh : h.IsCanonical (Host.parse toAscii)) : IsFileHost toAscii h.render

inductive IsPlace (toAscii : Text → Option Text) (k : Kind) : Option Text → Text → Prop
  | hierarchical {a path : Text} (hk : k ≠ .file) (ha : IsAuthority toAscii k a) (hpath : IsPath path) :
      IsPlace toAscii k (some a) path
  | file {host path : Text} (hk : k = .file) (hhost : IsFileHost toAscii host) (hpath : IsPath path) :
      IsPlace toAscii k (some host) path
  | bare {path : Text} (hk : k = .other) (hpath : Intact path) : IsPlace toAscii k none path

def IsFragment (fragment : Option Text) : Prop := ∀ f ∈ fragment, ∀ c ∈ f, escapesInFragment c = false

structure IsCanonical (toAscii : Text → Option Text) (u : Url) : Prop where
  scheme : IsScheme u.scheme
  place : IsPlace toAscii (Kind.ofScheme u.scheme) u.authority u.path
  query : ∀ q ∈ u.query, '#' ∉ q
  fragment : IsFragment u.fragment

theorem IsFileHost.inside (h : IsFileHost toAscii t) : ∀ c ∈ t, isOutside c = false := by
  cases h with
  | none => nofun
  | some hh => exact hh.shown.inside

theorem IsCanonical.isSeparable (h : u.IsCanonical toAscii) : u.IsSeparable := by
  obtain ⟨scheme, authority, path, query, fragment⟩ := u
  obtain ⟨hscheme, hplace, hquery, -⟩ := h
  have hscheme := hscheme.intact.unmarked
  cases hplace with
  | hierarchical _ ha hpath =>
    exact ⟨hscheme, by rintro _ ⟨⟩; exact (intact_of_inside ha.inside).unmarked, hpath.intact.unmarked, hquery⟩
  | file _ hhost hpath =>
    exact ⟨hscheme, by rintro _ ⟨⟩; exact (intact_of_inside hhost.inside).unmarked, hpath.intact.unmarked, hquery⟩
  | bare _ hpath => exact ⟨hscheme, nofun, hpath.unmarked, hquery⟩

theorem splitTail_eq (k : Kind) (t : Text) : splitTail k t =
    ((cut t).1, (cut t).2.1.map (Percent.encode (escapesInQuery k)),
      (cut t).2.2.map (Percent.encode escapesInFragment)) := by
  rw [splitTail, cut, cutAt]
  cases Text.splitOnce? '#' t with
  | none =>
    dsimp only
    rw [cutAt]
    cases Text.splitOnce? '?' t <;> rfl
  | some p =>
    dsimp only
    rw [cutAt]
    cases Text.splitOnce? '?' p.1 <;> rfl

theorem escapesInQuery_file (h : escapesInQuery .file c = false) (k : Kind) : escapesInQuery k c = false := by
  simp only [escapesInQuery, Bool.or_eq_false_iff, Bool.and_eq_false_iff] at h ⊢
  exact ⟨h.1, .inl (h.2.resolve_right (by decide))⟩

theorem spares_escapesInQuery (k : Kind) : Spares (escapesInQuery k) := by
  have hfile : Spares (escapesInQuery .file) := by decide
  exact ⟨escapesInQuery_file hfile.1 k, fun n hn hplain => escapesInQuery_file (hfile.2 n hn hplain) k⟩

theorem spares_escapesInFragment : Spares escapesInFragment := by decide

theorem not_mem_query (k : Kind) (o : Option Text) :
    ∀ q ∈ o.map (Percent.encode (escapesInQuery k)), '#' ∉ q := by
  intro q hq hm
  obtain ⟨t, -, rfl⟩ := Option.map_eq_some_iff.1 hq
  have hspared := (spares_escapesInQuery k).of_mem hm
  cases k <;> cases hspared

theorem isFragment_map (o : Option Text) : IsFragment (o.map (Percent.encode escapesInFragment)) := by
  intro f hf c hc
  obtain ⟨t, -, rfl⟩ := Option.map_eq_some_iff.1 hf
  exact spares_escapesInFragment.of_mem hc

theorem yields_readHierarchical (hs : IsScheme s) (hk : Kind.ofScheme s ≠ .file) (t : Text) :
    Yields (IsCanonical toAscii) (readHierarchical toAscii s (Kind.ofScheme s) t) := by
  rw [readHierarchical, splitTail_eq]
  refine .bind (yields_authorityOf _ _ _) fun a ha => .ok ⟨hs, ?_, ?_, ?_⟩
  · exact .hierarchical hk ha (isPath_behindAuthority _ _)
  · exact not_mem_query _ _
  · exact isFragment_map _

theorem yields_fileHostAndPath (t : Text) :
    Yields (fun a => IsFileHost toAscii a.1 ∧ ∀ x ∈ a.2.segments, Intact x) (fileHostAndPath toAscii t) := by
  rw [fileHostAndPath]
  dsimp only
  split
  · exact .ok ⟨.none, intact_ofText .file _⟩
  have hafter (shown : Text) (hshown : IsFileHost toAscii shown) (rest : Text) : Yields
      (fun a => IsFileHost toAscii a.1 ∧ ∀ x ∈ a.2.segments, Intact x)
      (if shown.isEmpty || shown = "localhost".toList then .ok ([], Resolved.ofText .file rest)
        else .ok (if (Resolved.ofText .file (rest.drop 1)).onDrive then [] else shown,
          Resolved.ofText .file (rest.drop 1)) : Except Fault _) := by
    split
    · exact .ok ⟨.none, intact_ofText .file _⟩
    · refine .ok ⟨?_, intact_ofText .file _⟩
      split
      · exact .none
      · exact hshown
  split
  · exact hafter [] .none _
  · exact .bind (.map (yields_parse _) fun _ => .some) fun shown hshown => hafter shown hshown _

theorem yields_readFile (hs : IsScheme s) (hk : Kind.ofScheme s = .file) (t : Text) :
    Yields (IsCanonical toAscii) (readFile toAscii s t) := by
  have hafter (a : Text × Resolved) (ha : IsFileHost toAscii a.1 ∧ ∀ x ∈ a.2.segments, Intact x) :
      IsCanonical toAscii ⟨s, some a.1, a.2.path .file, (splitTail .file (withoutBreaks t)).2.1,
        (splitTail .file (withoutBreaks t)).2.2⟩ := by
    rw [splitTail_eq]
    exact ⟨hs, .file hk ha.1 (isPath_path ha.2 .file), not_mem_query .file _, isFragment_map _⟩
  rw [readFile]
  dsimp only
  split
  · exact .ok (hafter _ ⟨.none, intact_ofText .file _⟩)
  split
  · exact .ok (hafter _ ⟨.none, intact_ofText .file _⟩)
  · exact .bind (yields_fileHostAndPath _) fun a ha => .ok (hafter a ha)

theorem yields_readOther (hs : IsScheme s) (hk : Kind.ofScheme s = .other) (t : Text) :
    Yields (IsCanonical toAscii) (readOther toAscii s t) := by
  rw [readOther.eq_def]
  split
  · rw [← hk]
    exact yields_readHierarchical hs (by simp [hk]) _
  rw [splitTail_eq]
  refine .ok ⟨hs, .bare hk ?_, not_mem_query .other _, isFragment_map _⟩
  dsimp only
  split
  · exact (isPath_path (intact_ofText .other _) .other).intact
  · exact intact_bare (unmarked_cut _)

/-- What is read is in canonical form. -/
theorem canonical_of_read (h : read toAscii t = .ok u) : u.IsCanonical toAscii := by
  rw [read] at h
  split at h
  · cases h
  next hs =>
    have hs := isScheme_of_scheme? hs
    split at h
    next hk => exact yields_readOther hs hk _ u h
    next hk => exact yields_readFile hs hk _ u h
    next hk =>
      rw [← hk] at h
      exact yields_readHierarchical hs (by simp [hk]) _ u h

theorem yields_read (t : Text) : Yields IsSeparable (read toAscii t) := fun _ h =>
  (canonical_of_read h).isSeparable

end Unscramble.Url
