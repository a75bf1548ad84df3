import Unscramble.Cipher
import Unscramble.Proofs.Url.Library
import Unscramble.Proofs.Url.Pairs

/-! URLs with a parameter deciphered: the query is taken apart into its pairs and put together again,
and only the one pair that is meant has another value in it. -/
namespace Unscramble
open Outcome

namespace Cipher
open Form Url
variable {U : Type} {lib : Library U} {c : Cipher} {text : Text} {url : U} {fields : Pairs}

theorem readUrl_ok (h : lib.parse text = .ok url) : readUrl lib text = .ok url := by rw [readUrl, h]; rfl

theorem decipherInUrl_of_lacks (h : lib.parse text = .ok url) (hn : Lacks throttlingName (lib.pairs url)) :
    c.decipherInUrl lib text = .ok text := by
  rw [decipherInUrl, readUrl_ok h, ok_bind, first?_eq_none_iff.2 hn]
  rfl

theorem decipherInUrl_of_first (h : lib.parse text = .ok url) {n : Text}
    (hn : first? (lib.pairs url) throttlingName = some n) : c.decipherInUrl lib text =
      (c.decipherThrottling n).map fun x => lib.render (lib.setPair url throttlingName x) := by
  rw [decipherInUrl, readUrl_ok h, ok_bind, hn]
  dsimp only
  cases c.decipherThrottling n <;> rfl

/-- A URL without `n` stays as it is written. Otherwise the first `n` is deciphered, and if that
succeeds, only its value changes: nothing outside the query, no other pair and not the order. -/
theorem decipherInUrl_replaces_first (hlib : lib.IsLawful) (c : Cipher) (h : lib.parse text = .ok url) :
    (Lacks throttlingName (lib.pairs url) → c.decipherInUrl lib text = .ok text) ∧
    ∀ before n after, lib.pairs url = before ++ (throttlingName, n) :: after →
      Lacks throttlingName before →
      (∀ f, c.decipherInUrl lib text = .error f ↔ c.decipherThrottling n = .error f) ∧
      ∀ x, c.decipherThrottling n = .ok x → ∃ r, c.decipherInUrl lib text = .ok (lib.render r) ∧
        lib.HasPairs url (before ++ (throttlingName, x) :: after) r := by
  refine ⟨decipherInUrl_of_lacks h, fun before n after hpairs hbefore => ?_⟩
  have hrun := decipherInUrl_of_first (c := c) h (first?_eq_some_iff.2 ⟨before, after, hpairs, hbefore⟩)
  rw [hrun]
  constructor
  · intro f
    cases c.decipherThrottling n <;> simp
  · intro x hx
    refine ⟨lib.setPair url throttlingName x, by rw [hx, map_ok], ?_⟩
    rw [← set_append hbefore, ← hpairs]
    exact hlib.hasPairs_withPairs h _

def mirror : Cipher where
  signature := ⟨["o.r(a)".toList], .ofList [(['r'], .reverse)]⟩
  throttling := ⟨[⟨0, 1, none⟩], [.operation .reverse, .text inputName]⟩

def sampleLibrary : Library Url :=
  standard fun t => if t = "münchen.de".toList then some "xn--mnchen-3ya.de".toList else none

def repeated : Url where
  scheme := "https".toList
  authority := some "xn--mnchen-3ya.de".toList
  path := "/p".toList
  query := some "%C3%A9=+&n=ab&=&n=c%26".toList
  fragment := some ['f']

def repeatedText : Text := "https://münchen.de/p?é=+&n=ab&=&n=c%26#f".toList

theorem isLawful_sampleLibrary : sampleLibrary.IsLawful := isLawful_standard _

theorem read_repeated : sampleLibrary.parse repeatedText = .ok repeated := by decide +kernel

theorem pairs_repeated : sampleLibrary.pairs repeated =
    [(['é'], [' ']), (['n'], "ab".toList), ([], []), (['n'], "c&".toList)] := by decide +kernel

theorem decipherInUrl_repeated :
    sampleLibrary.IsLawful ∧ sampleLibrary.parse repeatedText = .ok repeated ∧
    (∃ r, mirror.decipherInUrl sampleLibrary repeatedText = .ok (sampleLibrary.render r) ∧
      sampleLibrary.HasPairs repeated
        ([(['é'], [' '])] ++ (['n'], "ba".toList) :: [([], []), (['n'], "c&".toList)]) r) ∧
    mirror.decipherInUrl sampleLibrary "HTTPS://h?x".toList = .ok "HTTPS://h?x".toList := by
  have hn : mirror.decipherThrottling "ab".toList = .ok "ba".toList := by decide +kernel
  have hplain : sampleLibrary.parse "HTTPS://h?x".toList =
      .ok ⟨"https".toList, some ['h'], ['/'], some ['x'], none⟩ := by decide +kernel
  refine ⟨isLawful_sampleLibrary, read_repeated, ?_,
    (decipherInUrl_replaces_first isLawful_sampleLibrary mirror hplain).1 (by decide +kernel)⟩
  obtain ⟨-, hchanged⟩ := decipherInUrl_replaces_first isLawful_sampleLibrary mirror read_repeated
  exact (hchanged [(['é'], [' '])] "ab".toList _ pairs_repeated (by decide)).2 _ hn

/-- The query parameter that the fields of a signature cipher ask for. -/
def IsParameter (name : Text) (fields : Pairs) : Prop :=
  IsLast parameterName name fields ∨ Lacks parameterName fields ∧ name = defaultParameter

/-- What comes out of the fields of a signature cipher. Of several faults the first in this order is
reported. -/
structure Resolution (lib : Library U) (c : Cipher) (fields : Pairs) (out : Except Failure Text) :
    Prop where
  noUrl : Lacks urlName fields → out = .error (.malformed .noUrl)
  noSignature : ∀ base, IsLast urlName base fields → Lacks signatureName fields →
    out = .error (.malformed .noSignature)
  refused : ∀ base s f, IsLast urlName base fields → IsLast signatureName s fields →
    c.decipherSignature s = .error f → out = .error f
  unreadable : ∀ base s x fault, IsLast urlName base fields → IsLast signatureName s fields →
    c.decipherSignature s = .ok x → lib.parse base = .error fault → out = .error (.url fault)
  resolved : ∀ base s x url name, IsLast urlName base fields → IsLast signatureName s fields →
    c.decipherSignature s = .ok x → lib.parse base = .ok url → IsParameter name fields →
    ∃ ps r, out = .ok (lib.render r) ∧ Sets name x (lib.pairs url) ps ∧ lib.HasPairs url ps r

theorem getD_of_isParameter {name : Text} (h : IsParameter name fields) :
    (last? fields parameterName).getD defaultParameter = name := by
  obtain h | ⟨h, rfl⟩ := h
  · rw [last?_eq_some_iff.2 h, Option.getD_some]
  · rw [last?_eq_none_iff.2 h, Option.getD_none]

theorem resolve_of_isLast {base s : Text} (hbase : IsLast urlName base fields)
    (hs : IsLast signatureName s fields) : c.resolve lib (render fields) = (do
      let x ← c.decipherSignature s
      let url ← readUrl lib base
      .ok (lib.render (lib.setPair url ((last? fields parameterName).getD defaultParameter) x))) := by
  rw [resolve, parse_render, last?_eq_some_iff.2 hbase, last?_eq_some_iff.2 hs]
  rfl

/-- The last of the fields `url`, `s` and `sp` decide on everything, whatever else is among them. -/
theorem resolve_by_last_fields (hlib : lib.IsLawful) (c : Cipher) (fields : Pairs) :
    Resolution lib c fields (c.resolve lib (render fields)) ∧
    ∀ others, (∀ name ∈ [urlName, signatureName, parameterName], last? others name = last? fields name) →
      c.resolve lib (render others) = c.resolve lib (render fields) := by
  refine ⟨⟨?_, ?_, ?_, ?_, ?_⟩, ?_⟩
  · intro hbase
    rw [resolve, parse_render, last?_eq_none_iff.2 hbase]
    rfl
  · intro base hbase hs
    rw [resolve, parse_render, last?_eq_some_iff.2 hbase, last?_eq_none_iff.2 hs]
    rfl
  · intro base s f hbase hs hf
    rw [resolve_of_isLast hbase hs, hf, error_bind]
  · intro base s x fault hbase hs hx hfault
    rw [resolve_of_isLast hbase hs, hx, ok_bind, readUrl, hfault]
    rfl
  · intro base s x url name hbase hs hx hurl hname
    refine ⟨_, lib.setPair url name x, ?_, sets_iff.2 rfl, hlib.hasPairs_withPairs hurl _⟩
    rw [resolve_of_isLast hbase hs, hx, ok_bind, readUrl_ok hurl, ok_bind, getD_of_isParameter hname]
  · intro others h
    simp only [List.forall_mem_cons] at h
    obtain ⟨hbase, hs, hname, -⟩ := h
    rw [resolve, resolve, parse_render, parse_render, hbase, hs, hname]

def sampleFields : Pairs :=
  [(['s'], "ab".toList), ("sp".toList, ['n']), (['s'], "cd".toList), (['x'], []),
    ("url".toList, repeatedText)]

theorem resolve_sampleFields : sampleLibrary.IsLawful ∧
    ∃ ps r, mirror.resolve sampleLibrary (render sampleFields) = .ok (sampleLibrary.render r) ∧
      Sets ['n'] "dc".toList
        [(['é'], [' ']), (['n'], "ab".toList), ([], []), (['n'], "c&".toList)] ps ∧
      sampleLibrary.HasPairs repeated ps r := by
  have hs : mirror.decipherSignature "cd".toList = .ok "dc".toList := by decide +kernel
  have hname : IsParameter ['n'] sampleFields :=
    .inl ⟨sampleFields.take 1, sampleFields.drop 2, rfl, by decide⟩
  have hresolution := (resolve_by_last_fields isLawful_sampleLibrary mirror sampleFields).1
  rw [← pairs_repeated]
  refine ⟨isLawful_sampleLibrary, ?_⟩
  exact hresolution.resolved _ _ _ _ _ ⟨sampleFields.take 4, [], rfl, by decide⟩
    ⟨sampleFields.take 2, sampleFields.drop 3, rfl, by decide⟩ hs read_repeated hname

example : mirror.resolve sampleLibrary "s=ab&sp=n&s=cd&x&url=https%3A%2F%2Fh%2Fp%3Fn%3D1%26n%3D2".toList =
    .ok "https://h/p?n=dc&n=2".toList := by decide +kernel

end Cipher
end Unscramble
