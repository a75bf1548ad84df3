import Unscramble.Proofs.Url.Rewriting

/-! The signature and `n` may be deciphered in either order: each is put into the query in its own place,
and a URL that has been written once is read again with every other pair as it was. -/
namespace Unscramble.Cipher
open Outcome Form Url
variable {U : Type} {lib : Library U} {c : Cipher} {fields : Pairs} {name base : Text} {u v : U}

def signatureIn (c : Cipher) (fields : Pairs) : Except Failure Text :=
  (last? fields signatureName).elim (.error (.malformed .noSignature)) c.decipherSignature

theorem resolve_concat (hname : IsParameter name fields) (base : Text) :
    c.resolve lib (render (fields ++ [(urlName, base)])) = (do
      let x ← c.signatureIn fields
      let url ← readUrl lib base
      .ok (lib.render (lib.setPair url name x))) := by
  have hsignature : last? (fields ++ [(urlName, base)]) signatureName = last? fields signatureName :=
    last?_concat_of_ne (by decide) fields base
  have hparameter : last? (fields ++ [(urlName, base)]) parameterName = last? fields parameterName :=
    last?_concat_of_ne (by decide) fields base
  rw [resolve, parse_render, last?_concat_self, hsignature]
  dsimp only
  rw [hparameter, getD_of_isParameter hname, signatureIn]
  cases last? fields signatureName <;> rfl

theorem resolve_concat_of_read (hname : IsParameter name fields) (hread : lib.parse base = .ok u) :
    c.resolve lib (render (fields ++ [(urlName, base)])) =
      (c.signatureIn fields).map fun x => lib.render (lib.setPair u name x) := by
  rw [resolve_concat hname, readUrl_ok hread]
  cases c.signatureIn fields <;> rfl

theorem error_of_unreadable {fault : Fault} (hname : IsParameter name fields)
    (hread : lib.parse base = .error fault) : c.decipherInUrl lib base = .error (.url fault) ∧
      ∃ f, c.resolve lib (render (fields ++ [(urlName, base)])) = .error f := by
  have hfault : readUrl lib base = .error (.url fault) := by rw [readUrl, hread]; rfl
  rw [decipherInUrl, resolve_concat hname, hfault]
  refine ⟨rfl, ?_⟩
  cases c.signatureIn fields with
  | error f => exact ⟨f, rfl⟩
  | ok x => exact ⟨.url fault, rfl⟩

section Again
variable (hlib : lib.IsLawful)
  (hagain : ∀ ps, lib.parse (lib.render (lib.withPairs u ps)) = .ok (lib.withPairs v ps))
include hlib hagain

/-- The first `n` of a URL is still the first one after the signature has been put in. -/
theorem parse_setPair (hn : name ≠ throttlingName) (x : Text) :
    ∃ r, lib.parse (lib.render (lib.setPair u name x)) = .ok r ∧
      first? (lib.pairs r) throttlingName = first? (lib.pairs u) throttlingName ∧
      ∀ y, lib.setPair r throttlingName y =
        lib.withPairs v (Form.set throttlingName y (Form.set name x (lib.pairs u))) :=
  ⟨lib.withPairs v (Form.set name x (lib.pairs u)), hagain _,
    by rw [hlib.pairs_withPairs, first?_set_of_ne hn], hlib.setPair_withPairs v _ throttlingName⟩

theorem decipherInUrl_setPair_of_lacks (hn : name ≠ throttlingName)
    (hlacks : first? (lib.pairs u) throttlingName = none) (x : Text) :
    c.decipherInUrl lib (lib.render (lib.setPair u name x)) = .ok (lib.render (lib.setPair u name x)) := by
  obtain ⟨r, hread, hfirst, -⟩ := parse_setPair hlib hagain hn x
  exact decipherInUrl_of_lacks hread (first?_eq_none_iff.1 (hfirst.trans hlacks))

theorem decipherInUrl_setPair_of_first (hn : name ≠ throttlingName) {n : Text}
    (hthrottling : first? (lib.pairs u) throttlingName = some n) (x : Text) :
    c.decipherInUrl lib (lib.render (lib.setPair u name x)) = (c.decipherThrottling n).map fun y =>
      lib.render (lib.withPairs v (Form.set throttlingName y (Form.set name x (lib.pairs u)))) := by
  obtain ⟨r, hread, hfirst, hset⟩ := parse_setPair hlib hagain hn x
  rw [decipherInUrl_of_first hread (hfirst.trans hthrottling)]
  simp only [hset]

theorem resolve_setPair (hname : IsParameter name fields) (hn : name ≠ throttlingName) {n : Text}
    (hthrottling : first? (lib.pairs u) throttlingName = some n) (y : Text) :
    c.resolve lib (render (fields ++ [(urlName, lib.render (lib.setPair u throttlingName y))])) =
      (c.signatureIn fields).map fun x =>
        lib.render (lib.withPairs v (Form.set throttlingName y (Form.set name x (lib.pairs u)))) := by
  rw [Library.setPair, resolve_concat_of_read hname (hagain _)]
  simp only [hlib.setPair_withPairs, set_comm hn hthrottling]

end Again

/-- Whatever parameter the signature is for, unless it is `n`: resolving a URL and deciphering `n` in what
comes out succeeds if and only if deciphering `n` in the URL and resolving what comes out does, and both
orders lead to the same text, whether or not the URL has an `n` or the parameter already. -/
theorem resolve_decipherInUrl_comm (hlib : lib.IsLawful) (c : Cipher) (hname : IsParameter name fields)
    (hn : name ≠ throttlingName) (base t : Text) :
    (c.resolve lib (render (fields ++ [(urlName, base)])) >>= c.decipherInUrl lib) = .ok t ↔
      (c.decipherInUrl lib base >>= fun b =>
        c.resolve lib (render (fields ++ [(urlName, b)]))) = .ok t := by
  cases hread : lib.parse base with
  | error fault =>
    obtain ⟨hdecipher, f, hresolve⟩ := error_of_unreadable (c := c) hname hread
    rw [hdecipher, hresolve]
    simp
  | ok u =>
    obtain ⟨v, hagain⟩ := hlib.parse_render base u hread
    cases hthrottling : first? (lib.pairs u) throttlingName with
    | none =>
      rw [decipherInUrl_of_lacks hread (first?_eq_none_iff.1 hthrottling), ok_bind,
        resolve_concat_of_read hname hread, bind_map]
      simp only [decipherInUrl_setPair_of_lacks hlib hagain hn hthrottling]
      cases c.signatureIn fields <;> rfl
    | some n =>
      rw [resolve_concat_of_read hname hread, bind_map, decipherInUrl_of_first hread hthrottling, bind_map]
      simp only [decipherInUrl_setPair_of_first hlib hagain hn hthrottling,
        resolve_setPair hlib hagain hname hn hthrottling]
      exact bind_map_eq_ok_comm

def orderedFields : Pairs := [(signatureName, "ab".toList), (parameterName, "sig".toList)]

def orderedText : Text := "https://xn--mnchen-3ya.de/p?%C3%A9=+&n=ba&=&n=c%26&sig=ba#f".toList

theorem resolve_decipherInUrl_comm_repeated :
    sampleLibrary.IsLawful ∧ IsParameter "sig".toList orderedFields ∧ "sig".toList ≠ throttlingName ∧
    (mirror.resolve sampleLibrary (render (orderedFields ++ [(urlName, repeatedText)])) >>=
      mirror.decipherInUrl sampleLibrary) = .ok orderedText ∧
    (mirror.decipherInUrl sampleLibrary repeatedText >>= fun b =>
      mirror.resolve sampleLibrary (render (orderedFields ++ [(urlName, b)]))) = .ok orderedText := by
  have hname : IsParameter "sig".toList orderedFields :=
    .inl ⟨[(signatureName, "ab".toList)], [], rfl, nofun⟩
  have hn : "sig".toList ≠ throttlingName := by decide
  have hresolved : (mirror.resolve sampleLibrary (render (orderedFields ++ [(urlName, repeatedText)])) >>=
      mirror.decipherInUrl sampleLibrary) = .ok orderedText := by decide +kernel
  exact ⟨isLawful_sampleLibrary, hname, hn, hresolved,
    (resolve_decipherInUrl_comm isLawful_sampleLibrary mirror hname hn repeatedText _).1 hresolved⟩

end Unscramble.Cipher
