import Unscramble.Proofs.Outcome
import Unscramble.Proofs.Url.Address
import Unscramble.Proofs.Url.Form

/-! Hosts are read back from their canonical form. -/
namespace Unscramble.Url
open Outcome
variable {c : Char} {t name : Text} {n : Nat} {ps : List Nat} {escapes : Char → Bool}
  {toAscii : Text → Option Text}

/-- What holds of the characters up to 127 one by one. -/
theorem of_ascii {P : Char → Prop} (h : ∀ n < 128, P (Char.ofNat n)) (hc : c.toNat < 128) : P c :=
  Char.ofNat_toNat c ▸ h c.toNat hc

theorem lt_of_isPlain (h : Form.isPlain n) : n < 128 := by
  have hn := Form.isPlain_iff.1 h
  omega

theorem lt_of_isDigit (h : c.isDigit = true) : c.toNat < 128 := by
  have hrange : 48 ≤ c.toNat ∧ c.toNat ≤ 57 := by
    simpa [Char.isDigit, UInt32.le_iff_toNat_le] using h
  omega

theorem toLower_toLower (c : Char) : c.toLower.toLower = c.toLower := by
  by_cases hc : c.toNat < 128
  · exact of_ascii (P := fun c => c.toLower.toLower = c.toLower) (by decide) hc
  · have hnot : ¬(c.val ≥ 'A'.val ∧ c.val ≤ 'Z'.val) := fun h =>
      hc (Nat.lt_of_le_of_lt (UInt32.le_iff_toNat_le.1 h.2) (by decide))
    have hlower : c.toLower = c := dif_neg hnot
    rw [hlower, hlower]

theorem mem_percentEncode (h : c ∈ Percent.encode escapes t) :
    (c ∈ t ∧ escapes c = false) ∨ Form.isPlain c.toNat ∨ c = '%' := by
  obtain ⟨d, hd, hc⟩ := List.mem_flatMap.1 h
  split at hc
  next hplain =>
    obtain rfl := List.mem_singleton.1 hc
    exact .inl ⟨hd, by simpa using (Bool.and_eq_true_iff.1 hplain).2⟩
  · obtain ⟨b, hb, hc⟩ := List.mem_flatMap.1 hc
    exact .inr (Form.plain_of_mem_escape (Utf8.lt_of_mem_encodeChar hb) hc)

theorem lt_of_mem_percentEncode (h : c ∈ Percent.encode escapes t) : c.toNat < 128 := by
  obtain ⟨d, hd, hc⟩ := List.mem_flatMap.1 h
  split at hc
  next hplain =>
    obtain rfl := List.mem_singleton.1 hc
    exact of_decide_eq_true (Bool.and_eq_true_iff.1 hplain).1
  · obtain ⟨b, hb, hc⟩ := List.mem_flatMap.1 hc
    obtain hplain | rfl := Form.plain_of_mem_escape (Utf8.lt_of_mem_encodeChar hb) hc
    · exact lt_of_isPlain hplain
    · decide

theorem percentEncode_ne_nil (h : t ≠ []) : Percent.encode escapes t ≠ [] := by
  cases t with
  | nil => exact absurd rfl h
  | cons c t =>
    rw [Percent.encode, List.flatMap_cons]
    refine fun hnil => ?_
    have hfirst := (List.append_eq_nil_iff.1 hnil).1
    split at hfirst
    · cases hfirst
    · obtain ⟨b, bs, hb, -⟩ := Utf8.exists_tail_encodeChar c
      rw [hb] at hfirst
      cases hfirst

/-- What escapes are written with is not escaped itself. -/
def Spares (escapes : Char → Bool) : Prop :=
  escapes '%' = false ∧
    ∀ n < 128, Form.isPlain (Char.ofNat n).toNat = true → escapes (Char.ofNat n) = false

instance (escapes : Char → Bool) : Decidable (Spares escapes) := inferInstanceAs (Decidable (_ ∧ _))

theorem Spares.plain (h : Spares escapes) (hc : Form.isPlain c.toNat) : escapes c = false :=
  of_ascii (P := fun c => Form.isPlain c.toNat = true → escapes c = false) h.2 (lt_of_isPlain hc) hc

theorem Spares.of_mem (h : Spares escapes) (hc : c ∈ Percent.encode escapes t) : escapes c = false := by
  obtain ⟨-, hc⟩ | hc | rfl := mem_percentEncode hc
  · exact hc
  · exact h.plain hc
  · exact h.1

theorem percentEncode_eq_self (h : ∀ c ∈ t, c.toNat < 128 ∧ escapes c = false) :
    Percent.encode escapes t = t := by
  induction t with
  | nil => rfl
  | cons c t ih =>
    obtain ⟨⟨hlt, hc⟩, ht⟩ := List.forall_mem_cons.1 h
    rw [Percent.encode, List.flatMap_cons, if_pos (by simp [hlt, hc])]
    exact congrArg (c :: ·) (ih ht)

theorem percentEncode_percentEncode (h : Spares escapes) (t : Text) :
    Percent.encode escapes (Percent.encode escapes t) = Percent.encode escapes t :=
  percentEncode_eq_self fun _ hc => ⟨lt_of_mem_percentEncode hc, h.of_mem hc⟩

theorem spares_isControl : Spares isControl := by decide

theorem percentDecode_eq_self {bs : Utf8.Octets} (hbs : 0x25 ∉ bs) : Percent.decode bs = bs := by
  induction bs with
  | nil => rfl
  | cons b bs ih =>
    obtain ⟨hb, hbs⟩ := not_or.1 (List.mem_cons.not.1 hbs)
    rw [Percent.decode_cons (Ne.symm hb), ih hbs]

theorem not_mem_encode_of_not_mem (ht : '%' ∉ t) : 0x25 ∉ Utf8.encode t := by
  intro hmem
  obtain ⟨c, hc, hb⟩ := List.mem_flatMap.1 hmem
  by_cases hlt : c.toNat < 128
  · rw [Utf8.encodeChar_of_lt hlt, List.mem_singleton] at hb
    have hpercent : c = '%' := Char.toNat_inj.1 hb.symm
    exact ht (hpercent ▸ hc)
  · exact absurd (Utf8.le_of_mem_encodeChar (Nat.le_of_not_lt hlt) hb) (by decide)

structure IsName (name : Text) : Prop where
  ascii : isAscii name = true
  allowed : name.any isForbiddenInName = false
  lower : name.map Char.toLower = name
  labels : Label.areName (Text.pieces '.' name) = true
  ne_nil : name ≠ []

namespace IsName

theorem forbidden (h : IsName name) (hc : c ∈ name) : isForbiddenInName c = false :=
  Bool.eq_false_iff.2 (List.any_eq_false.1 h.allowed c hc)

theorem not_mem (h : IsName name) (hc : isForbiddenInName c = true) : c ∉ name := fun hm =>
  absurd (h.forbidden hm) (by simp [hc])

theorem decode (h : IsName name) : Utf8.decode (Percent.decode (Utf8.encode name)) = name := by
  rw [percentDecode_eq_self (not_mem_encode_of_not_mem (h.not_mem (by decide))), Utf8.decode_encode]

theorem nameOf? (h : IsName name) : nameOf? toAscii name = some name := by
  rw [Url.nameOf?, if_pos h.ascii, Option.map_some, h.lower, Option.filter_some, h.ascii, h.allowed,
    h.labels]
  rfl

theorem parse (h : IsName name) (hends : endsInNumber name = false) :
    Host.parse toAscii name = .ok (.name name) := by
  unfold Host.parse
  split
  · exact absurd List.mem_cons_self (h.not_mem (by decide))
  rw [h.decode, h.nameOf?]
  dsimp only
  rw [if_neg (by simpa using h.ne_nil), hends, if_neg (by decide)]

theorem parse_ipv4 (h : IsName name) (hends : endsInNumber name = true) (h4 : ipv4? name = some n) :
    Host.parse toAscii name = .ok (.ipv4 n) := by
  unfold Host.parse
  split
  · exact absurd List.mem_cons_self (h.not_mem (by decide))
  rw [h.decode, h.nameOf?]
  dsimp only
  rw [if_neg (by simpa using h.ne_nil), hends, if_pos rfl, h4]

end IsName

theorem mem_renderIpv4 (h : c ∈ renderIpv4 n) : c.isDigit = true ∨ c = '.' := by
  refine Text.intercalate_induction (P := fun t => ∀ c ∈ t, c.isDigit = true ∨ c = '.') nofun ?_ ?_ ?_ c h
  · exact fun x y hx hy => List.forall_mem_append.2 ⟨hx, hy⟩
  · exact List.forall_mem_singleton.2 (.inr rfl)
  · rw [List.forall_mem_map]
    exact fun m _ d hd => .inl (Number.isDigit_of_mem_render hd)

theorem ascii_of_mem_renderIpv4 (h : c ∈ renderIpv4 n) :
    c.toNat < 128 ∧ isForbiddenInName c = false ∧ c.toLower = c := by
  obtain hc | rfl := mem_renderIpv4 h
  · refine ⟨lt_of_isDigit hc, ?_⟩
    exact of_ascii (P := fun c => c.isDigit = true → isForbiddenInName c = false ∧ c.toLower = c)
      (by decide) (lt_of_isDigit hc) hc
  · decide

theorem areName_of_digits {ts : List Text} (h : ∀ t ∈ ts, ∀ c ∈ t, c.isDigit = true) :
    Label.areName ts = true := by
  have hread : ts.mapM Label.read? = some ts := by
    induction ts with
    | nil => rfl
    | cons t ts ih =>
      obtain ⟨ht, hts⟩ := List.forall_mem_cons.1 h
      have hlabel : Label.read? t = some t := by
        unfold Label.read?
        split
        · exact absurd (ht 'x' List.mem_cons_self) (by decide)
        · rfl
      rw [List.mapM_cons, hlabel, ih hts]
      rfl
  have hflow : ts.any Label.runsLeft = false := by
    rw [List.any_eq_false]
    intro t ht hleft
    obtain ⟨c, hc, hflow⟩ := List.any_eq_true.1 hleft
    have hdigit := h t ht c hc
    have heuropean : Text.flow c = .europeanNumber :=
      of_ascii (P := fun c => c.isDigit = true → Text.flow c = .europeanNumber) (by decide)
        (lt_of_isDigit hdigit) hdigit
    rw [heuropean] at hflow
    cases hflow
  rw [Label.areName, hread]
  simp [hflow]

theorem isName_renderIpv4 (n : Nat) : IsName (renderIpv4 n) where
  ascii := List.all_eq_true.2 fun c hc => decide_eq_true (ascii_of_mem_renderIpv4 hc).1
  allowed := List.any_eq_false.2 fun c hc => by simp [(ascii_of_mem_renderIpv4 hc).2.1]
  lower := by
    rw [List.map_congr_left fun c hc => (ascii_of_mem_renderIpv4 hc).2.2, List.map_id']
  labels := by
    rw [pieces_renderIpv4]
    refine areName_of_digits ?_
    rw [List.forall_mem_map]
    exact fun m _ c hc => Number.isDigit_of_mem_render hc
  ne_nil h := by
    have hlength := congrArg List.length (pieces_renderIpv4 n)
    rw [h] at hlength
    cases hlength

/-- What a host is written as: characters that hosts may have, or pieces in brackets. -/
inductive IsShown : Text → Prop
  | plain {t : Text} (hne : t ≠ []) (h : ∀ c ∈ t, isForbiddenInHost c = false) : IsShown t
  | bracketed {t : Text} (h : ∀ c ∈ t, isHexDigit c = true ∨ c = ':') : IsShown ('[' :: t ++ [']'])

/-- A host that is read again from what it is written as. -/
structure Host.IsCanonical (parse : Text → Except Fault Host) (h : Host) : Prop where
  shown : IsShown h.render
  again : parse h.render = .ok h

theorem mem_renderIpv6 (h : c ∈ renderIpv6 ps) : isHexDigit c = true ∨ c = ':' := by
  have hpieces (ps : List Nat) : ∀ c ∈ renderIpv6Pieces ps, isHexDigit c = true ∨ c = ':' := by
    refine Text.intercalate_induction (P := fun t => ∀ c ∈ t, isHexDigit c = true ∨ c = ':') nofun ?_ ?_ ?_
    · exact fun x y hx hy => List.forall_mem_append.2 ⟨hx, hy⟩
    · exact List.forall_mem_singleton.2 (.inr rfl)
    · rw [List.forall_mem_map]
      exact fun m _ d hd => .inl (isHexDigit_of_mem_toDigits hd)
  rw [renderIpv6] at h
  dsimp only at h
  split at h
  · obtain h | h := List.mem_append.1 h
    · obtain h | h := List.mem_append.1 h
      · exact hpieces _ c h
      · exact .inr (by simpa using h)
    · exact hpieces _ c h
  · exact hpieces ps c h

theorem bracketed_renderIpv6 (h : IsIpv6 ps) : bracketed (renderIpv6 ps ++ [']']) = .ok (.ipv6 ps) := by
  rw [bracketed, if_pos List.getLast?_concat, List.dropLast_concat, ipv6?_renderIpv6 h]

theorem yields_bracketed (t : Text) :
    Yields (fun h => (∀ toAscii, h.IsCanonical (Host.parse toAscii)) ∧ h.IsCanonical Host.parseOpaque) (bracketed t) := by
  rw [bracketed]
  split
  · split
    · exact .error _
    next ps hps =>
      have hshown : IsShown (Host.ipv6 ps).render := .bracketed fun _ => mem_renderIpv6
      have hagain := bracketed_renderIpv6 (isIpv6_ipv6? hps)
      exact .ok ⟨fun _ => ⟨hshown, hagain⟩, ⟨hshown, hagain⟩⟩
  · exact .error _

theorem isForbiddenInHost_of_name (h : isForbiddenInName c = false) : isForbiddenInHost c = false := by
  simp only [isForbiddenInName, Bool.or_eq_false_iff] at h
  exact h.1.1

theorem IsName.isShown (h : IsName name) : IsShown name :=
  .plain h.ne_nil fun _ hc => isForbiddenInHost_of_name (h.forbidden hc)

theorem isName_of_nameOf? (h : nameOf? toAscii t = some name) (hne : name ≠ []) : IsName name := by
  obtain ⟨hname, hvalid⟩ := Option.filter_eq_some_iff.1 h
  obtain ⟨s, -, rfl⟩ := Option.map_eq_some_iff.1 hname
  simp only [Bool.and_eq_true, Bool.not_eq_true'] at hvalid
  obtain ⟨⟨hascii, hallowed⟩, hlabels⟩ := hvalid
  refine ⟨hascii, hallowed, ?_, hlabels, hne⟩
  rw [List.map_map]
  exact List.map_congr_left fun c _ => toLower_toLower c

theorem yields_parse (t : Text) :
    Yields (Host.IsCanonical (Host.parse toAscii)) (Host.parse toAscii t) := by
  unfold Host.parse
  split
  · exact fun h hh => (yields_bracketed _ h hh).1 toAscii
  split
  · exact .error _
  next name hname =>
    split
    · exact .error _
    next hne =>
      have hisName := isName_of_nameOf? hname (by simpa using hne)
      split
      · split
        · exact .error _
        next n hn =>
          exact .ok ⟨(isName_renderIpv4 n).isShown, (isName_renderIpv4 n).parse_ipv4
            (endsInNumber_renderIpv4 n) (ipv4?_renderIpv4 (lt_of_ipv4? hn))⟩
      next hends => exact .ok ⟨hisName.isShown, hisName.parse (Bool.eq_false_iff.2 hends)⟩

theorem parseOpaque_eq_ok (h : ∀ c ∈ t, isForbiddenInHost c = false) :
    Host.parseOpaque t = .ok (.name (Percent.encode isControl t)) := by
  unfold Host.parseOpaque
  split
  · exact absurd (h '[' List.mem_cons_self) (by decide)
  · rw [if_neg (by simpa using h)]

theorem yields_parseOpaque (hne : t ≠ []) : Yields (Host.IsCanonical Host.parseOpaque) (Host.parseOpaque t) := by
  unfold Host.parseOpaque
  split
  · exact fun h hh => (yields_bracketed _ h hh).2
  split
  · exact .error _
  next hhost =>
    have hclean : ∀ c ∈ Percent.encode isControl t, isForbiddenInHost c = false := by
      intro c hc
      obtain ⟨hct, -⟩ | hplain | rfl := mem_percentEncode hc
      · exact Bool.eq_false_iff.2 (List.any_eq_false.1 (Bool.eq_false_iff.2 hhost) c hct)
      · exact Spares.plain (by decide) hplain
      · decide
    have hagain := parseOpaque_eq_ok hclean
    rw [percentEncode_percentEncode spares_isControl] at hagain
    exact .ok ⟨.plain (percentEncode_ne_nil hne) hclean, hagain⟩

end Unscramble.Url
