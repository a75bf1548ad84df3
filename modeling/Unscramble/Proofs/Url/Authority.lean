import Unscramble.Proofs.Url.Host
import Unscramble.Url.Reader

/-! Authorities: what they are written with, and that they are read again from what they are written
as. -/
namespace Unscramble.Url
open Outcome
variable {c : Char} {t rest user host port : Text} {k : Kind} {n : Nat} {toAscii : Text → Option Text}

theorem isBreak_cases (h : isBreak c = true) : c = '\t' ∨ c = '\n' ∨ c = '\r' := by
  simpa [isBreak, or_assoc] using h

def isOutside (c : Char) : Bool := c == '/' || c == '\\' || c == '?' || c == '#' || isBreak c

theorem isOutside_cases (h : isOutside c = true) :
    c = '/' ∨ c = '\\' ∨ c = '?' ∨ c = '#' ∨ c = '\t' ∨ c = '\n' ∨ c = '\r' := by
  simpa [isOutside, isBreak, or_assoc] using h

theorem inside_of_class {p : Char → Bool} (hp : "/\\?#\t\n\r".toList.any p = false) (h : p c = true) :
    isOutside c = false := by
  rw [Bool.eq_false_iff]
  intro ho
  have hmem : c ∈ "/\\?#\t\n\r".toList := by
    obtain rfl | rfl | rfl | rfl | rfl | rfl | rfl := isOutside_cases ho <;> decide
  exact List.any_eq_false.1 hp c hmem h

theorem inside_of_host (h : isForbiddenInHost c = false) : isOutside c = false :=
  inside_of_class (p := fun c => !isForbiddenInHost c) (by decide) (by simp [h])

theorem hexDigit_ne (h : isHexDigit c = true) : c ≠ '[' ∧ c ≠ ']' ∧ c ≠ '@' := by
  refine ⟨?_, ?_, ?_⟩ <;>
  · rintro rfl
    cases h

/-- A text without brackets does not end the host, nor does a colon inside brackets. -/
theorem splitPort_append (inBrackets : Bool)
    (h : ∀ c ∈ t, c ≠ '[' ∧ c ≠ ']' ∧ (c = ':' → inBrackets = true)) (rest : Text) :
    splitPort inBrackets (t ++ rest) =
      (t ++ (splitPort inBrackets rest).1, (splitPort inBrackets rest).2) := by
  induction t with
  | nil => rfl
  | cons c t ih =>
    obtain ⟨⟨hopen, hclose, hcolon⟩, ht⟩ := List.forall_mem_cons.1 h
    have hguard : ¬(c = ':' && !inBrackets) = true := by
      simp only [Bool.and_eq_true, decide_eq_true_eq, Bool.not_eq_true']
      exact fun ⟨hc, hb⟩ => by simp [hcolon hc] at hb
    rw [List.cons_append, splitPort, if_neg hguard, if_neg hopen, if_neg hclose]
    dsimp only
    rw [ih ht]
    rfl

namespace IsShown

theorem ne_nil (h : IsShown t) : t ≠ [] := by
  cases h with
  | plain hne => exact hne
  | bracketed => exact List.cons_ne_nil _ _

theorem inside (h : IsShown t) : ∀ c ∈ t, isOutside c = false := by
  cases h with
  | plain _ h => exact fun c hc => inside_of_host (h c hc)
  | @bracketed t h =>
    refine List.forall_mem_append.2 ⟨List.forall_mem_cons.2 ⟨rfl, fun c hc => ?_⟩, List.forall_mem_singleton.2 rfl⟩
    obtain hdigit | rfl := h c hc
    · exact inside_of_class (by decide) hdigit
    · rfl

theorem not_mem (h : IsShown t) : '@' ∉ t := by
  cases h with
  | plain _ h => exact fun hm => absurd (h '@' hm) (by decide)
  | @bracketed t h =>
    rw [List.mem_append, List.mem_cons]
    rintro ((hm | hm) | hm)
    · exact absurd hm (by decide)
    · obtain hdigit | hcolon := h '@' hm
      · cases hdigit
      · exact absurd hcolon (by decide)
    · exact absurd hm (by decide)

theorem splitPort (h : IsShown t) (rest : Text) : splitPort false (t ++ rest) =
    (t ++ (Url.splitPort false rest).1, (Url.splitPort false rest).2) := by
  cases h with
  | plain _ h =>
    refine splitPort_append false (fun c hc => ⟨?_, ?_, ?_⟩) rest <;>
    · rintro rfl
      exact absurd (h _ hc) (by decide)
  | @bracketed t h =>
    have hinner := splitPort_append true (t := t) (fun c hc => by
      obtain hdigit | rfl := h c hc
      · exact ⟨(hexDigit_ne hdigit).1, (hexDigit_ne hdigit).2.1, fun _ => rfl⟩
      · exact ⟨by decide, by decide, fun _ => rfl⟩) (']' :: rest)
    have hopen : Url.splitPort false ('[' :: (t ++ ']' :: rest)) =
        ('[' :: (Url.splitPort true (t ++ ']' :: rest)).1, (Url.splitPort true (t ++ ']' :: rest)).2) := rfl
    have hclose : Url.splitPort true (']' :: rest) =
        (']' :: (Url.splitPort false rest).1, (Url.splitPort false rest).2) := rfl
    rw [List.append_assoc, List.cons_append, List.singleton_append, hopen, hinner, hclose]
    simp

end IsShown

inductive IsPort : Text → Prop
  | none : IsPort []
  | number {n : Nat} (hn : n < 65536) : IsPort (':' :: Number.render n)

theorem isPort_renderPort (k : Kind) {o : Option Nat} (h : ∀ n ∈ o, n < 65536) : IsPort (renderPort k o) := by
  cases o with
  | none => exact .none
  | some n =>
    rw [renderPort]
    split
    · exact .none
    · exact .number (h n rfl)

theorem yields_portNumber? (t : Text) : Yields (fun o => ∀ n ∈ o, n < 65536) (portNumber? t) := by
  rw [portNumber?]
  split
  · split
    · exact .ok nofun
    split
    next hlt =>
      refine .ok ?_
      rintro n ⟨⟩
      exact hlt
    · exact .error _
  · exact .error _

theorem portNumber?_render (hn : n < 65536) : portNumber? (Number.render n) = .ok (some n) := by
  have hdigits : (Number.render n).all Char.isDigit = true :=
    List.all_eq_true.2 fun _ => Number.isDigit_of_mem_render
  have hvalue : digitsValue 10 (Number.render n) = n := digitsValue_toDigits (by decide) (by decide) n
  rw [portNumber?, if_pos hdigits, if_neg (by simpa using Number.render_ne_nil n), hvalue, if_pos hn]

theorem IsPort.inside (h : IsPort port) : ∀ c ∈ port, isOutside c = false := by
  cases h with
  | none => nofun
  | number =>
    exact List.forall_mem_cons.2 ⟨rfl, fun c hc => inside_of_class (by decide) (Number.isDigit_of_mem_render hc)⟩

theorem IsPort.not_mem (h : IsPort port) : '@' ∉ port := by
  cases h with
  | none => exact List.not_mem_nil
  | number =>
    rw [List.mem_cons]
    rintro (hm | hm)
    · exact absurd hm (by decide)
    · exact absurd (Number.isDigit_of_mem_render hm) (by decide)

def Host.parseFor (toAscii : Text → Option Text) (k : Kind) (t : Text) : Except Fault Host :=
  if k = .other then Host.parseOpaque t else Host.parse toAscii t

inductive IsHostAndPort (toAscii : Text → Option Text) (k : Kind) (hasUser : Bool) : Text → Prop
  | none (hk : k = .other) (hu : hasUser = false) : IsHostAndPort toAscii k hasUser []
  | some {h : Host} {port : Text} (hh : h.IsCanonical (Host.parseFor toAscii k)) (hport : IsPort port) :
      IsHostAndPort toAscii k hasUser (h.render ++ port)

theorem yields_parseFor (hne : t ≠ []) : Yields (Host.IsCanonical (Host.parseFor toAscii k)) (Host.parseFor toAscii k t) := by
  by_cases hk : k = .other
  · have hparse : Host.parseFor toAscii k = Host.parseOpaque := funext fun t => if_pos hk
    rw [hparse]
    exact yields_parseOpaque hne
  · have hparse : Host.parseFor toAscii k = Host.parse toAscii := funext fun t => if_neg hk
    rw [hparse]
    exact yields_parse t

def withPort (k : Kind) (host : Host) (port : Option Text) : Except Fault (Text × Text) :=
  port.elim (.ok (host.render, [])) fun p =>
    (portNumber? (p.takeWhile (· != '\\'))).map fun number =>
      (host.render ++ renderPort k number, p.dropWhile (· != '\\'))

theorem renderHostAndPort_eq (hne : (splitPort false t).1 ≠ []) (hasUser : Bool) :
    renderHostAndPort toAscii k hasUser t =
      Host.parseFor toAscii k (splitPort false t).1 >>= fun host => withPort k host (splitPort false t).2 := by
  rw [renderHostAndPort, Host.parseFor]
  generalize splitPort false t = split at hne ⊢
  obtain ⟨hostText, portText⟩ := split
  dsimp only at hne ⊢
  rw [if_neg (by simpa using hne)]
  by_cases hk : k = .other
  · rw [if_pos hk, if_pos hk]
    cases portText <;> rfl
  · rw [if_neg hk, if_neg hk]
    cases portText <;> rfl

theorem yields_withPort {h : Host} (hh : h.IsCanonical (Host.parseFor toAscii k)) (hasUser : Bool) (o : Option Text) :
    Yields (IsHostAndPort toAscii k hasUser ·.1) (withPort k h o) := by
  cases o with
  | none =>
    have hshown : IsHostAndPort toAscii k hasUser (h.render ++ []) := .some hh .none
    rw [List.append_nil] at hshown
    exact .ok hshown
  | some p => exact .map (yields_portNumber? _) fun o ho => .some hh (isPort_renderPort k ho)

theorem yields_renderHostAndPort (k : Kind) (hasUser : Bool) (t : Text) :
    Yields (IsHostAndPort toAscii k hasUser ·.1) (renderHostAndPort toAscii k hasUser t) := by
  by_cases hne : (splitPort false t).1 = []
  · rw [renderHostAndPort]
    generalize splitPort false t = split at hne ⊢
    obtain ⟨hostText, portText⟩ := split
    dsimp only at hne ⊢
    rw [if_pos (by simpa using hne)]
    split
    · exact .error _
    next hguard =>
      simp only [Bool.not_eq_true, Bool.or_eq_false_iff, bne_eq_false_iff_eq] at hguard
      exact .ok (.none hguard.1.1 hguard.2)
  · rw [renderHostAndPort_eq hne]
    exact .bind (yields_parseFor hne) fun h hh => yields_withPort hh hasUser _

theorem renderHostAndPort_ok {hasUser hadUser : Bool} (h : IsHostAndPort toAscii k hadUser t)
    (hu : hasUser = true → t ≠ []) : ∃ r, renderHostAndPort toAscii k hasUser t = .ok r := by
  cases h with
  | none hk =>
    have hno : hasUser = false := Bool.eq_false_iff.2 fun h => hu h rfl
    rw [hk, hno]
    exact ⟨_, rfl⟩
  | @some h port hh hport =>
    have hsplit := hh.shown.splitPort port
    have hfirst : (splitPort false port).1 = [] := by cases hport <;> rfl
    rw [hfirst, List.append_nil] at hsplit
    have hne : (splitPort false (h.render ++ port)).1 ≠ [] := by
      rw [hsplit]
      exact hh.shown.ne_nil
    rw [renderHostAndPort_eq hne, hsplit, hh.again, ok_bind]
    cases hport with
    | none => exact ⟨_, rfl⟩
    | @number n hn =>
      have hdigits : (Number.render n).takeWhile (· != '\\') = Number.render n := by
        refine List.takeWhile_eq_self_iff.2 fun c hc => bne_iff_ne.2 ?_
        rintro rfl
        exact absurd (Number.isDigit_of_mem_render hc) (by decide)
      have hport : (splitPort false (':' :: Number.render n)).2 = some (Number.render n) := rfl
      rw [hport, withPort, Option.elim_some, hdigits, portNumber?_render hn]
      exact ⟨_, rfl⟩

/-- The schemes with rules of their own want a host, and so does a user. -/
theorem IsHostAndPort.ne_nil {hasUser : Bool} (h : IsHostAndPort toAscii k hasUser t)
    (hwanted : k ≠ .other ∨ hasUser = true) : t ≠ [] := by
  cases h with
  | none hk hu => exact absurd hwanted (by simp [hk, hu])
  | some hh => exact fun hnil => hh.shown.ne_nil (List.append_eq_nil_iff.1 hnil).1

theorem IsHostAndPort.inside {hasUser : Bool} (h : IsHostAndPort toAscii k hasUser t) : ∀ c ∈ t, isOutside c = false := by
  cases h with
  | none => nofun
  | some hh hport => exact List.forall_mem_append.2 ⟨hh.shown.inside, hport.inside⟩

theorem IsHostAndPort.not_mem {hasUser : Bool} (h : IsHostAndPort toAscii k hasUser t) : '@' ∉ t := by
  cases h with
  | none => exact List.not_mem_nil
  | some hh hport => exact fun hm => (List.mem_append.1 hm).elim hh.shown.not_mem hport.not_mem

inductive IsUser : Text → Prop
  | none : IsUser []
  | some {t : Text} (hne : t ≠ []) (h : ∀ c ∈ t, isOutside c = false) : IsUser (t ++ ['@'])

theorem spares_userinfo : Spares escapesInUserinfo := by decide

theorem isUser_renderUser (t : Text) : IsUser (renderUser t) := by
  have hencode (t : Text) : ∀ c ∈ Percent.encode escapesInUserinfo t, isOutside c = false := fun c hc =>
    inside_of_class (p := fun c => !escapesInUserinfo c) (by decide) (by simp [spares_userinfo.of_mem hc])
  rw [renderUser]
  generalize (Text.splitOnce? ':' t).getD (t, []) = split
  obtain ⟨name, password⟩ := split
  dsimp only
  split
  · exact .none
  next hne =>
    refine .some (fun hnil => ?_) (List.forall_mem_append.2 ⟨hencode name, ?_⟩)
    · obtain ⟨hname, hpassword⟩ := List.append_eq_nil_iff.1 hnil
      have hnameless : name = [] := by
        by_contra h
        exact percentEncode_ne_nil h hname
      split at hpassword
      next hempty => exact hne (by simp [hnameless, List.isEmpty_iff.1 hempty])
      · cases hpassword
    · split
      · nofun
      · exact List.forall_mem_cons.2 ⟨rfl, hencode password⟩

inductive IsAuthority (toAscii : Text → Option Text) (k : Kind) : Text → Prop
  | intro {user host : Text} (hu : IsUser user) (hh : IsHostAndPort toAscii k (!user.isEmpty) host) :
      IsAuthority toAscii k (user ++ host)

theorem yields_authorityOf (k : Kind) (closed : Bool) (t : Text) :
    Yields (IsAuthority toAscii k ·.1) (authorityOf toAscii k closed t) := by
  rw [authorityOf]
  split
  · exact fun a ha => .intro .none (yields_renderHostAndPort k false t a ha)
  · split
    · exact .error _
    · exact .bind (yields_renderHostAndPort k _ _) fun a ha => .ok (.intro (isUser_renderUser _) ha)

theorem IsAuthority.inside (h : IsAuthority toAscii k t) : ∀ c ∈ t, isOutside c = false := by
  cases h with
  | intro hu hh =>
    refine List.forall_mem_append.2 ⟨?_, hh.inside⟩
    cases hu with
    | none => nofun
    | some _ h => exact List.forall_mem_append.2 ⟨h, List.forall_mem_singleton.2 rfl⟩

theorem IsAuthority.ne_nil (h : IsAuthority toAscii k t) (hk : k ≠ .other) : t ≠ [] := by
  cases h with
  | intro _ hh => exact fun hnil => hh.ne_nil (.inl hk) (List.append_eq_nil_iff.1 hnil).2

theorem splitUser?_append (h : '@' ∉ host) (user : Text) :
    splitUser? (user ++ '@' :: host) = some (user, host) := by
  have hreverse : (user ++ '@' :: host).reverse = host.reverse ++ '@' :: user.reverse := by simp
  rw [splitUser?, hreverse, Text.splitOnce?_append (by simpa using h)]
  simp

theorem splitUser?_of_not_mem (h : '@' ∉ t) : splitUser? t = none := by
  rw [splitUser?, Text.splitOnce?_of_not_mem (by simpa using h)]
  rfl

theorem IsAuthority.read (h : IsAuthority toAscii k t) (closed : Bool) : ∃ r, authorityOf toAscii k closed t = .ok r := by
  cases h with
  | @intro user host hu hh =>
    cases hu with
    | none =>
      obtain ⟨r, hr⟩ : ∃ r, renderHostAndPort toAscii k false host = .ok r := renderHostAndPort_ok hh nofun
      refine ⟨r, ?_⟩
      rw [List.nil_append, authorityOf, splitUser?_of_not_mem hh.not_mem]
      exact hr
    | @some user hne =>
      have hhost : host ≠ [] := hh.ne_nil (.inr (by simp))
      obtain ⟨r, hr⟩ : ∃ r, renderHostAndPort toAscii k (!(renderUser user).isEmpty) host = .ok r :=
        renderHostAndPort_ok hh fun _ => hhost
      have hsplit := splitUser?_append hh.not_mem user
      refine ⟨(renderUser user ++ r.1, r.2), ?_⟩
      rw [List.append_assoc, List.singleton_append, authorityOf, hsplit]
      dsimp only
      rw [if_neg (by simp [hne]), hr]
      rfl

end Unscramble.Url
