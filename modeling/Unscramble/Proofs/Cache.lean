import Unscramble.Cache
import Unscramble.Proofs.Outcome
import Unscramble.Proofs.Store

/-! Whole runs of requests to a cache over a store that is only known by its laws. While there is room
for all names and nothing outlives the lifetime, what is found under a name is what was put there last,
by an insertion or by parsing a script when nothing was found, unless it has been removed since. -/
namespace Unscramble.Cache
open Outcome
variable {S : Type}

inductive Request where
  | get (id : Text)
  | getOrParse (id script : Text)
  | insert (id : Text) (cipher : Cipher)
  | invalidate (id : Text)
  | clear
  | wait (time : Nat)

/-- What a request has come to. The cipher of a script is answered with a `hit` if one was found
under the name, and else with what parsing the script gives. -/
inductive Event where
  | got (id : Text) (found : Option Held)
  | answered (id : Text) (hit : Bool) (outcome : Except Failure Held)
  | inserted (id : Text) (held : Held)
  | invalidated (id : Text)
  | cleared
  | waited (time : Nat)

def serve (st : Store S Held) (c : Cache S) : Request → Event × Cache S
  | .get id => (.got id (c.get st id).1, (c.get st id).2)
  | .getOrParse id script =>
    let (outcome, c') := c.getOrParse st id script
    (.answered id (c.get st id).1.isSome outcome, c')
  | .insert id cipher => (.inserted id (c.insert st id cipher).1, (c.insert st id cipher).2)
  | .invalidate id => (.invalidated id, c.invalidate st id)
  | .clear => (.cleared, c.clear st)
  | .wait time => (.waited time, { c with store := st.wait c.store time })

def history (st : Store S Held) (c : Cache S) : List Request → List Event
  | [] => []
  | r :: rs => (c.serve st r).1 :: (c.serve st r).2.history st rs

def after (st : Store S Held) (c : Cache S) : List Request → Cache S
  | [] => c
  | r :: rs => (c.serve st r).2.after st rs

theorem history_concat (st : Store S Held) (c : Cache S) (rs : List Request) (r : Request) :
    c.history st (rs ++ [r]) = c.history st rs ++ [((c.after st rs).serve st r).1] := by
  induction rs generalizing c with
  | nil => rfl
  | cons r' rs ih => simp [history, after, ih]

theorem after_concat (st : Store S Held) (c : Cache S) (rs : List Request) (r : Request) :
    c.after st (rs ++ [r]) = ((c.after st rs).serve st r).2 := by
  induction rs generalizing c with
  | nil => rfl
  | cons r' rs ih => simp [after, ih]

namespace Event

def held? : Event → Option Held
  | got _ found => found
  | answered _ _ outcome => outcome.toOption
  | inserted _ held => some held
  | _ => none

def time : Event → Nat
  | waited t => t
  | _ => 0

def name? : Event → Option Text
  | answered id false (.ok _) => some id
  | inserted id _ => some id
  | _ => none

/-- The cipher is put under the name: one that was inserted, or one whose script was parsed because
nothing was found. -/
@[mk_iff]
inductive Gives (id : Text) (held : Held) : Event → Prop where
  | inserted : Gives id held (.inserted id held)
  | parsed : Gives id held (.answered id false (.ok held))

@[mk_iff]
inductive Ends (id : Text) : Event → Prop where
  | given (held : Held) {e : Event} (h : Gives id held e) : Ends id e
  | invalidated : Ends id (.invalidated id)
  | cleared : Ends id .cleared

def calls : Event → List (Store.Command Held)
  | got id _ => [.get id]
  | answered id false (.ok held) => [.get id, .insert id held]
  | answered id _ _ => [.get id]
  | inserted id held => [.insert id held]
  | invalidated id => [.invalidate id]
  | cleared => [.clear]
  | waited t => [.wait t]

end Event

open Event

/-- The cipher was put under the name so long ago, and is the last one that was. -/
def IsLatest (id : Text) (held : Held) : Nat → List Event → Prop :=
  Store.Latest (Gives id held) (Ends id) Event.time

def Stands (id : Text) (held : Held) (h : List Event) : Prop := ∃ age, IsLatest id held age h

/-- None of the events has handed out this very cipher. -/
def IsFresh (held : Held) (h : List Event) : Prop :=
  ∀ e ∈ h, ∀ other ∈ e.held?, other.number ≠ held.number

def names (h : List Event) : Finset Text := (h.filterMap Event.name?).toFinset

/-- The store has no reason to give anything up. -/
structure StaysWithin (settings : Settings) (h : List Event) : Prop where
  room : (names h).card ≤ settings.cacheCapacity
  young : ∀ id held age, IsLatest id held age h → age < settings.cacheLifetime.nanoseconds

variable {st : Store S Held} {c : Cache S} {settings : Settings} {h : List Event} {e : Event}
  {r : Request} {id k script : Text} {cipher : Cipher} {held other : Held} {age : Nat}

theorem held?_of_gives (hg : Gives id held e) : e.held? = some held := by cases hg <;> rfl

theorem isLatest_concat : IsLatest id held age (h ++ [e]) ↔ Gives id held e ∧ age = 0 ∨
    ∃ earlier, IsLatest id held earlier h ∧ ¬Ends id e ∧ age = earlier + e.time :=
  Store.latest_concat

theorem exists_of_isLatest (hl : IsLatest id held age h) : ∃ e ∈ h, e.held? = some held := by
  obtain ⟨before, e, after, rfl, hg, -, -⟩ := hl
  exact ⟨e, by simp, held?_of_gives hg⟩

theorem names_calls (h : List Event) : Store.names (h.flatMap calls) = names h := by
  unfold Store.names names
  rw [List.filterMap_flatMap]
  congr 1
  induction h with
  | nil => rfl
  | cons e h ih =>
    have hcalls : e.calls.filterMap Store.Command.name? = e.name?.toList := by
      rcases e with _ | ⟨_, _ | _, _ | _⟩ | _ | _ | _ | _ <;> rfl
    rw [List.flatMap_cons, ih, hcalls, List.filterMap_cons]
    cases e.name? <;> rfl

theorem isLatest_append_calls {cs : List (Store.Command Held)} (e : Event) :
    Store.IsLatest id held age (cs ++ e.calls) ↔ Gives id held e ∧ age = 0 ∨
      ∃ earlier, Store.IsLatest id held earlier cs ∧ ¬Ends id e ∧ age = earlier + e.time := by
  rcases e with k | ⟨k, hit | hit, f | other⟩ | ⟨k, other⟩ | k | - | t
  case answered.false.ok =>
    rw [calls, List.append_cons, Store.isLatest_insert, Store.isLatest_get]
    simp [gives_iff, ends_iff, Event.time, @eq_comm _ id, @eq_comm _ held]
  all_goals simp [calls, gives_iff, ends_iff, Event.time, @eq_comm _ id, @eq_comm _ held]

/-- The calls put the same ciphers under the same names. -/
theorem isLatest_calls (h : List Event) (id : Text) (held : Held) (age : Nat) :
    Store.IsLatest id held age (h.flatMap calls) ↔ IsLatest id held age h := by
  induction h using List.reverseRecOn generalizing age with
  | nil => exact iff_of_false Store.not_latest_nil Store.not_latest_nil
  | append_singleton h e ih =>
    rw [isLatest_concat, List.flatMap_append, List.flatMap_singleton, isLatest_append_calls]
    simp only [ih]

theorem serve_of_found (hid : (c.get st id).1 = some held) :
    c.serve st (.getOrParse id script) = (.answered id true (.ok held), (c.get st id).2) := by
  cases hget : c.get st id with
  | mk found c' =>
    rw [hget] at hid
    cases hid
    simp [serve, getOrParse, hget]

theorem serve_of_failed {f : Failure} (hid : (c.get st id).1 = none)
    (hscript : Cipher.ofScript c.settings script = .error f) :
    c.serve st (.getOrParse id script) = (.answered id false (.error f), (c.get st id).2) := by
  cases hget : c.get st id with
  | mk found c' =>
    have hsettings : c.settings = c'.settings := congrArg (·.2.settings) hget
    rw [hget] at hid
    cases hid
    simp [serve, getOrParse, hget, ← hsettings, hscript]

theorem serve_of_parsed (hid : (c.get st id).1 = none)
    (hscript : Cipher.ofScript c.settings script = .ok cipher) :
    c.serve st (.getOrParse id script) = (.answered id false (.ok ⟨c.next, cipher⟩),
      ((c.get st id).2.insert st id cipher).2) := by
  cases hget : c.get st id with
  | mk found c' =>
    have hsettings : c.settings = c'.settings := congrArg (·.2.settings) hget
    have hnext : c.next = c'.next := congrArg (·.2.next) hget
    rw [hget] at hid
    cases hid
    simp [serve, getOrParse, insert, hget, ← hsettings, hscript, hnext]

/-- The store has been asked for what the events tell, and no number was given twice. -/
structure Reflects (st : Store S Held) (settings : Settings) (h : List Event) (c : Cache S) : Prop where
  configured : c.settings = settings
  called : c.store = st.after settings.cacheCapacity settings.cacheLifetime (h.flatMap calls)
  numbers : ∀ e ∈ h, ∀ held ∈ e.held?, held.number < c.next

namespace Reflects

theorem create (hc : Cache.create st settings = .ok c) : Reflects st settings [] c := by
  unfold Cache.create at hc
  split at hc
  · cases hc
  · obtain rfl := Except.ok.inj hc
    exact ⟨rfl, rfl, nofun⟩

theorem isFresh_next (hr : Reflects st settings h c) : IsFresh ⟨c.next, cipher⟩ h :=
  fun e he other hother => Nat.ne_of_lt (hr.numbers e he other hother)

/-- What is found is never older than the lifetime, nor is anything found without room. -/
theorem found (hr : Reflects st settings h c) (hst : st.IsLawful) (hid : (c.get st id).1 = some held) :
    0 < settings.cacheCapacity ∧
      ∃ age, IsLatest id held age h ∧ age < settings.cacheLifetime.nanoseconds := by
  have hget : (st.get (st.after settings.cacheCapacity settings.cacheLifetime (h.flatMap calls)) id).1 =
      some held := hr.called ▸ hid
  obtain ⟨age, hage, hyoung⟩ := hst.found _ _ _ _ _ hget
  exact ⟨hst.hasRoom _ _ _ _ _ hget, age, (isLatest_calls h id held age).1 hage, hyoung⟩

theorem get_eq_some_iff (hr : Reflects st settings h c) (hst : st.IsLawful) (hh : StaysWithin settings h) :
    (c.get st id).1 = some held ↔ Stands id held h := by
  constructor
  · intro hid
    obtain ⟨-, age, hage, -⟩ := hr.found hst hid
    exact ⟨age, hage⟩
  · intro ⟨age, hage⟩
    show (st.get c.store id).1 = some held
    rw [hr.called]
    exact hst.finds _ _ _ _ _ age ((isLatest_calls h id held age).2 hage) (hh.young id held age hage)
      (names_calls h ▸ hh.room)

theorem number_lt (hr : Reflects st settings h c) (hst : st.IsLawful)
    (hid : (c.get st id).1 = some held) : held.number < c.next := by
  obtain ⟨-, age, hage, -⟩ := hr.found hst hid
  obtain ⟨e, he, hheld⟩ := exists_of_isLatest hage
  exact hr.numbers e he held hheld

theorem concat (hr : Reflects st settings h c) {c' : Cache S} (hsettings : c'.settings = c.settings)
    (hstore : c'.store = e.calls.foldl st.perform c.store) (hnext : c.next ≤ c'.next)
    (hheld : ∀ held ∈ e.held?, held.number < c'.next) : Reflects st settings (h ++ [e]) c' where
  configured := hsettings.trans hr.configured
  called := by
    rw [List.flatMap_append, List.flatMap_singleton, Store.after_append, ← hr.called, hstore]
  numbers := by
    simp only [List.forall_mem_append, List.forall_mem_singleton]
    exact ⟨fun x hx held hmem => (hr.numbers x hx held hmem).trans_le hnext, hheld⟩

theorem serve (hr : Reflects st settings h c) (hst : st.IsLawful) (r : Request) :
    Reflects st settings (h ++ [(c.serve st r).1]) (c.serve st r).2 := by
  cases r with
  | get id => exact hr.concat rfl rfl le_rfl fun held hid => hr.number_lt hst hid
  | getOrParse id script =>
    cases hid : (c.get st id).1 with
    | some held =>
      rw [serve_of_found hid]
      refine hr.concat rfl rfl le_rfl ?_
      rintro _ ⟨⟩
      exact hr.number_lt hst hid
    | none =>
      cases hscript : Cipher.ofScript c.settings script with
      | error f =>
        rw [serve_of_failed hid hscript]
        exact hr.concat rfl rfl le_rfl nofun
      | ok cipher =>
        rw [serve_of_parsed hid hscript]
        refine hr.concat rfl rfl (Nat.le_succ _) ?_
        rintro _ ⟨⟩
        exact Nat.lt_succ_self _
  | insert id cipher =>
    refine hr.concat rfl rfl (Nat.le_succ _) ?_
    rintro _ ⟨⟩
    exact Nat.lt_succ_self _
  | invalidate | clear | wait => exact hr.concat rfl rfl le_rfl nofun

theorem run (hst : st.IsLawful) (hc : Cache.create st settings = .ok c) (rs : List Request) :
    Reflects st settings (c.history st rs) (c.after st rs) := by
  induction rs using List.reverseRecOn with
  | nil => exact create hc
  | append_singleton rs r ih =>
    rw [history_concat, after_concat]
    exact ih.serve hst r

end Reflects

/-- The outcome of asking for the cipher of a script that is parsed afresh. -/
def ParsedAfresh (settings : Settings) (h : List Event) (script : Text)
    (outcome : Except Failure Held) : Prop :=
  (∀ f, Cipher.ofScript settings script = .error f → outcome = .error f) ∧
  ∀ cipher, Cipher.ofScript settings script = .ok cipher →
    ∃ held, outcome = .ok held ∧ held.cipher = cipher ∧ IsFresh held h

/-- What a request comes to behind the events `h`. -/
def Answers (settings : Settings) (h : List Event) : Request → Event → Prop
  | .get id, e => ∃ found, e = .got id found ∧ ∀ held, found = some held ↔ Stands id held h
  | .getOrParse id script, e => ∃ hit outcome, e = .answered id hit outcome ∧
      (∀ held, Stands id held h → hit = true ∧ outcome = .ok held) ∧
      ((∀ held, ¬Stands id held h) → hit = false ∧ ParsedAfresh settings h script outcome)
  | .insert id cipher, e => ∃ held, e = .inserted id held ∧ held.cipher = cipher ∧ IsFresh held h
  | .invalidate id, e => e = .invalidated id
  | .clear, e => e = .cleared
  | .wait time, e => e = .waited time

namespace Reflects

theorem parsedAfresh (hr : Reflects st settings h c) (hid : (c.get st id).1 = none) : ∃ outcome,
    (c.serve st (.getOrParse id script)).1 = .answered id false outcome ∧
      ParsedAfresh settings h script outcome := by
  have hsettings := hr.configured
  subst hsettings
  cases hscript : Cipher.ofScript c.settings script with
  | error f =>
    refine ⟨.error f, by rw [serve_of_failed hid hscript], fun f' hf' => ?_, fun cipher hcipher => ?_⟩
    · exact congrArg Except.error (Except.error.inj (hscript.symm.trans hf'))
    · cases hscript.symm.trans hcipher
  | ok cipher =>
    refine ⟨.ok ⟨c.next, cipher⟩, by rw [serve_of_parsed hid hscript], fun f hf => ?_,
      fun other hother => ?_⟩
    · cases hscript.symm.trans hf
    · exact ⟨_, rfl, Except.ok.inj (hscript.symm.trans hother), hr.isFresh_next⟩

theorem answers (hr : Reflects st settings h c) (hst : st.IsLawful) (hh : StaysWithin settings h)
    (r : Request) : Answers settings h r (c.serve st r).1 := by
  cases r with
  | get id => exact ⟨(c.get st id).1, rfl, fun held => hr.get_eq_some_iff hst hh⟩
  | getOrParse id script =>
    cases hid : (c.get st id).1 with
    | some held =>
      refine ⟨true, .ok held, by rw [serve_of_found hid], fun other hother => ⟨rfl, ?_⟩, fun hnone => ?_⟩
      · have hother := (hr.get_eq_some_iff hst hh).2 hother
        exact congrArg Except.ok (Option.some.inj (hid.symm.trans hother))
      · exact absurd ((hr.get_eq_some_iff hst hh).1 hid) (hnone held)
    | none =>
      obtain ⟨outcome, hserve, hafresh⟩ := hr.parsedAfresh hid
      refine ⟨false, outcome, hserve, fun held hheld => ?_, fun _ => ⟨rfl, hafresh⟩⟩
      cases hid.symm.trans ((hr.get_eq_some_iff hst hh).2 hheld)
  | insert id cipher => exact ⟨_, rfl, rfl, hr.isFresh_next⟩
  | invalidate | clear | wait => rfl

end Reflects

theorem isLatest_concat_failed {hit : Bool} {f : Failure} :
    IsLatest id held age (h ++ [.answered k hit (.error f)]) ↔ IsLatest id held age h := by
  simp [isLatest_concat, gives_iff, ends_iff, Event.time]

theorem StaysWithin.concat_failed (hh : StaysWithin settings h) (k : Text) (hit : Bool) (f : Failure) :
    StaysWithin settings (h ++ [.answered k hit (.error f)]) where
  room := by
    have hname : (Event.answered k hit (.error f)).name? = none := by cases hit <;> rfl
    simpa [names, hname] using hh.room
  young id held age hl := hh.young id held age (isLatest_concat_failed.1 hl)

/-- Behind every run of requests that stays within the capacity and the lifetime, the next request comes
to what the events so far tell, and a parse that fails changes nothing that is found. Without room or
time nothing is ever found, and every script is parsed. -/
theorem answers_in_run (hst : st.IsLawful) (hc : create st settings = .ok c) (rs : List Request)
    (r : Request) :
    (StaysWithin settings (c.history st rs) →
      Answers settings (c.history st rs) r ((c.after st rs).serve st r).1 ∧
      ∀ k hit f, ((c.after st rs).serve st r).1 = .answered k hit (.error f) →
        ∀ id, (((c.after st rs).serve st r).2.get st id).1 = ((c.after st rs).get st id).1) ∧
    (settings.cacheCapacity = 0 ∨ settings.cacheLifetime.nanoseconds = 0 →
      (∀ id, r = .get id → ((c.after st rs).serve st r).1 = .got id none) ∧
      ∀ id script, r = .getOrParse id script → ∃ outcome,
        ((c.after st rs).serve st r).1 = .answered id false outcome ∧
          ParsedAfresh settings (c.history st rs) script outcome) := by
  have hr := Reflects.run hst hc rs
  refine ⟨fun hh => ⟨hr.answers hst hh r, fun k hit f hf id => ?_⟩, fun hnothing => ?_⟩
  · have hnext := hr.serve hst r
    have hwithin := hh.concat_failed k hit f
    rw [hf] at hnext
    refine Option.ext fun held => ?_
    rw [hnext.get_eq_some_iff hst hwithin, hr.get_eq_some_iff hst hh]
    exact exists_congr fun age => isLatest_concat_failed
  · have hnone (id : Text) : ((c.after st rs).get st id).1 = none := by
      refine Option.eq_none_iff_forall_ne_some.2 fun held hheld => ?_
      obtain ⟨hroom, age, -, hyoung⟩ := hr.found hst hheld
      omega
    constructor
    · rintro id rfl
      exact congrArg (Event.got id) (hnone id)
    · rintro id script rfl
      exact hr.parsedAfresh (hnone id)

theorem age_le (hl : IsLatest id held age h) : age ≤ (h.map Event.time).sum := by
  obtain ⟨before, e, after, rfl, -, -, rfl⟩ := hl
  rw [List.map_append, List.sum_append, List.map_cons, List.sum_cons]
  omega

def insertedCipher : Cipher where
  signature := ⟨["O.r(a)".toList], .ofList [(['r'], .reverse)]⟩
  throttling := ⟨[⟨0, 1, none⟩], [.operation .reverse, .text inputName]⟩

def parsedCipher : Cipher where
  signature := ⟨["O.r(a)".toList], .ofList [(['r'], .reverse)]⟩
  throttling := ⟨[⟨0, 0, none⟩], [.integer 1]⟩

def sampleScript : Text :=
  "c&&a.set(b,encodeURIComponent(N(c)));".toList ++
    "N=function(a)\x7ba=a.split(\"\");O.r(a);return a.join(\"\")\x7d;".toList ++
    "var O=\x7br:function(a)\x7ba.reverse()\x7d\x7d;a.D&&(b=a.get(\"n\"))&&(b=M(b));".toList ++
    "M=function(a)\x7bvar b=[],c=[1];try\x7bc[0](c[0])\x7dcatch(f)\x7b\x7d\x7d".toList

def narrow : Settings := ⟨300, .ofSeconds 10, 2⟩

def closed : Settings := { narrow with cacheCapacity := 0 }

def sampleRun : List Request :=
  [.insert ['p'] insertedCipher, .getOrParse ['q'] sampleScript, .wait 4000000000, .invalidate ['p']]

def sampleHistory : List Event :=
  [.inserted ['p'] ⟨0, insertedCipher⟩, .answered ['q'] false (.ok ⟨1, parsedCipher⟩),
    .waited 4000000000, .invalidated ['p']]

def empty (settings : Settings) : Cache (Shelf Held) :=
  ⟨settings, Shelf.store.create settings.cacheCapacity settings.cacheLifetime, 0⟩

def afterwards : Cache (Shelf Held) :=
  ⟨narrow, ⟨2, 10000000000, 4000000000, [(['q'], 0, ⟨1, parsedCipher⟩)]⟩, 2⟩

theorem ofScript_sampleScript : Cipher.ofScript narrow sampleScript = .ok parsedCipher := by
  decide +kernel

theorem serve_sampleScript :
    serve Shelf.store (serve Shelf.store (empty narrow) (.insert ['p'] insertedCipher)).2
      (.getOrParse ['q'] sampleScript) = (.answered ['q'] false (.ok ⟨1, parsedCipher⟩),
        ⟨narrow, ⟨2, 10000000000, 0, [(['q'], 0, ⟨1, parsedCipher⟩), (['p'], 0, ⟨0, insertedCipher⟩)]⟩, 2⟩) :=
  serve_of_parsed (by decide) ofScript_sampleScript

theorem history_sampleRun : history Shelf.store (empty narrow) sampleRun = sampleHistory := by
  rw [sampleRun, history, history, serve_sampleScript]
  rfl

theorem after_sampleRun : after Shelf.store (empty narrow) sampleRun = afterwards := by
  rw [sampleRun, after, after, serve_sampleScript]
  rfl

theorem staysWithin_sampleHistory : StaysWithin narrow sampleHistory where
  room := by decide
  young id held age hl := (age_le hl).trans_lt (by decide)

/-- The removed cipher is parsed anew, the other one is found, also after a parse that fails, and in a
cache without room nothing is found. -/
theorem answers_in_run_sample :
    (create Shelf.store narrow = .ok (empty narrow) ∧
      StaysWithin narrow (history Shelf.store (empty narrow) sampleRun)) ∧
    Answers narrow sampleHistory (.getOrParse ['p'] sampleScript)
      (.answered ['p'] false (.ok ⟨2, parsedCipher⟩)) ∧
    Answers narrow sampleHistory (.getOrParse ['q'] ['x'])
      (.answered ['q'] true (.ok ⟨1, parsedCipher⟩)) ∧
    ((serve Shelf.store afterwards (.getOrParse ['p'] ['x'])).2.get Shelf.store ['q']).1 =
      some ⟨1, parsedCipher⟩ ∧
    create Shelf.store closed = .ok (empty closed) ∧
    (serve Shelf.store (after Shelf.store (empty closed) [.insert ['p'] insertedCipher]) (.get ['p'])).1 =
      .got ['p'] none := by
  have hcreate : create Shelf.store narrow = .ok (empty narrow) := rfl
  have hclosed : create Shelf.store closed = .ok (empty closed) := rfl
  have hwithin : StaysWithin narrow (history Shelf.store (empty narrow) sampleRun) :=
    history_sampleRun ▸ staysWithin_sampleHistory
  have hrun (r : Request) := (answers_in_run Shelf.isLawful_store hcreate sampleRun r).1 hwithin
  simp only [history_sampleRun, after_sampleRun] at hrun
  have hparsed : serve Shelf.store afterwards (.getOrParse ['p'] sampleScript) =
      (.answered ['p'] false (.ok ⟨2, parsedCipher⟩), _) :=
    serve_of_parsed (by decide) ofScript_sampleScript
  have hscript : Cipher.ofScript narrow ['x'] = .error (.noMatch .signatureFunction) := by decide +kernel
  have hfailed : serve Shelf.store afterwards (.getOrParse ['p'] ['x']) =
      (.answered ['p'] false (.error (.noMatch .signatureFunction)), _) :=
    serve_of_failed (by decide) hscript
  refine ⟨⟨hcreate, hwithin⟩, ?_, (hrun (.getOrParse ['q'] ['x'])).1, ?_, hclosed, ?_⟩
  · have hanswer := (hrun (.getOrParse ['p'] sampleScript)).1
    rwa [hparsed] at hanswer
  · exact (hrun _).2 _ _ _ (congrArg Prod.fst hfailed) ['q']
  · exact ((answers_in_run Shelf.isLawful_store hclosed [.insert ['p'] insertedCipher] (.get ['p'])).2
      (.inl rfl)).1 ['p'] rfl

end Unscramble.Cache
