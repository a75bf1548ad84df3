import Unscramble.Proofs.Duration
import Unscramble.Proofs.Json.Reader
import Unscramble.Settings

/-! Settings that are written out, all of them or some, are read back from the stored form and from
environment variables alike; what is not written has its default. -/
namespace Unscramble.Settings
open Json Outcome

inductive Item where
  | maxScriptBytes | cacheLifetime | cacheCapacity
  deriving DecidableEq

namespace Item

def name : Item → Text
  | maxScriptBytes => maxScriptBytesName
  | cacheLifetime => cacheLifetimeName
  | cacheCapacity => cacheCapacityName

def key : Item → Text
  | maxScriptBytes => maxScriptBytesVariable
  | cacheLifetime => cacheLifetimeVariable
  | cacheCapacity => cacheCapacityVariable

def value (s : Settings) : Item → Text
  | maxScriptBytes => Number.render s.maxScriptBytes
  | cacheLifetime => s.cacheLifetime.render
  | cacheCapacity => Number.render s.cacheCapacity

def member (s : Settings) : Item → Text × Text
  | maxScriptBytes => (maxScriptBytesName, renderNat s.maxScriptBytes)
  | cacheLifetime => (cacheLifetimeName, renderText s.cacheLifetime.render)
  | cacheCapacity => (cacheCapacityName, renderNat s.cacheCapacity)

end Item

variable {s : Settings} {items taken : List Item}

def objectOf (s : Settings) (items : List Item) : Text := renderObject (items.map (Item.member s))

theorem toJson_eq_objectOf (s : Settings) :
    s.toJson = s.objectOf [.maxScriptBytes, .cacheLifetime, .cacheCapacity] := rfl

def only (s : Settings) (items : List Item) : Settings where
  maxScriptBytes := if .maxScriptBytes ∈ items then s.maxScriptBytes else default.maxScriptBytes
  cacheLifetime := if .cacheLifetime ∈ items then s.cacheLifetime else default.cacheLifetime
  cacheCapacity := if .cacheCapacity ∈ items then s.cacheCapacity else default.cacheCapacity

structure IsStorable (s : Settings) : Prop where
  maxScriptBytes : s.maxScriptBytes ≤ Number.maxWord
  cacheLifetime : s.cacheLifetime.seconds ≤ Number.maxWord
  cacheCapacity : s.cacheCapacity ≤ Number.maxWord

/-- The variables of these settings are set, each with any blanks around its value, and those of the
others are not. -/
def AreSet (s : Settings) (items : List Item) (lookup : Text → Option Text) : Prop :=
  ∀ item : Item, if item ∈ items then
      ∃ x y, Text.Blank x ∧ Text.Blank y ∧ lookup item.key = some (x ++ (item.value s ++ y))
    else lookup item.key = none

theorem reads_lifetime {d : Duration} (hd : d.seconds ≤ Number.maxWord) :
    Reads readLifetime (renderText d.render) d where
  starts := (reads_text d.render).starts
  reads rest hrest := by
    rw [readLifetime, (reads_text d.render).reads rest hrest, ok_bind]
    simp only [Duration.read_render hd, pure_eq]

/-- What has been met once the settings have been taken. -/
def met (s : Settings) (taken : List Item) : Partial where
  maxScriptBytes := if .maxScriptBytes ∈ taken then some s.maxScriptBytes else none
  cacheLifetime := if .cacheLifetime ∈ taken then some s.cacheLifetime else none
  cacheCapacity := if .cacheCapacity ∈ taken then some s.cacheCapacity else none

theorem settings_met (s : Settings) (taken : List Item) : (s.met taken).settings = s.only taken := by
  have hgetD {α : Type} (item : Item) (a b : α) :
      (if item ∈ taken then some a else none).getD b = if item ∈ taken then a else b := by
    split <;> rfl
  simp only [Partial.settings, met, only, hgetD]

theorem collects_member (hs : s.IsStorable) {item : Item} (hnew : item ∉ taken)
    {ms : List (Text × Text)} {p : Partial} (h : Collects fields (s.met (item :: taken)) ms p) :
    Collects fields (s.met taken) (item.member s :: ms) p := by
  cases item with
  | maxScriptBytes =>
    refine .cons _ rfl (by simp [met, hnew])
      ((reads_nat hs.maxScriptBytes).collect fun n => { s.met taken with maxScriptBytes := some n }) ?_
    simpa [met] using h
  | cacheLifetime =>
    refine .cons _ rfl (by simp [met, hnew])
      ((reads_lifetime hs.cacheLifetime).collect fun d => { s.met taken with cacheLifetime := some d }) ?_
    simpa [met] using h
  | cacheCapacity =>
    refine .cons _ rfl (by simp [met, hnew])
      ((reads_nat hs.cacheCapacity).collect fun n => { s.met taken with cacheCapacity := some n }) ?_
    simpa [met] using h

theorem collects_members (hs : s.IsStorable) (items taken : List Item)
    (hd : (items.reverse ++ taken).Nodup) :
    Collects fields (s.met taken) (items.map (Item.member s)) (s.met (items.reverse ++ taken)) := by
  induction items generalizing taken with
  | nil => exact .nil _
  | cons item items ih =>
    rw [List.reverse_cons, List.append_assoc, List.singleton_append] at hd ⊢
    have hnew : item ∉ taken := (List.nodup_cons.1 (List.nodup_append.1 hd).2.1).1
    exact collects_member hs hnew (ih _ hd)

theorem ofJson_objectOf (hs : s.IsStorable) (hd : items.Nodup) :
    ofJson (s.objectOf items) = .ok (s.only items) := by
  have hcollects := collects_members hs items []
    (by rwa [List.append_nil, (List.reverse_perm items).nodup_iff])
  rw [List.append_nil] at hcollects
  have hfinish : s.only items.reverse = s.only items := by simp only [only, List.mem_reverse]
  have hread : Reads reader (s.objectOf items) (s.only items) :=
    reads_record hcollects (by rw [settings_met, hfinish])
  rw [ofJson, hread.whole]

theorem variableOr_eq {α : Type} {lookup : Text → Option Text} {read : Text → Except SettingFault α}
    {value : α} (hset : s.AreSet items lookup) (item : Item) (hread : read (item.value s) = .ok value)
    (htrim : Text.trim (item.value s) = item.value s ∧ item.value s ≠ []) (otherwise : α) :
    variableOr lookup item.key read otherwise = .ok (if item ∈ items then value else otherwise) := by
  have hitem := hset item
  by_cases hmem : item ∈ items
  · rw [if_pos hmem] at hitem
    obtain ⟨x, y, hx, hy, hlookup⟩ := hitem
    simp only [variableOr, hlookup, Text.trim_blank_around hx hy htrim.1 htrim.2, hread, if_pos hmem]
  · rw [if_neg hmem] at hitem
    simp only [variableOr, hitem, if_neg hmem]

theorem trim_render (n : Nat) : Text.trim (Number.render n) = Number.render n ∧ Number.render n ≠ [] :=
  ⟨Text.trimBy_plain fun _ hc => Text.isBlank_of_isDigit (Number.isDigit_of_mem_render hc),
    Number.render_ne_nil n⟩

theorem readWord_render {n : Nat} (hn : n ≤ Number.maxWord) : readWord (Number.render n) = .ok n := by
  rw [readWord, Number.read_render hn]
  rfl

theorem readDuration_render {d : Duration} (hd : d.seconds ≤ Number.maxWord) :
    readDuration d.render = .ok d := by
  rw [readDuration, Duration.read_render hd]
  rfl

theorem ofVariables_of_areSet (hs : s.IsStorable) {lookup : Text → Option Text}
    (h : s.AreSet items lookup) : ofVariables lookup = .ok (s.only items) := by
  have hbytes := variableOr_eq h .maxScriptBytes (readWord_render hs.maxScriptBytes)
    (trim_render _) default.maxScriptBytes
  have hlifetime := variableOr_eq h .cacheLifetime (readDuration_render hs.cacheLifetime)
    (Duration.trim_render hs.cacheLifetime) default.cacheLifetime
  have hcapacity := variableOr_eq h .cacheCapacity (readWord_render hs.cacheCapacity)
    (trim_render _) default.cacheCapacity
  simp only [Item.key] at hbytes hlifetime hcapacity
  simp only [ofVariables, hbytes, hlifetime, hcapacity, ok_bind, pure_eq, only]

/-- Written in any order, any of the settings are read back, and the others are the default ones. -/
theorem written_settings_read_back (hs : s.IsStorable) :
    (∀ items : List Item, items.Nodup →
      ofJson (s.objectOf items) = .ok (s.only items) ∧
        ∀ lookup, s.AreSet items lookup → ofVariables lookup = .ok (s.only items)) ∧
      ofJson s.toJson = .ok s := by
  refine ⟨fun items hd => ⟨ofJson_objectOf hs hd, fun lookup => ofVariables_of_areSet hs⟩, ?_⟩
  rw [toJson_eq_objectOf, ofJson_objectOf hs (by decide)]
  rfl

def sampleSettings : Settings where
  maxScriptBytes := Number.maxWord
  cacheLifetime := .ofParts Number.maxWord 999999999
  cacheCapacity := 0

def sampleLookup (key : Text) : Option Text :=
  if key = cacheLifetimeVariable then
    some (" \t".toList ++ (sampleSettings.cacheLifetime.render ++ "\u3000\n".toList))
  else if key = maxScriptBytesVariable then
    some ("\u00a0".toList ++ (Number.render sampleSettings.maxScriptBytes ++ []))
  else none

theorem written_settings_read_back_sample :
    let items : List Item := [.cacheLifetime, .maxScriptBytes]
    sampleSettings.IsStorable ∧ items.Nodup ∧ sampleSettings.AreSet items sampleLookup ∧
      ofJson (sampleSettings.objectOf items) = .ok (sampleSettings.only items) ∧
      ofVariables sampleLookup = .ok (sampleSettings.only items) ∧
      ofJson sampleSettings.toJson = .ok sampleSettings := by
  intro items
  have hs : sampleSettings.IsStorable := ⟨by decide, by decide, by decide⟩
  have hd : items.Nodup := by decide
  have hset : sampleSettings.AreSet items sampleLookup := by
    intro item
    cases item with
    | maxScriptBytes => exact ⟨_, _, by decide, by decide, rfl⟩
    | cacheLifetime => exact ⟨_, _, by decide, by decide, rfl⟩
    | cacheCapacity => rfl
  obtain ⟨hitems, hall⟩ := written_settings_read_back hs
  exact ⟨hs, hd, hset, (hitems items hd).1, (hitems items hd).2 sampleLookup hset, hall⟩

end Unscramble.Settings
