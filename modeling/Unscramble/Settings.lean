import Unscramble.Failure
import Unscramble.Json.Printer
import Unscramble.Json.Reader

/-! Limits on scripts and on the cache, and where they are read from. -/
namespace Unscramble

structure Settings where
  maxScriptBytes : Nat
  cacheLifetime : Duration
  cacheCapacity : Nat
  deriving DecidableEq, Repr

namespace Settings

def default : Settings := ⟨8 * 1024 * 1024, .ofSeconds 600, 16⟩

def maxScriptBytesName : Text := "max_script_bytes".toList
def cacheLifetimeName : Text := "cache_ttl".toList
def cacheCapacityName : Text := "cache_capacity".toList

structure Partial where
  maxScriptBytes : Option Nat
  cacheLifetime : Option Duration
  cacheCapacity : Option Nat

def Partial.blank : Partial := ⟨none, none, none⟩

/-- A missing field has its default. -/
def Partial.settings (p : Partial) : Settings :=
  ⟨p.maxScriptBytes.getD default.maxScriptBytes, p.cacheLifetime.getD default.cacheLifetime,
    p.cacheCapacity.getD default.cacheCapacity⟩

def readLifetime : Json.Reader Duration := fun t => do
  let (s, t) ← Json.readText t
  match Duration.read s with
  | .error .overflow => throw .overflow
  | .error _ => throw .wrongContent
  | .ok d => return (d, t)

def fields : List (Json.Field Partial) :=
  [⟨maxScriptBytesName, fun p => p.maxScriptBytes.isSome, fun p t => do
      let (n, t) ← Json.readNat Number.maxWord t
      return ({ p with maxScriptBytes := some n }, t)⟩,
   ⟨cacheLifetimeName, fun p => p.cacheLifetime.isSome, fun p t => do
      let (d, t) ← readLifetime t
      return ({ p with cacheLifetime := some d }, t)⟩,
   ⟨cacheCapacityName, fun p => p.cacheCapacity.isSome, fun p t => do
      let (n, t) ← Json.readNat Number.maxWord t
      return ({ p with cacheCapacity := some n }, t)⟩]

def reader : Json.Reader Settings :=
  Json.readRecord true fields .blank fun p => some p.settings

def ofJson (t : Text) : Except Failure Settings :=
  match Json.readWholeText reader t with
  | .error p => .error (.json p)
  | .ok s => .ok s

def toJson (s : Settings) : Text :=
  Json.renderObject
    [(maxScriptBytesName, Json.renderNat s.maxScriptBytes),
     (cacheLifetimeName, Json.renderText s.cacheLifetime.render),
     (cacheCapacityName, Json.renderNat s.cacheCapacity)]

def maxScriptBytesVariable : Text := "RYT_CIPHER_MAX_SCRIPT_BYTES".toList
def cacheLifetimeVariable : Text := "RYT_CIPHER_CACHE_TTL".toList
def cacheCapacityVariable : Text := "RYT_CIPHER_CACHE_CAPACITY".toList

/-- The value of a variable, blanks around it dropped, or what holds without one. -/
def variableOr {α : Type} (lookup : Text → Option Text) (key : Text)
    (read : Text → Except SettingFault α) (otherwise : α) : Except Failure α :=
  match lookup key with
  | none => .ok otherwise
  | some value => match read value.trim with
    | .error fault => .error (.invalidSetting key value fault)
    | .ok a => .ok a

def readWord (t : Text) : Except SettingFault Nat :=
  (Number.read Number.maxWord t).mapError .number

def readDuration (t : Text) : Except SettingFault Duration :=
  (Duration.read t).mapError .duration

def ofVariables (lookup : Text → Option Text) : Except Failure Settings := do
  let bytes ← variableOr lookup maxScriptBytesVariable readWord default.maxScriptBytes
  let lifetime ← variableOr lookup cacheLifetimeVariable readDuration default.cacheLifetime
  let capacity ← variableOr lookup cacheCapacityVariable readWord default.cacheCapacity
  return ⟨bytes, lifetime, capacity⟩

end Settings
end Unscramble
