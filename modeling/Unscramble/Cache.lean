import Unscramble.Cipher
import Unscramble.Store

/-! Ciphers of parsed scripts by player version. A stored cipher has a number of its own, so that
two ciphers can be told apart even if they are equal. -/
namespace Unscramble

/-- A cipher with the number it got when it was made. -/
structure Held where
  number : Nat
  cipher : Cipher
  deriving DecidableEq, Repr

/-- The ciphers are in a store with the states `S`; `next` is the number of the next one. -/
structure Cache (S : Type) where
  settings : Settings
  store : S
  next : Nat

namespace Cache
variable {S : Type} (st : Store S Held)

def longestLifetime : Duration := .ofSeconds (1000 * 365 * Duration.secondsPerDay)

def create (settings : Settings) : Except Failure (Cache S) :=
  if longestLifetime.nanoseconds < settings.cacheLifetime.nanoseconds then .error .lifetimeTooLong
  else .ok ⟨settings, st.create settings.cacheCapacity settings.cacheLifetime, 0⟩

def get (c : Cache S) (id : Text) : Option Held × Cache S :=
  let (held, store) := st.get c.store id
  (held, { c with store := store })

def insert (c : Cache S) (id : Text) (cipher : Cipher) : Held × Cache S :=
  let held := ⟨c.next, cipher⟩
  (held, { c with store := st.insert c.store id held, next := c.next + 1 })

/-- The cipher stored under `id`; if there is none, the one of `script`, which is then stored. -/
def getOrParse (c : Cache S) (id script : Text) : Except Failure Held × Cache S :=
  match c.get st id with
  | (some held, c) => (.ok held, c)
  | (none, c) =>
    match Cipher.ofScript c.settings script with
    | .error f => (.error f, c)
    | .ok cipher =>
      let (held, c) := c.insert st id cipher
      (.ok held, c)

def invalidate (c : Cache S) (id : Text) : Cache S := { c with store := st.invalidate c.store id }

def clear (c : Cache S) : Cache S := { c with store := st.clear c.store }

end Cache
end Unscramble
