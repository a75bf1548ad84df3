import Unscramble.Plan.SignatureScript
import Unscramble.Plan.ThrottlingScript
import Unscramble.Run.Throttling
import Unscramble.Settings
import Unscramble.Url.Library

/-! The cipher of one player script: both of its plans, run on single values and on URLs. -/
namespace Unscramble

structure Cipher where
  signature : SignaturePlan
  throttling : ThrottlingProgram
  deriving DecidableEq, Repr

namespace Cipher
variable {U : Type}

def ofScript (settings : Settings) (script : Text) : Except Failure Cipher := do
  if settings.maxScriptBytes < script.byteLength then
    throw (.scriptTooLarge script.byteLength settings.maxScriptBytes)
  let signature ← SignaturePlan.ofScript script
  let throttling ← ThrottlingProgram.ofScript script
  return ⟨signature, throttling⟩

def decipherSignature (c : Cipher) (s : Text) : Except Failure Text := c.signature.run s

def decipherThrottling (c : Cipher) (n : Text) : Except Failure Text := c.throttling.run n

def readUrl (lib : Url.Library U) (t : Text) : Except Failure U := (lib.parse t).mapError .url

def urlName : Text := "url".toList
def signatureName : Text := "s".toList
def parameterName : Text := "sp".toList
def throttlingName : Text := "n".toList

def defaultParameter : Text := "signature".toList

/-- The playable URL of a form-encoded signature cipher: its URL with the deciphered signature
as a query parameter. Of several fields with one name the last counts. -/
def resolve (lib : Url.Library U) (c : Cipher) (form : Text) : Except Failure Text := do
  let fields := Form.parse form
  match Form.last? fields urlName, Form.last? fields signatureName with
  | none, _ => throw (.malformed .noUrl)
  | some _, none => throw (.malformed .noSignature)
  | some base, some s =>
    let deciphered ← c.decipherSignature s
    let url ← readUrl lib base
    let parameter := (Form.last? fields parameterName).getD defaultParameter
    return lib.render (lib.setPair url parameter deciphered)

/-- The URL with its first `n` deciphered; a URL without one stays as it is written. -/
def decipherInUrl (lib : Url.Library U) (c : Cipher) (text : Text) : Except Failure Text := do
  let url ← readUrl lib text
  match Form.first? (lib.pairs url) throttlingName with
  | none => return text
  | some n => return lib.render (lib.setPair url throttlingName (← c.decipherThrottling n))

end Cipher

def playerIdOf (address : Text) : Except Failure Text :=
  (Catalogue.playerId.firstMatch address).map (·.text)

end Unscramble
