import Wallet.Json.Basic
import Wallet.Text.Blank

/-!
# Codes of and from providers

A provider code names a bank, card or bill provider; a status code is what a provider answers. Both
are normalised when they are made: a provider code is trimmed and upper-cased in its ASCII letters,
a status code is trimmed. Read from JSON both are kept as they stand.
-/

namespace Wallet

/-- The code of an external provider. -/
structure ProviderCode where
  text : String
deriving DecidableEq, Inhabited

/-- A trimmed code whose ASCII letters are upper case. -/
def ProviderCode.of (s : String) : ProviderCode := ⟨(Text.trim s).toUpper⟩

/-- A status code that a provider answered with. -/
structure StatusCode where
  text : String
deriving DecidableEq, Inhabited

/-- A trimmed code. -/
def StatusCode.of (s : String) : StatusCode := ⟨Text.trim s⟩

instance : ToString ProviderCode := ⟨ProviderCode.text⟩

instance : ToString StatusCode := ⟨StatusCode.text⟩

instance : JsonForm ProviderCode :=
  ⟨fun c => toJson c.text, fun j => (ofJson? j).map ProviderCode.mk⟩

instance : JsonForm StatusCode := ⟨fun c => toJson c.text, fun j => (ofJson? j).map StatusCode.mk⟩

end Wallet
