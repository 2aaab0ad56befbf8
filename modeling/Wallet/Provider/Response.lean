import Wallet.Provider.Classifier

/-!
# Responses of providers

A provider's answer before and after its code has been classified.
-/

namespace Wallet

open Json

/-- An answer as the provider gave it. -/
structure ProviderResponse where
  code : StatusCode
  traceId : Option String
  message : Option String
deriving DecidableEq

namespace ProviderResponse

/-- An answer with a code and nothing else. -/
def ofCode (code : StatusCode) : ProviderResponse := ⟨code, none, none⟩

/-- What the answer tells a user: its message, or its code where it has none. -/
def reason (r : ProviderResponse) : String :=
  r.message.getD s!"provider returned code {r.code}"

instance : JsonForm ProviderResponse where
  toJson r :=
    .obj [("code", toJson r.code), ("trace_id", toJson r.traceId), ("message", toJson r.message)]
  ofJson? j := do
    let fields ← record? ["code", "trace_id", "message"] 0 j
    some ⟨← need fields "code", ← optional fields "trace_id", ← optional fields "message"⟩

end ProviderResponse

/-- A classified answer with what came along with it. -/
structure Classified (α : Type) where
  outcome : Outcome
  response : ProviderResponse
  payload : Option α

/-- Classifies an answer by its code. -/
def Classified.of {α : Type} (c : Classifier) (response : ProviderResponse) (payload : Option α) :
    Classified α :=
  ⟨c.classify response.code, response, payload⟩

end Wallet
