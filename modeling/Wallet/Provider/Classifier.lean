import Wallet.Provider.Code
import Wallet.Provider.Outcome

/-!
# Classification of status codes

A classifier designates exact codes; every other code is classified by its first character: `2` is
success, `4` a failure, all else unknown. Designations and the classifiers of a registry are kept
latest first, so that the latest of two with one key counts.
-/

namespace Wallet

/-- What exact codes mean, latest designation first. -/
structure Classifier where
  designated : List (StatusCode × Outcome)
deriving DecidableEq

namespace Classifier

/-- The classifier with no designated codes. -/
def plain : Classifier := ⟨[]⟩

/-- Routes an exact code to an outcome. -/
def designate (c : Classifier) (code : StatusCode) (outcome : Outcome) : Classifier :=
  ⟨(code, outcome) :: c.designated⟩

/-- The standard designations. -/
def standard : Classifier :=
  plain
    |>.designate (.of "102") .verifying
    |>.designate (.of "103") .needsOtp
    |>.designate (.of "405") .notEligibleForBypass
    |>.designate (.of "406") .maxOtpAttemptsExceeded
    |>.designate (.of "407") .wrongOtp

/-- The meaning of a code that is not designated. -/
def byFirst (code : StatusCode) : Outcome :=
  match code.text.toList with
  | '2' :: _ => .success
  | '4' :: _ => .failure
  | _ => .verifying

def classify (c : Classifier) (code : StatusCode) : Outcome :=
  (c.designated.lookup code).getD (byFirst code)

end Classifier

/-- A classifier for each provider that has its own, latest first, and one for all others. -/
structure ClassifierRegistry where
  fallback : Classifier
  providers : List (ProviderCode × Classifier)

namespace ClassifierRegistry

def ofFallback (c : Classifier) : ClassifierRegistry := ⟨c, []⟩

/-- The registry in which every provider uses the standard designations. -/
def standard : ClassifierRegistry := ofFallback .standard

/-- Gives a provider a classifier of its own. -/
def register (r : ClassifierRegistry) (provider : ProviderCode) (c : Classifier) :
    ClassifierRegistry :=
  ⟨r.fallback, (provider, c) :: r.providers⟩

def forProvider (r : ClassifierRegistry) (provider : Option ProviderCode) : Classifier :=
  (provider.bind fun p => r.providers.lookup p).getD r.fallback

def classify (r : ClassifierRegistry) (provider : Option ProviderCode) (code : StatusCode) :
    Outcome :=
  (r.forProvider provider).classify code

end ClassifierRegistry

end Wallet
