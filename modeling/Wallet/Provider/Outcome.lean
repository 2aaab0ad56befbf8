import Wallet.Json.Basic

/-!
# Outcomes

What an external call means for an order, and the four kinds of outcome that flows and
reconciliation tell apart.
-/

namespace Wallet

/-- The business outcome of an external call. -/
inductive Outcome where
  | success
  /-- A definite failure. -/
  | failure
  /-- Unknown; never taken for a failure. -/
  | verifying
  /-- The user has to enter a one-time password. -/
  | needsOtp
  /-- The user may not skip the one-time password. -/
  | notEligibleForBypass
  /-- No more one-time passwords are accepted. -/
  | maxOtpAttemptsExceeded
  /-- The one-time password was wrong. -/
  | wrongOtp
deriving DecidableEq, Repr

/-- The kind of an outcome. -/
inductive OutcomeKind where
  | success
  | failure
  | pending
  | needsAuth
deriving DecidableEq, Repr

namespace Outcome

def all : List Outcome :=
  [.success, .failure, .verifying, .needsOtp, .notEligibleForBypass, .maxOtpAttemptsExceeded,
    .wrongOtp]

def name : Outcome → String
  | .success => "success"
  | .failure => "failure"
  | .verifying => "verifying"
  | .needsOtp => "needs_otp"
  | .notEligibleForBypass => "not_eligible_for_bypass"
  | .maxOtpAttemptsExceeded => "max_otp_attempts_exceeded"
  | .wrongOtp => "wrong_otp"

def kind : Outcome → OutcomeKind
  | .success => .success
  | .failure | .notEligibleForBypass | .maxOtpAttemptsExceeded => .failure
  | .verifying => .pending
  | .needsOtp | .wrongOtp => .needsAuth

instance : JsonForm Outcome := ⟨fun o => .str o.name, Json.ofName? all name⟩

end Outcome

namespace OutcomeKind

def name : OutcomeKind → String
  | .success => "success"
  | .failure => "failure"
  | .pending => "pending"
  | .needsAuth => "needs_auth"

instance : JsonForm OutcomeKind :=
  ⟨fun k => .str k.name, Json.ofName? [.success, .failure, .pending, .needsAuth] name⟩

end OutcomeKind

end Wallet
