import Wallet.VirtualAccount.Gateway

/-!
# The gateways of a process

One gateway for each partner bank at most; a gateway is selected by the code of its bank. Through
the service a gateway's answers are classified.
-/

namespace Wallet

/-- The gateways by partner bank. -/
structure VaRegistry where
  gateways : Table VaProvider VaGateway

namespace VaRegistry

def empty : VaRegistry := ⟨.empty⟩

instance : Inhabited VaRegistry := ⟨empty⟩

/-- Registers a gateway in place of the one its bank had. -/
def register (r : VaRegistry) (g : VaGateway) : VaRegistry := ⟨r.gateways.put g.provider g⟩

/-- A registry of new gateways. -/
def ofProviders (ps : List VaProvider) : VaRegistry :=
  ps.foldl (fun r p => r.register (.create p)) empty

def get (r : VaRegistry) (p : VaProvider) : Except ServiceError VaGateway :=
  match r.gateways.get? p with
  | some g => .ok g
  | none => .error (.notFound "VirtualAccountGateway" p.name)

/-- The gateway of the bank that a code names. -/
def select (r : VaRegistry) (code : ProviderCode) : Except ServiceError VaGateway := do
  r.get (← VaProvider.ofCode code)

/-- The banks that have a gateway, by name. -/
def providers (r : VaRegistry) : List VaProvider := VaProvider.all.filter (· ∈ r.gateways.keys)

end VaRegistry

/-- The answer of a gateway, classified. -/
def VaResponse.classified (c : Classifier) (r : VaResponse) : Classified VirtualAccount :=
  .of c r.response r.account

end Wallet
