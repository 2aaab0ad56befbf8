import Wallet.Flow.Payment
import Wallet.Reconciliation.Sweep
import Wallet.Services
import Wallet.VirtualAccount.Registry
import Wallet.Worker.Settings

/-!
# A worker process

Services in memory wired up as the settings say. Only making the pool and opening the compensation
context of a flow can stop the process.
-/

namespace Wallet

/-- A worker process. -/
structure Worker where
  services : Services
  flows : FlowSettings
  reconciler : Reconciler
  /-- The bank that keeps the virtual accounts, if there is one. -/
  vaProvider : Option VaProvider

namespace Worker

/-- The bank whose code the settings give; a code no bank has disables virtual accounts. -/
def selectVa (s : Settings) : Option VaProvider :=
  s.vaProvider.bind fun code =>
    (((VaRegistry.ofProviders VaProvider.all).select code).map VaGateway.provider).toOption

/-- Starts a process with empty services. -/
def start (s : Settings) (clock : Timestamp) : Except Crash Worker := do
  let pool ← Pool.create s.poolConfig
  .ok {
    services := .start pool [.events] clock
    flows := ⟨.standard, s.flowConfig⟩
    reconciler := ⟨.standard, s.reconciliationConfig⟩
    vaProvider := selectVa s }

/-- Runs a program on the services of the process. -/
def run {α : Type} (w : Worker) (p : Program α) : α × Worker :=
  let (a, services) := w.services.run p
  (a, { w with services := services })

/-- Runs the jobs that the pool has accepted. -/
def runJobs (w : Worker) : Worker := { w with services := w.services.runJobs }

end Worker

end Wallet
