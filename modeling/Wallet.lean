import Wallet.Crash
import Wallet.Flow.Config
import Wallet.Flow.Error
import Wallet.Flow.Forward
import Wallet.Flow.Park
import Wallet.Flow.Payment
import Wallet.Flow.Request
import Wallet.Flow.Rollback
import Wallet.Flow.State
import Wallet.Id
import Wallet.Json.Basic
import Wallet.Json.Reader
import Wallet.Json.Texts
import Wallet.Json.Writer
import Wallet.Metrics
import Wallet.Money
import Wallet.Order.Basic
import Wallet.Order.Change
import Wallet.Order.Form
import Wallet.Order.Status
import Wallet.Order.Type
import Wallet.Pool.Basic
import Wallet.Pool.Jobs
import Wallet.Program
import Wallet.Proofs.Asking.Basic
import Wallet.Proofs.Asking.Flow
import Wallet.Proofs.Asking.Reachable
import Wallet.Proofs.Changes
import Wallet.Proofs.Consistency.Basic
import Wallet.Proofs.Consistency.Flow
import Wallet.Proofs.Consistency.Reachable
import Wallet.Proofs.Consistency.Stages
import Wallet.Proofs.Consistency.Sweep
import Wallet.Proofs.Context.Basic
import Wallet.Proofs.Context.Waiting
import Wallet.Proofs.Figures.Bill
import Wallet.Proofs.Figures.Drafts
import Wallet.Proofs.Figures.Flow
import Wallet.Proofs.Figures.Parts
import Wallet.Proofs.Figures.Play
import Wallet.Proofs.Figures.Scenes
import Wallet.Proofs.Figures.Terms
import Wallet.Proofs.Flow.Calls
import Wallet.Proofs.Flow.Chain
import Wallet.Proofs.Flow.Effects
import Wallet.Proofs.Flow.Endures
import Wallet.Proofs.Flow.Ensures
import Wallet.Proofs.Flow.Futile
import Wallet.Proofs.Flow.Leaves
import Wallet.Proofs.Flow.Linking
import Wallet.Proofs.Flow.Path
import Wallet.Proofs.Flow.Protection
import Wallet.Proofs.Flow.Reaches
import Wallet.Proofs.Flow.Smooth
import Wallet.Proofs.Flow.Steps
import Wallet.Proofs.Identifiers
import Wallet.Proofs.Isolation.Basic
import Wallet.Proofs.Isolation.Calls
import Wallet.Proofs.Isolation.Flow
import Wallet.Proofs.Isolation.Parts
import Wallet.Proofs.Isolation.Play
import Wallet.Proofs.Isolation.Rules
import Wallet.Proofs.Isolation.Services
import Wallet.Proofs.Json.Forms
import Wallet.Proofs.Json.Records
import Wallet.Proofs.Json.Text
import Wallet.Proofs.Metrics.Balance
import Wallet.Proofs.Metrics.Flow
import Wallet.Proofs.Metrics.Marks
import Wallet.Proofs.Metrics.Plays
import Wallet.Proofs.Metrics.Process
import Wallet.Proofs.Metrics.Sweeps
import Wallet.Proofs.Order.InPlace
import Wallet.Proofs.Payment.Basic
import Wallet.Proofs.Payment.Flow
import Wallet.Proofs.Payment.Run
import Wallet.Proofs.Pool.Idle
import Wallet.Proofs.Provider.Codes
import Wallet.Proofs.Provider.Designations
import Wallet.Proofs.Reasons.Basic
import Wallet.Proofs.Reasons.Parts
import Wallet.Proofs.Reasons.Play
import Wallet.Proofs.Reconciliation.Accounts
import Wallet.Proofs.Reconciliation.Attains
import Wallet.Proofs.Reconciliation.Decision
import Wallet.Proofs.Reconciliation.Evidence
import Wallet.Proofs.Reconciliation.Footprint
import Wallet.Proofs.Reconciliation.Interleaved
import Wallet.Proofs.Reconciliation.Overtaken
import Wallet.Proofs.Reconciliation.Retried
import Wallet.Proofs.Reconciliation.Rounds
import Wallet.Proofs.Reconciliation.Sweeping
import Wallet.Proofs.Reconciliation.Twice
import Wallet.Proofs.Reconciliation.Twins
import Wallet.Proofs.Reconciliation.Verdict
import Wallet.Proofs.Saga.Building
import Wallet.Proofs.Saga.Cut
import Wallet.Proofs.Saga.Enact
import Wallet.Proofs.Saga.Play
import Wallet.Proofs.Saga.Watch
import Wallet.Proofs.Standing.Basic
import Wallet.Proofs.Standing.Flow
import Wallet.Proofs.Standing.Paid
import Wallet.Proofs.Standing.Reachable
import Wallet.Proofs.Standing.Stages
import Wallet.Proofs.Standing.Sweep
import Wallet.Proofs.Store.Actors
import Wallet.Proofs.Store.Balance
import Wallet.Proofs.Store.Basic
import Wallet.Proofs.Store.Calls
import Wallet.Proofs.Store.Listing
import Wallet.Proofs.Store.Overdue
import Wallet.Proofs.Store.Records
import Wallet.Proofs.Store.Settled
import Wallet.Proofs.Telling.Basic
import Wallet.Proofs.Telling.Flow
import Wallet.Proofs.Telling.Play
import Wallet.Proofs.Telling.Pool
import Wallet.Proofs.Telling.Reachable
import Wallet.Proofs.Telling.Undoing
import Wallet.Proofs.Text.Numerals
import Wallet.Proofs.Time.Calendar
import Wallet.Proofs.Time.Deadline
import Wallet.Proofs.Time.Text
import Wallet.Proofs.Transaction.NetAmount
import Wallet.Proofs.Undoing.Again
import Wallet.Proofs.Undoing.Basic
import Wallet.Proofs.Undoing.Parts
import Wallet.Proofs.Undoing.Play
import Wallet.Proofs.Versions.Basic
import Wallet.Proofs.Versions.Flow
import Wallet.Proofs.Versions.Reachable
import Wallet.Proofs.Versions.Sweep
import Wallet.Proofs.VirtualAccount.Books
import Wallet.Proofs.Vouchers.Basic
import Wallet.Proofs.Vouchers.Flow
import Wallet.Proofs.Vouchers.Reachable
import Wallet.Proofs.Vouchers.Sweep
import Wallet.Proofs.Worker.Crashes
import Wallet.Proofs.World.Basic
import Wallet.Proofs.World.Books
import Wallet.Proofs.World.Gist
import Wallet.Proofs.World.Kept
import Wallet.Proofs.World.Run
import Wallet.Proofs.World.Schedule
import Wallet.Proofs.World.Tally
import Wallet.Proofs.World.Writes
import Wallet.Provider.Classifier
import Wallet.Provider.Code
import Wallet.Provider.Form
import Wallet.Provider.Outcome
import Wallet.Provider.Response
import Wallet.Reconciliation.Config
import Wallet.Reconciliation.Report
import Wallet.Reconciliation.Scheduler
import Wallet.Reconciliation.Sweep
import Wallet.Saga.Basic
import Wallet.Saga.Context
import Wallet.Saga.Log
import Wallet.Saga.Outcome
import Wallet.Saga.Play
import Wallet.Saga.State
import Wallet.Saga.Step
import Wallet.Service.Bank
import Wallet.Service.Error
import Wallet.Service.Ledger
import Wallet.Service.Notifier
import Wallet.Service.OrderStore
import Wallet.Service.Promotion
import Wallet.Services
import Wallet.Table
import Wallet.Task.Basic
import Wallet.Task.Services
import Wallet.Text.Blank
import Wallet.Text.Numeral
import Wallet.Text.Quoted
import Wallet.Text.Unseen
import Wallet.Time.Civil
import Wallet.Time.Duration
import Wallet.Time.Timestamp
import Wallet.Transaction.Basic
import Wallet.Transaction.Change
import Wallet.Transaction.Form
import Wallet.Transaction.Status
import Wallet.View.Error
import Wallet.View.Execution
import Wallet.View.Flow
import Wallet.View.Record
import Wallet.View.Service
import Wallet.View.Worker
import Wallet.VirtualAccount.Basic
import Wallet.VirtualAccount.Gateway
import Wallet.VirtualAccount.Registry
import Wallet.Worker.Http
import Wallet.Worker.Process
import Wallet.Worker.Settings
