import Wallet.Flow.Error
import Wallet.Saga.Basic

/-!
# Views of errors

An error is shown as the word for its kind and its message.
-/

namespace Wallet

/-- The view of an error. -/
def errorView (kind message : String) : Json :=
  .obj [("error", .str kind), ("message", .str message)]

def Crash.view (c : Crash) : Json := errorView "Panic" c.message

def OrderError.kind : OrderError → String
  | .invalidTransition _ _ => "InvalidStateTransition"
  | .alreadyLinked _ => "AlreadyLinked"
  | .expired _ => "Expired"

def OrderError.view (e : OrderError) : Json := errorView e.kind e.message

def TransactionError.kind : TransactionError → String
  | .notCancellable _ => "NotCancellable"
  | .invalidTransition _ _ => "InvalidTransition"

def TransactionError.view (e : TransactionError) : Json := errorView e.kind e.message

def ServiceError.kind : ServiceError → String
  | .notFound _ _ => "NotFound"
  | .rejected _ => "Rejected"
  | .conflict _ => "Conflict"
  | .expired _ => "Expired"
  | .unavailable _ => "Unavailable"

/-- The error with the kind and the text given; what was not found is a thing called by the text. -/
def ServiceError.ofKind (kind text : String) : ServiceError :=
  match kind with
  | "NotFound" => .notFound "Thing" text
  | "Rejected" => .rejected text
  | "Conflict" => .conflict text
  | "Expired" => .expired ((ofJson? (.str text)).getD default)
  | _ => .unavailable text

def ServiceError.view (e : ServiceError) : Json := errorView e.kind e.message

def SagaError.kind : SagaError → String
  | .emptyStepName _ => "EmptyStepName"
  | .missingForward _ _ => "MissingForward"
  | .duplicateStep _ _ => "DuplicateStep"

def SagaError.view (e : SagaError) : Json := errorView e.kind e.message

namespace FlowError

/-- The kind of an error; that of a collaborator or a record stands behind a point. -/
def kind : FlowError → String
  | .service e => "Service." ++ e.kind
  | .order e => "Order." ++ e.kind
  | .transaction e => "Transaction." ++ e.kind
  | .invalidRequest _ => "InvalidRequest"
  | .bankRejected _ _ => "BankRejected"
  | .pending _ => "Pending"
  | .otpRejected _ => "OtpRejected"
  | .voucherRejected _ => "VoucherRejected"

/-- A refusal of the bank is shown with its code. -/
def view (e : FlowError) : Json :=
  let refusal : List (String × Json) := match e with
    | .bankRejected code reason => [("code", toJson code), ("reason", .str reason)]
    | _ => []
  .obj ([("variant", .str e.kind), ("message", .str e.message),
    ("is_pending", .bool e.isPending)] ++ refusal)

end FlowError

end Wallet
