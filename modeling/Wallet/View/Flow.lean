import Wallet.Flow.Payment
import Wallet.View.Error
import Wallet.View.Execution

/-!
# Views of flows
-/

namespace Wallet

def FlowOutcome.view (o : FlowOutcome) : Json := .obj [
  ("order_id", toJson o.orderId), ("next_action", toJson o.nextAction),
  ("is_success", .bool o.isSuccess), ("is_pending", .bool o.isPending),
  ("execution", .obj (o.execution.fields FlowError.view))]

end Wallet
