import Wallet.Id

/-!
# Notifications

What users are told about their orders, in the sequence in which it was delivered.
-/

namespace Wallet

open Json

/-- What a notification is about. -/
inductive NotificationKind where
  | orderSucceeded
  | orderFailed
  | orderVerifying
  | otpRequired
deriving DecidableEq, Repr

namespace NotificationKind

def name : NotificationKind → String
  | .orderSucceeded => "order_succeeded"
  | .orderFailed => "order_failed"
  | .orderVerifying => "order_verifying"
  | .otpRequired => "otp_required"

instance : JsonForm NotificationKind :=
  ⟨fun k => .str k.name,
    Json.ofName? [.orderSucceeded, .orderFailed, .orderVerifying, .otpRequired] name⟩

end NotificationKind

/-- A message to a user about an order. -/
structure Notification where
  userId : UserId
  orderId : OrderId
  kind : NotificationKind
  message : String
deriving DecidableEq

instance : JsonForm Notification where
  toJson n := .obj [("user_id", toJson n.userId), ("order_id", toJson n.orderId),
    ("kind", toJson n.kind), ("message", toJson n.message)]
  ofJson? j := do
    let fields ← record? ["user_id", "order_id", "kind", "message"] 0 j
    some ⟨← need fields "user_id", ← need fields "order_id", ← need fields "kind",
      ← need fields "message"⟩

/-- The notifications delivered so far, oldest first. -/
structure Notifier where
  sent : List Notification
deriving Inhabited

namespace Notifier

def empty : Notifier := ⟨[]⟩

def deliver (n : Notifier) (message : Notification) : Notifier := ⟨n.sent ++ [message]⟩

/-- The kinds of the notifications about one order. -/
def sentFor (n : Notifier) (id : OrderId) : List NotificationKind :=
  (n.sent.filter fun m => m.orderId = id).map Notification.kind

end Notifier

end Wallet
