import Wallet.Proofs.Json.Forms
import Wallet.View.Record

/-!
# Orders and ledger records read back

What is written of an order or of a ledger record is read as the same order or record. An order that was
written before orders could wait for a one-time password lacks one field and is read as one that does
not wait.
-/

namespace Wallet

open Json

/-! ## Names -/

theorem OrderType.faithful (t : OrderType) : Faithful t :=
  ⟨.str t.name, ofName?_name (by decide) (by cases t <;> decide)⟩

theorem SourceOfFund.faithful (s : SourceOfFund) : Faithful s :=
  ⟨.str s.name, ofName?_name (by decide) (by cases s <;> decide)⟩

theorem OrderStatus.faithful (s : OrderStatus) : Faithful s :=
  ⟨.str s.name, ofName?_name (by decide) (by cases s <;> decide)⟩

theorem TransactionState.faithful (s : TransactionState) : Faithful s :=
  ⟨.str s.name, ofName?_name (by decide) (by cases s <;> decide)⟩

theorem TransactionStatus.faithful (s : TransactionStatus) : Faithful s :=
  ⟨.str s.name, ofName?_name (by decide) (by cases s <;> decide)⟩

/-! ## Orders -/

namespace Order

/-- The fields of an order that no stored order lacks. -/
def lastingFields (o : Order) : List (String × Json) := [
  ("id", toJson o.id), ("user_id", toJson o.userId), ("amount", toJson o.amount),
  ("order_type", toJson o.type), ("sub_type", toJson o.subType),
  ("source_of_fund", toJson o.sourceOfFund), ("provider", toJson o.provider),
  ("status", toJson o.status), ("transaction_id", toJson o.transactionId),
  ("bank_trace_id", toJson o.bankTraceId), ("created_at", toJson o.createdAt),
  ("updated_at", toJson o.updatedAt), ("expired_at", toJson o.expiredAt),
  ("fail_reason", toJson o.failReason), ("is_expired", toJson o.isExpired),
  ("is_retrieved", toJson o.isRetrieved)]

theorem toJson_eq (o : Order) :
    toJson o = .obj (o.lastingFields ++ [("awaiting_otp", toJson o.awaitingOtp)]) := rfl

theorem without_awaitingOtp (o : Order) : (toJson o).without ["awaiting_otp"] = o.lastingFields :=
  rfl

/-- None of the instants of the order is in a leap second. -/
structure LeapFree (o : Order) : Prop where
  createdAt : o.createdAt.isLeap = false
  updatedAt : o.updatedAt.isLeap = false
  expiredAt : o.expiredAt.isLeap = false

section Fields

variable {o : Order} (h : o.LeapFree)

include h

theorem proper_lastingFields : ∀ f ∈ o.lastingFields, f.2.Proper := by
  simp only [lastingFields, List.forall_mem_cons]
  exact ⟨(faithful_orderId _).proper, (faithful_userId _).proper, (faithful_money _).proper,
    o.type.faithful.proper, (faithful_option rfl faithful_string _).proper,
    o.sourceOfFund.faithful.proper, (faithful_option rfl faithful_providerCode _).proper,
    o.status.faithful.proper, (faithful_option rfl faithful_transactionId _).proper,
    (faithful_option rfl faithful_string _).proper, (faithful_timestamp h.createdAt).proper,
    (faithful_timestamp h.updatedAt).proper, (faithful_timestamp h.expiredAt).proper,
    (faithful_option rfl faithful_string _).proper, (faithful_bool _).proper,
    (faithful_bool _).proper, nofun⟩

/-- An order is read from its fields, wherever they stand and whatever else stands there. -/
theorem ofJson?_obj {fields : List (String × Json)}
    (hfields : ∀ f ∈ o.lastingFields, fields.lookup f.1 = some f.2) {awaiting : Bool}
    (hawaiting : fields.lookup "awaiting_otp" = some (toJson awaiting) ∨
      fields.lookup "awaiting_otp" = none ∧ awaiting = false) :
    ofJson? (.obj fields) = some { o with awaitingOtp := awaiting } := by
  simp only [lastingFields, List.forall_mem_cons] at hfields
  obtain ⟨hid, huserId, hamount, htype, hsubType, hsourceOfFund, hprovider, hstatus, htransactionId,
    hbankTraceId, hcreatedAt, hupdatedAt, hexpiredAt, hfailReason, hisExpired, hisRetrieved, -⟩ :=
    hfields
  show (some fields).bind _ = _
  rw [Option.bind_some]
  have hread : ofJson? (toJson awaiting) = some awaiting := (faithful_bool awaiting).read
  rcases hawaiting with hlast | ⟨hlast, rfl⟩
  all_goals
    simp only [hlast, hread, Option.bind_eq_bind, Option.bind_some,
      need_of_lookup (faithful_orderId _) hid,
      need_of_lookup (faithful_userId _) huserId,
      need_of_lookup (faithful_money _) hamount,
      need_of_lookup o.type.faithful htype,
      optional_of_lookup (faithful_option rfl faithful_string _) hsubType,
      need_of_lookup o.sourceOfFund.faithful hsourceOfFund,
      optional_of_lookup (faithful_option rfl faithful_providerCode _) hprovider,
      need_of_lookup o.status.faithful hstatus,
      optional_of_lookup (faithful_option rfl faithful_transactionId _) htransactionId,
      optional_of_lookup (faithful_option rfl faithful_string _) hbankTraceId,
      need_of_lookup (faithful_timestamp h.createdAt) hcreatedAt,
      need_of_lookup (faithful_timestamp h.updatedAt) hupdatedAt,
      need_of_lookup (faithful_timestamp h.expiredAt) hexpiredAt,
      optional_of_lookup (faithful_option rfl faithful_string _) hfailReason,
      need_of_lookup (faithful_bool _) hisExpired,
      need_of_lookup (faithful_bool _) hisRetrieved]

end Fields

theorem names_fields (o : Order) :
    (o.lastingFields ++ [("awaiting_otp", toJson o.awaitingOtp)]).map Prod.fst = fieldNames := rfl

theorem nodup_fieldNames : fieldNames.Nodup := by decide

theorem nodup_lastingFields (o : Order) : (o.lastingFields.map Prod.fst).Nodup := by
  have hnames := nodup_fieldNames
  rw [← names_fields o, List.map_append] at hnames
  exact (List.nodup_append.mp hnames).1

theorem faithful {o : Order} (h : o.LeapFree) : Faithful o := by
  have hdistinct : ((o.lastingFields ++ [("awaiting_otp", toJson o.awaitingOtp)]).map
      Prod.fst).Nodup := nodup_fieldNames
  refine ⟨?_, ?_⟩
  · rw [toJson_eq]
    refine .obj _ ?_ hdistinct
    rw [List.forall_mem_append]
    exact ⟨proper_lastingFields h, List.forall_mem_singleton.mpr (faithful_bool _).proper⟩
  · rw [toJson_eq]
    exact ofJson?_obj h (fun f hf => lookup_of_mem hdistinct (List.mem_append_left _ hf))
      (.inl (lookup_of_mem hdistinct (List.mem_append_right _ (.head _))))

/-- An order whose last field was never written is read as one that does not wait for a password. -/
theorem parse_without_awaitingOtp {o : Order} (h : o.LeapFree) :
    (parse? (render (.obj ((toJson o).without ["awaiting_otp"])))).bind ofJson? =
      some { o with awaitingOtp := false } := by
  have hproper : Proper (.obj o.lastingFields) :=
    .obj _ (proper_lastingFields h) o.nodup_lastingFields
  have hnone : o.lastingFields.lookup "awaiting_otp" = none := rfl
  rw [without_awaitingOtp, parse?_render hproper, Option.bind_some]
  exact ofJson?_obj h (fun f hf => lookup_of_mem o.nodup_lastingFields hf) (.inr ⟨hnone, rfl⟩)

end Order

/-! ## Ledger records -/

namespace Transaction

def fields (t : Transaction) : List (String × Json) := [
  ("id", toJson t.id), ("order_id", toJson t.orderId), ("state", toJson t.state),
  ("status", toJson t.status), ("amount", toJson t.amount), ("fee", toJson t.fee),
  ("discount", toJson t.discount), ("payer_id", toJson t.payerId),
  ("payee_id", toJson t.payeeId), ("bank_trace_id", toJson t.bankTraceId),
  ("fail_reason", toJson t.failReason), ("created_at", toJson t.createdAt),
  ("updated_at", toJson t.updatedAt)]

theorem toJson_eq (t : Transaction) : toJson t = .obj t.fields := rfl

theorem nodup_fields (t : Transaction) : (t.fields.map Prod.fst).Nodup := by
  show fieldNames.Nodup
  decide

/-- None of the instants of the record is in a leap second. -/
structure LeapFree (t : Transaction) : Prop where
  createdAt : t.createdAt.isLeap = false
  updatedAt : t.updatedAt.isLeap = false

variable {t : Transaction}

theorem proper_fields (h : t.LeapFree) : ∀ f ∈ t.fields, f.2.Proper := by
  simp only [fields, List.forall_mem_cons]
  exact ⟨(faithful_transactionId _).proper, (faithful_orderId _).proper, t.state.faithful.proper,
    t.status.faithful.proper, (faithful_money _).proper, (faithful_money _).proper,
    (faithful_money _).proper, (faithful_option rfl faithful_userId _).proper,
    (faithful_option rfl faithful_userId _).proper, (faithful_option rfl faithful_string _).proper,
    (faithful_option rfl faithful_string _).proper, (faithful_timestamp h.createdAt).proper,
    (faithful_timestamp h.updatedAt).proper, nofun⟩

/-- A record is read from its fields, wherever they stand and whatever else stands there. -/
theorem ofJson?_obj (h : t.LeapFree) {fs : List (String × Json)}
    (hfields : ∀ f ∈ t.fields, fs.lookup f.1 = some f.2) : ofJson? (.obj fs) = some t := by
  simp only [fields, List.forall_mem_cons] at hfields
  obtain ⟨hid, horderId, hstate, hstatus, hamount, hfee, hdiscount, hpayerId, hpayeeId,
    hbankTraceId, hfailReason, hcreatedAt, hupdatedAt, -⟩ := hfields
  show (some fs).bind _ = _
  rw [Option.bind_some]
  simp only [Option.bind_eq_bind, Option.bind_some,
    need_of_lookup (faithful_transactionId _) hid,
    need_of_lookup (faithful_orderId _) horderId,
    need_of_lookup t.state.faithful hstate,
    need_of_lookup t.status.faithful hstatus,
    need_of_lookup (faithful_money _) hamount,
    need_of_lookup (faithful_money _) hfee,
    need_of_lookup (faithful_money _) hdiscount,
    optional_of_lookup (faithful_option rfl faithful_userId _) hpayerId,
    optional_of_lookup (faithful_option rfl faithful_userId _) hpayeeId,
    optional_of_lookup (faithful_option rfl faithful_string _) hbankTraceId,
    optional_of_lookup (faithful_option rfl faithful_string _) hfailReason,
    need_of_lookup (faithful_timestamp h.createdAt) hcreatedAt,
    need_of_lookup (faithful_timestamp h.updatedAt) hupdatedAt]

theorem faithful (h : t.LeapFree) : Faithful t := by
  refine ⟨?_, ?_⟩
  · rw [toJson_eq]
    exact .obj _ (proper_fields h) t.nodup_fields
  · rw [toJson_eq]
    exact ofJson?_obj h fun f hf => lookup_of_mem t.nodup_fields hf

end Transaction

/-! ## Both -/

/-- Orders and ledger records are what the texts of their JSON forms stand for. Without the field that
says that it waits for a one-time password an order is read as one that does not, else unchanged. -/
theorem records_read_back :
    (∀ o : Order, o.LeapFree →
      (parse? (toJson o).render).bind ofJson? = some o ∧
      (parse? (render (.obj ((toJson o).without ["awaiting_otp"])))).bind ofJson? =
        some { o with awaitingOtp := false }) ∧
    ∀ t : Transaction, t.LeapFree → (parse? (toJson t).render).bind ofJson? = some t :=
  ⟨fun _ h => ⟨(Order.faithful h).parse, Order.parse_without_awaitingOtp h⟩,
    fun _ h => (Transaction.faithful h).parse⟩

/-- A card purchase that waits for a one-time password, dated to the last nanosecond there is. -/
def purchaseAwaited : Order where
  id := ⟨.stamped 1700000000123 7⟩
  userId := ⟨.ofNat 255⟩
  amount := (Money.ofInt? 9223372036854775807).getD .zero
  type := .cardPurchase
  subType := some "\"gift\"\t\x1f"
  sourceOfFund := .linkedBank
  provider := some ⟨"NAPAS"⟩
  status := .processing
  transactionId := some ⟨.stamped 1700000000123 8⟩
  bankTraceId := some ""
  createdAt := .last
  updatedAt := (Timestamp.ofParts? (-8334601228800) 1000).getD .epoch
  expiredAt := (Timestamp.ofParts? 1700000900 120000000).getD .epoch
  failReason := none
  isExpired := false
  isRetrieved := true
  awaitingOtp := true

/-- The record of its money, with a discount that no amount comes below. -/
def purchaseRecord : Transaction :=
  { Transaction.create ⟨.stamped 1700000000123 8⟩ .last purchaseAwaited.id .zero with
    fee := purchaseAwaited.amount
    discount := (Money.ofInt? (-9223372036854775808)).getD .zero
    payeeId := some ⟨.ofNat 255⟩
    failReason := some "ngân hàng \\ từ chối" }

theorem records_read_back_purchase : purchaseAwaited.LeapFree ∧ purchaseRecord.LeapFree ∧
    (parse? (toJson purchaseAwaited).render).bind ofJson? = some purchaseAwaited ∧
    (parse? (render (.obj ((toJson purchaseAwaited).without ["awaiting_otp"])))).bind ofJson? =
      some { purchaseAwaited with awaitingOtp := false } ∧
    (parse? (toJson purchaseRecord).render).bind ofJson? = some purchaseRecord := by
  have horder : purchaseAwaited.LeapFree := ⟨rfl, rfl, rfl⟩
  have hrecord : purchaseRecord.LeapFree := ⟨rfl, rfl⟩
  obtain ⟨horders, hrecords⟩ := records_read_back
  obtain ⟨hwhole, hwithout⟩ := horders purchaseAwaited horder
  exact ⟨horder, hrecord, hwhole, hwithout, hrecords purchaseRecord hrecord⟩

end Wallet
