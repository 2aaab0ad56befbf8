import Wallet.Proofs.Store.Records

/-!
# Settled records

Any requests to the ledger in any sequence, each at an instant of its own and with the switches of
the ledger as they may stand then. A settled record refuses to be moved. Registering is the one
request that does not look at what is stored: it puts the record it is given in the place of a
settled one, and the same movement can then be settled once more.
-/

namespace Wallet

namespace Ledger

/-- A request at an instant, and how the switches of the ledger stand then. -/
structure Attempt where
  unavailable : Bool
  rejectInit : Option String
  failOnCancel : Bool
  now : Timestamp
  request : Request

/-- The ledger with its switches as an attempt finds them. -/
def under (l : Ledger) (a : Attempt) : Ledger :=
  { l with
    unavailable := a.unavailable, rejectInit := a.rejectInit, failOnCancel := a.failOnCancel }

/-- The answer to an attempt and the ledger it leaves. -/
def meet (l : Ledger) (a : Attempt) : Except ServiceError Transaction × Ledger :=
  (l.under a).serve a.now a.request

/-- Whether an attempt is answered without an error. -/
def grants (l : Ledger) (a : Attempt) : Bool := (l.meet a).1.isOk

/-- The ledger that attempts leave, one after the other. -/
def along (l : Ledger) (attempts : List Attempt) : Ledger :=
  attempts.foldl (fun l a => (l.meet a).2) l

theorem along_append (l : Ledger) (before after : List Attempt) :
    l.along (before ++ after) = (l.along before).along after :=
  List.foldl_append

/-- Whether an attempt is to register a record under an identifier. -/
def Attempt.registers (a : Attempt) (id : TransactionId) : Bool :=
  match a.request with
  | .init t => t.id == id
  | _ => false

/-- Whether one of the attempts registers a record under an identifier. -/
def reopens (l : Ledger) (id : TransactionId) : List Attempt → Bool
  | [] => false
  | a :: attempts => (a.registers id && l.grants a) || (l.meet a).2.reopens id attempts

variable {l : Ledger} {a : Attempt} {id : TransactionId} {t : Transaction} {now : Timestamp}

/-! ## One attempt -/

/-- Only a record that is not settled yet can be moved. -/
theorem Request.transition_open {r : Request} {t' : Transaction} (hmoves : r.moves? = some id)
    (h : r.transition now t = .ok t') : t.status.isFinal = false := by
  cases r with
  | init _ => cases hmoves
  | find _ => cases hmoves
  | confirm _ => exact Transaction.not_isFinal_of_canTransitionTo (Transaction.moveTo_ok h).1
  | setPending _ => exact Transaction.not_isFinal_of_canTransitionTo (Transaction.moveTo_ok h).1
  | fail _ _ => exact Transaction.not_isFinal_of_canTransitionTo (Transaction.fail_ok h).1
  | cancel _ _ =>
      exact Transaction.not_isFinal_of_canTransitionTo
        (Transaction.fail_ok (Transaction.cancel_ok h).2).1

/-- A settled record is not moved, and who asks for that is told so. -/
theorem meet_settled (hstored : l.get? id = some t) (hsettled : t.status.isFinal = true)
    (hmoves : a.request.moves? = some id) : ∃ e, l.meet a = (.error e, l.under a) := by
  rcases (l.under a).serve_moving_cases a.now hmoves with hrefused | ⟨u, u', hu, hmoved, _⟩
  · exact hrefused
  · cases hstored.symm.trans hu
    rw [Request.transition_open hmoves hmoved] at hsettled
    cases hsettled

/-- What a registration leaves under an identifier. -/
theorem meet_init (l : Ledger) (id : TransactionId) {u : Transaction}
    (hrequest : a.request = .init u) :
    (l.grants a = true ∧ (l.meet a).2.get? id = if id = u.id then some u else l.get? id) ∨
      (l.grants a = false ∧ (l.meet a).2.get? id = l.get? id) := by
  unfold grants meet
  rw [hrequest]
  simp only [serve, init]
  split
  · exact .inr ⟨rfl, rfl⟩
  · split
    · exact .inr ⟨rfl, rfl⟩
    · exact .inl ⟨rfl, Table.get?_put ..⟩

/-- A request that neither registers a record under an identifier nor moves the one that is there
leaves it as it is. -/
theorem meet_elsewhere (hregisters : a.registers id = false)
    (hmoves : a.request.moves? ≠ some id) : (l.meet a).2.get? id = l.get? id := by
  cases hmoved : a.request.moves? with
  | some other =>
      have hne : id ≠ other := fun heq => hmoves (heq ▸ hmoved)
      unfold meet
      rcases (l.under a).serve_moving_cases a.now hmoved with ⟨e, hserved⟩ | ⟨_, _, _, _, hserved⟩
      · rw [hserved]
        rfl
      · rw [hserved]
        exact get?_moved_of_ne hne
  | none =>
      -- what moves no record registers one or only looks
      cases hrequest : a.request with
      | init u =>
          have hne : id ≠ u.id := by
            rintro rfl
            simp [Attempt.registers, hrequest] at hregisters
          rcases l.meet_init id hrequest with ⟨_, hleft⟩ | ⟨_, hleft⟩
          · rw [hleft, if_neg hne]
          · exact hleft
      | find other =>
          unfold meet
          rw [hrequest]
          rfl
      | _ =>
          rw [hrequest] at hmoved
          cases hmoved

/-- An attempt changes a settled record exactly if it registers another one in its place. -/
theorem meet_changes_iff (hstored : l.get? id = some t) (hsettled : t.status.isFinal = true) :
    (l.meet a).2.get? id ≠ some t ↔
      ∃ u, a.request = .init u ∧ u.id = id ∧ u ≠ t ∧ l.grants a = true := by
  constructor
  · intro hchanged
    by_cases hmoves : a.request.moves? = some id
    · obtain ⟨e, hrefused⟩ := meet_settled hstored hsettled hmoves
      rw [hrefused] at hchanged
      exact absurd hstored hchanged
    · cases hregisters : a.registers id with
      | false => exact absurd ((meet_elsewhere hregisters hmoves).trans hstored) hchanged
      | true =>
          unfold Attempt.registers at hregisters
          split at hregisters
          · next u hrequest =>
              have hid : u.id = id := eq_of_beq hregisters
              rcases l.meet_init id hrequest with ⟨hgrants, hleft⟩ | ⟨_, hleft⟩
              · refine ⟨u, hrequest, hid, ?_, hgrants⟩
                rintro rfl
                rw [hleft, if_pos hid.symm] at hchanged
                exact hchanged rfl
              · exact absurd (hleft.trans hstored) hchanged
          · cases hregisters
  · rintro ⟨u, hrequest, hid, hne, hgrants⟩ hkept
    rcases l.meet_init id hrequest with ⟨_, hleft⟩ | ⟨hrefused, _⟩
    · rw [hleft, if_pos hid.symm] at hkept
      exact hne (Option.some.inj hkept)
    · rw [hrefused] at hgrants
      cases hgrants

/-! ## Any number of attempts -/

/-- A settled record is kept until a record is registered in its place. -/
theorem along_settled (hstored : l.get? id = some t) (hsettled : t.status.isFinal = true)
    {attempts : List Attempt} (hregistered : l.reopens id attempts = false) :
    (l.along attempts).get? id = some t := by
  induction attempts generalizing l with
  | nil => exact hstored
  | cons a attempts ih =>
      simp only [reopens, Bool.or_eq_false_iff, Bool.and_eq_false_iff] at hregistered
      obtain ⟨hfirst, hrest⟩ := hregistered
      refine ih ?_ hrest
      by_contra hchanged
      obtain ⟨u, hrequest, hid, _, hgrants⟩ := (meet_changes_iff hstored hsettled).mp hchanged
      rcases hfirst with hfirst | hfirst
      · simp [Attempt.registers, hrequest, hid] at hfirst
      · rw [hgrants] at hfirst
        cases hfirst

/-- Whatever is asked of the ledger after a record has been settled, in whatever sequence and however
its switches are set between: as long as no record is registered in its place, every request that
would move it is answered with an error and changes nothing, and the only request that changes it is
the registration of another record under its identifier. Until then it is stored as it was. -/
theorem settled_until_registered (l : Ledger) (before after : List Attempt) {id : TransactionId}
    {t : Transaction} (hstored : (l.along before).get? id = some t)
    (hsettled : t.status.isFinal = true) :
    (∀ between a rest, after = between ++ a :: rest →
      (l.along before).reopens id between = false →
        (a.request.moves? = some id → ∃ e, (l.along (before ++ between)).meet a =
          (.error e, (l.along (before ++ between)).under a)) ∧
        (((l.along (before ++ between)).meet a).2.get? id ≠ some t ↔
          ∃ u, a.request = .init u ∧ u.id = id ∧ u ≠ t ∧
            (l.along (before ++ between)).grants a = true)) ∧
    ((l.along before).reopens id after = false → (l.along (before ++ after)).get? id = some t) := by
  constructor
  · intro between a rest _ hregistered
    rw [along_append]
    have hkept := along_settled hstored hsettled hregistered
    exact ⟨meet_settled hkept hsettled, meet_changes_iff hkept hsettled⟩
  · intro hregistered
    rw [along_append]
    exact along_settled hstored hsettled hregistered

/-! ### A record that is registered twice -/

/-- A request to a ledger with all its switches off. -/
def Request.plainly (r : Request) : Attempt := ⟨false, none, false, default, r⟩

/-- A record of the ledger as it is made. -/
def movement : Transaction := .create default default default .zero

/-- The record is registered and confirmed. -/
def confirmation : List Attempt :=
  [(Request.init movement).plainly, (Request.confirm movement.id).plainly]

/-- A confirmed record can be neither failed nor confirmed again. -/
theorem settled_until_registered_confirmed :
    ∃ t, (empty.along confirmation).get? movement.id = some t ∧ t.status = .finish ∧
      (empty.along (confirmation ++ [(Request.fail movement.id "bank failed").plainly,
        (Request.confirm movement.id).plainly])).get? movement.id = some t := by
  have hstored : (empty.along confirmation).get? movement.id =
      some { movement with status := .finish, state := .resolved } := by decide
  obtain ⟨_, hkept⟩ := settled_until_registered empty confirmation
    [(Request.fail movement.id "bank failed").plainly, (Request.confirm movement.id).plainly]
    hstored rfl
  exact ⟨_, hstored, rfl, hkept (by decide)⟩

/-- A confirmed record is registered once more. It is initial again, and it is confirmed a second
time. -/
theorem settled_reopened : ∃ before after t,
    (empty.along before).get? movement.id = some t ∧ t.status.isFinal = true ∧
      (empty.along before).confirms = 1 ∧
      (empty.along (before ++ after.take 1)).get? movement.id = some movement ∧
      movement.status.isFinal = false ∧
      (empty.along (before ++ after)).confirms = 2 := by
  exact ⟨confirmation, confirmation, { movement with status := .finish, state := .resolved },
    by decide, rfl, by decide, by decide, rfl, by decide⟩

end Ledger

end Wallet
