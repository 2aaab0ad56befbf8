import Wallet.Proofs.Flow.Path

/-!
# Paths of the flows

The path of a flow is put together of what the parts of its steps ensure. What a play stops with may
depend on its error, and what is ensured is said of the whole past. An undoing action that comes too
late changes nothing, so from where it leads back it has to be possible to stay.
-/

namespace Wallet.Flow

variable {s : FlowState} {p : Past}

/-- What holds at the end of the part of a step. Its error is kept as the reason, if it has one. -/
def Leads (B : Stage) (S : Stops) (name : String) (r : Except FlowError Unit) (s : FlowState)
    (p : Past) : Prop :=
  Onward B S name r (keepReason r s) p

/-- A part that undoes a step leads back to `R`, whether it fails or not. -/
def Reverts (part : StepM Unit) (S R : Stage) : Prop :=
  ∀ {s p}, S s p → Ensures part s p fun r s p => R (keepReason r s) p

namespace Path

section

variable {A B C : Stage} {R S T : Stops} {name : String} {rest : List (Step FlowError FlowM)}
  {forward compensate : StepM Unit}

theorem throughStep (hstop : ∀ {s p}, A s p → R (.cancelled name) s p)
    (hforward : ∀ {s p}, A s p → Ensures forward s p (Leads B S name))
    (hback : ∀ {e s p}, S e s p → R e s p) (hrest : Path B S rest C T) :
    Path A R (Flow.step name forward :: rest) C T := by
  refine .cons ?_ ?_ (fun e => ⟨fun _ _ _ => hback, nofun, nofun⟩) hrest
  · intro c s p hA
    exact (R _).conduct (c := .hasEnded c) true trivial (hstop hA)
  · intro c s p hA
    exact (ends_action forward c _).mpr (hforward hA)

theorem throughUndoable (hstop : ∀ {s p}, A s p → R (.cancelled name) s p)
    (hforward : ∀ {s p}, A s p → Ensures forward s p (Leads B S name))
    (hback : ∀ {e s p}, S e s p → R e s p) (hundo : ∀ e, Reverts compensate (S e) (R e))
    (hrest : Path B S rest C T) :
    Path A R (Flow.undoableStep name forward compensate :: rest) C T := by
  refine .cons ?_ ?_ (fun e => ⟨nofun, ?_, ?_⟩) hrest
  · intro c s p hA
    exact (R _).conduct (c := .hasEnded c) true trivial (hstop hA)
  · intro c s p hA
    exact (ends_action forward c _).mpr (hforward hA)
  · rintro action ⟨⟩ c s p hS
    exact (ends_action compensate c _).mpr (hundo e hS)
  · intro _ _ c saga s p hS
    have hR := (R e).conduct (c := .hasEnded c) true trivial (hback hS)
    exact (R e).conduct (c := .count _) () trivial hR

/-! ## The flows -/

/-- The last two steps lead from `A` through `B` to `C`, and a play that stops on the way has to be
undone from `R`. -/
theorem throughFinalSteps (hasked : ∀ {s p}, A s p → R (.cancelled "confirm_ledger") s p)
    (hconfirm : ∀ {s p}, A s p → Ensures confirmLedger s p (Leads B R "confirm_ledger"))
    (hconfirmed : ∀ {s p}, B s p → R (.cancelled "success_order") s p)
    (hsuccess : ∀ {s p}, B s p → Ensures successOrder s p (Leads C R "success_order")) :
    Path A R finalSteps C R := by
  have hlast : Path B R [Flow.step "success_order" successOrder] C R :=
    throughStep hconfirmed hsuccess id (.nil C R)
  exact throughStep hasked hconfirm id hlast

/-- A payment leads from `A` through `B`, once its order was created, `C`, once it is processing,
and `D`, once it is linked to its record, to `E`, once the bank was asked. Undoing leads back from
`U`, if the record was to be registered, over `S` to `R`. -/
theorem throughPayment {A B C D E Z : Stage} {R S U : Stops} {settings : FlowSettings}
    {withVoucher : Bool}
    (hbegun : ∀ {s p}, A s p → R (.cancelled "init_order") s p)
    (hinit : ∀ {s p}, A s p → Ensures (initOrder settings) s p (Leads B R "init_order"))
    (hdrafted : ∀ {s p}, B s p → R (.cancelled "process_order") s p)
    (hprocess : ∀ {s p}, B s p → Ensures processOrder s p (Leads C S "process_order"))
    (hstarted : ∀ {name s p}, C s p → S (.cancelled name) s p)
    (hvoucher : ∀ {s p}, C s p → Ensures applyVoucher s p (Leads C S "apply_voucher"))
    (hledger : ∀ {s p}, C s p → Ensures initLedger s p (Leads D U "init_ledger"))
    (hregistered : ∀ {s p}, D s p → U (.cancelled "call_bank") s p)
    (hbank : ∀ {s p}, D s p → Ensures (callBank settings) s p (Leads E U "call_bank"))
    (hspared : ∀ {e s p}, S e s p → R e s p) (hfail : ∀ e, Reverts failOrder (S e) (R e))
    (hreverse : ∀ e, Reverts reverseVoucher (S e) (S e))
    (huncancelled : ∀ {e s p}, U e s p → S e s p)
    (hcancel : ∀ e, Reverts cancelLedger (U e) (S e)) (hfinal : Path E U finalSteps Z U) :
    Path A R (paymentSteps settings withVoucher) Z U := by
  have hasked : Path D U (Flow.step "call_bank" (callBank settings) :: finalSteps) Z U :=
    throughStep hregistered hbank id hfinal
  have hentered : Path C S (Flow.undoableStep "init_ledger" initLedger cancelLedger ::
      Flow.step "call_bank" (callBank settings) :: finalSteps) Z U :=
    throughUndoable hstarted hledger huncancelled hcancel hasked
  have hdiscounted : Path C S (voucherSteps withVoucher ++
      Flow.undoableStep "init_ledger" initLedger cancelLedger ::
        Flow.step "call_bank" (callBank settings) :: finalSteps) Z U := by
    cases withVoucher with
    | false => exact hentered
    | true => exact throughUndoable hstarted hvoucher id hreverse hentered
  unfold paymentSteps
  rw [List.append_assoc, List.append_assoc, List.cons_append, List.cons_append]
  exact throughStep hbegun hinit id
    (throughUndoable hdrafted hprocess hspared hfail hdiscounted)

/-- A cash-in that is resumed leads from `A` through `L`, once its order was loaded, to `E`, once
the bank was asked. Undoing it leads back from `S` to `R`. -/
theorem throughOtp {A L E Z : Stage} {R S : Stops} {settings : FlowSettings} {otp : String}
    (hresumed : ∀ {s p}, A s p → R (.cancelled "load_order") s p)
    (hload : ∀ {s p}, A s p → Ensures loadOrder s p (Leads L R "load_order"))
    (hloaded : ∀ {s p}, L s p → R (.cancelled "verify_otp") s p)
    (hverify : ∀ {s p}, L s p → Ensures (verifyOtp settings otp) s p (Leads E S "verify_otp"))
    (hspared : ∀ {e s p}, S e s p → R e s p) (habort : ∀ e, Reverts abortOtp (S e) (R e))
    (hfinal : Path E S finalSteps Z S) : Path A R (otpSteps settings otp) Z S :=
  throughStep hresumed hload id (throughUndoable hloaded hverify hspared habort hfinal)

end

end Path

end Wallet.Flow
