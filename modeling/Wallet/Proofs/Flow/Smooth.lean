import Wallet.Proofs.Flow.Chain
import Wallet.Proofs.Flow.Reaches

/-!
# Smooth plays

A play is smooth if nothing goes wrong but what may, and if no undoing action is found to be too late.
Then it is enough to know what the parts of its steps reach: the paths of smooth plays are put
together of that.
-/

namespace Wallet

/-- An undoing action was not run because the compensation context had ended. -/
def CutShort (events : List Event) : Prop :=
  ∃ (c : Context) (saga : String),
    [Event.mk (.hasEnded c) true,
      Event.mk (.count (Saga.metric "saga_compensation_failures" saga)) ()] <:+: events

/-- Nothing has gone wrong but what may, and nothing was undone too late. -/
structure Smooth (may : Faults) (events : List Event) : Prop where
  permitted : Permitted may events
  inTime : ¬CutShort events

theorem CutShort.mono {events events' : List Event} (h : CutShort events)
    (hle : events <+: events') : CutShort events' := by
  obtain ⟨c, saga, hwithin⟩ := h
  exact ⟨c, saga, hwithin.trans hle.isInfix⟩

theorem Smooth.of_le {may : Faults} {events events' : List Event} (h : Smooth may events')
    (hle : events <+: events') : Smooth may events :=
  ⟨h.permitted.of_le hle, fun hcut => h.inTime (hcut.mono hle)⟩

variable {α : Type} {may : Faults} {s : FlowState} {p : Past}

/-- What was so at an earlier point may be used as long as nothing has gone wrong since. -/
theorem Program.Always.of_smooth {x : Program α} {Q : α → Past → Prop}
    (h : Smooth may p.events → x.Always p fun a p => Smooth may p.events → Q a p) :
    x.Always p fun a p => Smooth may p.events → Q a p := by
  by_cases hsmooth : Smooth may p.events
  · exact h hsmooth
  · apply (x.always_grows p).mono
    intro _ _ hle hend
    exact absurd (hend.of_le hle) hsmooth

namespace Flow

/-- What is said of the gist of a smooth play. -/
def Stage.smooth (may : Faults) (A : FlowState → Past → Prop) : Stage where
  Holds s p := Smooth may p.events → A s p.gist
  conduct {s p c} x hc h hsmooth := by
    have hsame : (p.note c x).gist = p.gist := by
      rw [Past.gist_note]
      cases c <;> first | rfl | cases hc
    rw [hsame]
    exact h (hsmooth.of_le (List.prefix_append _ _))

/-- For every error with which a smooth play may stop, what is said of its gist then. -/
def Stops.smooth (may : Faults) (R : ExecutionError FlowError → FlowState → Past → Prop) : Stops :=
  fun e => .smooth may (R e)

theorem not_smooth_tooLate {c : Context} {saga : String} :
    ¬Smooth may (tooLate p c saga).events := by
  intro h
  exact h.inTime ⟨c, saga, p.events, [], by simp [tooLate]⟩

/-! ## Steps -/

/-- What is said of the gist at the end of the part of a step, which may have failed. Its error is
kept as the reason then. -/
def Proceeds (B : FlowState → Past → Prop)
    (S : ExecutionError FlowError → FlowState → Past → Prop) (name : String)
    (r : Except FlowError Unit) (s : FlowState) (g : Past) : Prop :=
  match r with
  | .ok () => B s g
  | .error e => S (.failed name e) (keepReason (.error e) s) g

/-- A part that stops with the same whatever its error. -/
theorem Reaches.proceeds {part : StepM Unit} {name : String} {g : Past}
    {B S : FlowState → Past → Prop} (h : Reaches may part s g (Either B S))
    (hreason : ∀ {s g} (reason : Option String), S s g → S { s with failureReason := reason } g) :
    Reaches may part s g (Proceeds B (fun _ => S) name) := by
  apply h.mono
  intro r s g hr
  cases r with
  | ok u => exact hr
  | error e => exact hreason _ hr

theorem Reaches.kept {part : StepM Unit} {g : Past} {R : FlowState → Past → Prop}
    (h : Reaches may part s g fun _ s g => R s g)
    (hreason : ∀ {s g} (reason : Option String), R s g → R { s with failureReason := reason } g) :
    Reaches may part s g fun r s g => R (keepReason r s) g := by
  apply h.mono
  intro r s g hr
  cases r with
  | ok u => exact hr
  | error e => exact hreason _ hr

section

variable {A B : FlowState → Past → Prop} {R S : ExecutionError FlowError → FlowState → Past → Prop}
  {C : Stage} {T : Stops} {name : String} {rest : List (Step FlowError FlowM)}
  {forward compensate : StepM Unit}

theorem ends_smooth {part : StepM Unit} (c : Context)
    {Q : Except FlowError Unit → FlowState → Past → Prop} (hA : Stage.smooth may A s p)
    (h : ∀ {s g}, A s g → Reaches may part s g fun r s g => Q r (keepReason r s) g) :
    Ends (action part c) s p fun r s p => Smooth may p.events → Q r s p.gist := by
  apply Program.Always.of_smooth
  intro hsmooth
  refine (ends_action part c fun r s p => Smooth may p.events → Q r s p.gist).mpr ?_
  exact (h (hA hsmooth)).ensures.mono fun _ _ _ hr hend => hr hend.permitted

/-- A step that finds the context ended is not attempted. -/
theorem stop_smooth (hstop : may.ends → ∀ {s g}, A s g → R (.cancelled name) s g) {c : Context}
    (hA : Stage.smooth may A s p) :
    Stops.smooth may R (.cancelled name) s (p.note (.hasEnded c) true) := by
  intro hsmooth
  have hends : may.ends := hsmooth.permitted ⟨.hasEnded c, true⟩ (by simp)
  exact hstop hends ((Stage.smooth may A).conduct (c := .hasEnded c) true trivial hA hsmooth)

theorem onward_smooth (c : Context) (hA : Stage.smooth may A s p)
    (hforward : ∀ {s g}, A s g → Reaches may forward s g (Proceeds B S name)) :
    Ends (action forward c) s p (Onward (.smooth may B) (.smooth may S) name) := by
  apply (ends_smooth c (Q := fun r s g => match r with
    | .ok () => B s g
    | .error e => S (.failed name e) s g) hA ?_).mono
  · intro r s p hr
    cases r <;> exact hr
  · intro s g hA
    exact (hforward hA).mono fun r _ _ hr => by cases r <;> exact hr

theorem Path.step (hstop : may.ends → ∀ {s g}, A s g → R (.cancelled name) s g)
    (hforward : ∀ {s g}, A s g → Reaches may forward s g (Proceeds B S name))
    (hback : ∀ {e s g}, S e s g → R e s g)
    (hrest : Path (.smooth may B) (.smooth may S) rest C T) :
    Path (.smooth may A) (.smooth may R) (Flow.step name forward :: rest) C T := by
  refine .cons (stop_smooth hstop) ?_ ?_ hrest
  · intro c s p hA
    exact onward_smooth c hA hforward
  · exact fun e => ⟨fun _ _ _ hS hsmooth => hback (hS hsmooth), nofun, nofun⟩

theorem Path.undoableStep (hstop : may.ends → ∀ {s g}, A s g → R (.cancelled name) s g)
    (hforward : ∀ {s g}, A s g → Reaches may forward s g (Proceeds B S name))
    (hundo : ∀ {e s g}, S e s g → Reaches may compensate s g fun r s g => R e (keepReason r s) g)
    (hrest : Path (.smooth may B) (.smooth may S) rest C T) :
    Path (.smooth may A) (.smooth may R) (Flow.undoableStep name forward compensate :: rest) C T := by
  refine .cons (stop_smooth hstop) ?_ ?_ hrest
  · intro c s p hA
    exact onward_smooth c hA hforward
  · refine fun e => ⟨nofun, ?_, fun _ _ _ _ _ _ hsmooth => absurd hsmooth not_smooth_tooLate⟩
    intro action haction c s p hS
    cases haction
    exact ends_smooth c (Q := fun _ s g => R e s g) hS hundo

/-! ## The steps of the flows -/

/-- The last two steps lead from `F` through `G` to `Z`, and a play that stops on the way has to be
undone from `R`. -/
theorem Path.finalSteps {F G Z : FlowState → Past → Prop}
    (hcharged : may.ends → ∀ {s g}, F s g → R (.cancelled "confirm_ledger") s g)
    (hconfirm : ∀ {s g}, F s g → Reaches may confirmLedger s g (Proceeds G R "confirm_ledger"))
    (hconfirmed : may.ends → ∀ {s g}, G s g → R (.cancelled "success_order") s g)
    (hsuccess : ∀ {s g}, G s g → Reaches may successOrder s g (Proceeds Z R "success_order")) :
    Path (.smooth may F) (.smooth may R) Flow.finalSteps (.smooth may Z) (.smooth may R) := by
  have hlast : Path (.smooth may G) (.smooth may R) [Flow.step "success_order" successOrder]
      (.smooth may Z) (.smooth may R) :=
    .step hconfirmed hsuccess id (.nil _ _)
  exact .step hcharged hconfirm id hlast

/-- A payment leads from `A` through `B`, once its order was created, `C`, once it is processing, `D`,
once a voucher was used, and `E`, once the order is linked to its record, to `F`, once the bank was
asked. Undoing leads back from `U` over `T` and `S` to `R`. -/
theorem Path.paymentSteps {A B C D E F Z : FlowState → Past → Prop}
    {R S T U : ExecutionError FlowError → FlowState → Past → Prop} {settings : FlowSettings}
    {withVoucher : Bool}
    (hbegun : may.ends → ∀ {s g}, A s g → R (.cancelled "init_order") s g)
    (hinit : ∀ {s g}, A s g → Reaches may (initOrder settings) s g (Proceeds B R "init_order"))
    (hdrafted : may.ends → ∀ {s g}, B s g → R (.cancelled "process_order") s g)
    (hprocess : ∀ {s g}, B s g → Reaches may processOrder s g (Proceeds C S "process_order"))
    (hfail : ∀ {e s g}, S e s g → Reaches may failOrder s g fun r s g => R e (keepReason r s) g)
    (hstarted : may.ends → ∀ {s g}, C s g → S (.cancelled "apply_voucher") s g)
    (hvoucher : withVoucher = true → ∀ {s g}, C s g →
      Reaches may applyVoucher s g (Proceeds D T "apply_voucher"))
    (hreverse : withVoucher = true → ∀ {e s g}, T e s g →
      Reaches may reverseVoucher s g fun r s g => S e (keepReason r s) g)
    (hwithout : withVoucher = false → (∀ {s g}, C s g → D s g) ∧ ∀ {e s g}, T e s g → S e s g)
    (hdiscounted : may.ends → ∀ {s g}, D s g → T (.cancelled "init_ledger") s g)
    (hledger : ∀ {s g}, D s g → Reaches may initLedger s g (Proceeds E U "init_ledger"))
    (hcancel : ∀ {e s g}, U e s g →
      Reaches may cancelLedger s g fun r s g => T e (keepReason r s) g)
    (hregistered : may.ends → ∀ {s g}, E s g → U (.cancelled "call_bank") s g)
    (hbank : ∀ {s g}, E s g → Reaches may (callBank settings) s g (Proceeds F U "call_bank"))
    (hfinal : Path (.smooth may F) (.smooth may U) Flow.finalSteps (.smooth may Z)
      (.smooth may U)) :
    Path (.smooth may A) (.smooth may R) (Flow.paymentSteps settings withVoucher) (.smooth may Z)
      (.smooth may U) := by
  have hasked : Path (.smooth may E) (.smooth may U)
      (Flow.step "call_bank" (callBank settings) :: Flow.finalSteps) (.smooth may Z)
      (.smooth may U) :=
    .step hregistered hbank id hfinal
  have hentered : Path (.smooth may C) (.smooth may S) (voucherSteps withVoucher ++
      Flow.undoableStep "init_ledger" initLedger cancelLedger ::
        Flow.step "call_bank" (callBank settings) :: Flow.finalSteps) (.smooth may Z)
      (.smooth may U) := by
    cases withVoucher with
    | false =>
        obtain ⟨hforth, hback⟩ := hwithout rfl
        refine .undoableStep ?_ (fun hC => hledger (hforth hC)) ?_ hasked
        · exact fun hends {_ _} hC => hback (hdiscounted hends (hforth hC))
        · exact fun hR => (hcancel hR).mono fun _ _ _ => hback
    | true =>
        exact .undoableStep hstarted (hvoucher rfl) (hreverse rfl)
          (.undoableStep hdiscounted hledger hcancel hasked)
  unfold Flow.paymentSteps
  rw [List.append_assoc, List.append_assoc, List.cons_append, List.cons_append]
  exact .step hbegun hinit id (.undoableStep hdrafted hprocess hfail hentered)

/-- A cash-in that is resumed leads from `A` through `L`, once its order was loaded, to `F`, once the
bank was asked. Undoing it leads back from `S` to `R`. -/
theorem Path.otpSteps {A L F Z : FlowState → Past → Prop}
    {R S : ExecutionError FlowError → FlowState → Past → Prop} {settings : FlowSettings}
    {otp : String}
    (hresumed : may.ends → ∀ {s g}, A s g → R (.cancelled "load_order") s g)
    (hload : ∀ {s g}, A s g → Reaches may loadOrder s g (Proceeds L R "load_order"))
    (hloaded : may.ends → ∀ {s g}, L s g → R (.cancelled "verify_otp") s g)
    (hverify : ∀ {s g}, L s g →
      Reaches may (verifyOtp settings otp) s g (Proceeds F S "verify_otp"))
    (habort : ∀ {e s g}, S e s g → Reaches may abortOtp s g fun r s g => R e (keepReason r s) g)
    (hfinal : Path (.smooth may F) (.smooth may S) Flow.finalSteps (.smooth may Z)
      (.smooth may S)) :
    Path (.smooth may A) (.smooth may R) (Flow.otpSteps settings otp) (.smooth may Z)
      (.smooth may S) :=
  .step hresumed hload id (.undoableStep hloaded hverify habort hfinal)

end

end Flow

end Wallet
