import Wallet.Proofs.Store.Basic

/-!
# The order store under any calls

Any requests in any sequence, each at an instant of its own and each with the store in reach or out
of it. Whatever is asked of it, the store only goes forward (`Retains`, one request at a time), and
it counts the replacements it has made.
-/

namespace Wallet

namespace OrderStore

/-- A request at an instant, and whether the store is out of reach then. -/
structure Attempt where
  unavailable : Bool
  now : Timestamp
  request : Request

/-- The answer to an attempt and the store it leaves. -/
def meet (s : OrderStore) (a : Attempt) : Except ServiceError a.request.Result × OrderStore :=
  { s with unavailable := a.unavailable }.serve a.now a.request

/-- Whether an attempt is answered without an error. -/
def grants (s : OrderStore) (a : Attempt) : Bool := (s.meet a).1.isOk

/-- The store that attempts leave, one after the other. -/
def along (s : OrderStore) (attempts : List Attempt) : OrderStore :=
  attempts.foldl (fun s a => (s.meet a).2) s

/-- Whether a request puts an order in the place of a stored one. -/
def Request.replaces : Request → Bool
  | .replace _ | .process _ => true
  | .create _ | .find _ | .findExpired _ _ => false

/-- How many of the attempts replace an order. -/
def replacements (s : OrderStore) : List Attempt → Nat
  | [] => 0
  | a :: attempts =>
      (if a.request.replaces && s.grants a then 1 else 0) + (s.meet a).2.replacements attempts

theorem along_append (s : OrderStore) (before after : List Attempt) :
    s.along (before ++ after) = (s.along before).along after :=
  List.foldl_append

/-! ## What a store retains -/

/-- Every stored order is still there and no less far along, and if it was resolved it has the same
status. -/
def Retains (s t : OrderStore) : Prop :=
  ∀ key o, s.get? key = some o → ∃ o', t.get? key = some o' ∧
    o.status.rank ≤ o'.status.rank ∧ (o.isTerminal = true → o'.status = o.status)

variable {s t u : OrderStore} {a : Attempt}

theorem Retains.of_eq (h : t.get? = s.get?) : s.Retains t := by
  intro key o ho
  exact ⟨o, h ▸ ho, Nat.le_refl _, fun _ => rfl⟩

theorem Retains.trans (h : s.Retains t) (h' : t.Retains u) : s.Retains u := by
  intro key o ho
  obtain ⟨o', ho', hrank, hstatus⟩ := h key o ho
  obtain ⟨o'', ho'', hrank', hstatus'⟩ := h' key o' ho'
  refine ⟨o'', ho'', Nat.le_trans hrank hrank', fun hterminal => ?_⟩
  have hsame := hstatus hterminal
  rw [hstatus' (by unfold Order.isTerminal; rw [hsame]; exact hterminal), hsame]

/-- A store retains what it had when what is put in the place of an order may stand there. -/
theorem retains_insert {o : Order}
    (h : ∀ stored, s.get? o.id = some stored → stored.status.acceptsOverwrite o.status = true) :
    s.Retains (s.insert o) := by
  intro key stored hstored
  by_cases hkey : key = o.id
  · subst hkey
    have hgives := h stored hstored
    exact ⟨o, s.get?_insert_self o, OrderStatus.rank_le_of_acceptsOverwrite hgives,
      OrderStatus.eq_of_acceptsOverwrite hgives⟩
  · exact ⟨stored, (s.get?_insert_of_ne hkey).trans hstored, Nat.le_refl _, fun _ => rfl⟩

theorem retains_done {now : Timestamp} {r : Request} (h : s.Admits now r) :
    s.Retains (s.done r) := by
  cases r with
  | create o =>
      have hfree : s.get? o.id = none := h
      exact retains_insert fun stored hstored => by simp [hfree] at hstored
  | replace o =>
      obtain ⟨stored, hstored, hgives⟩ := h
      refine retains_insert fun other hother => ?_
      cases hstored.symm.trans hother
      exact hgives
  | process o =>
      obtain ⟨stored, hstored, _, hgives⟩ := h
      refine retains_insert fun other hother => ?_
      cases hstored.symm.trans hother
      exact hgives
  | find id => exact .of_eq rfl
  | findExpired now limit => exact .of_eq rfl

/-! ## One attempt -/

theorem writes_done (s : OrderStore) (r : Request) :
    (s.done r).writes = s.writes + if r.replaces then 1 else 0 := by
  cases r <;> rfl

/-- An attempt is granted where the store is in reach and finds what the request needs; else it
leaves everything that is stored. -/
theorem meet_cases (s : OrderStore) (a : Attempt) :
    (s.grants a = true ∧ a.unavailable = false ∧ s.Admits a.now a.request ∧
      (s.meet a).2 = { s with unavailable := a.unavailable }.done a.request) ∨
    (s.grants a = false ∧ (a.unavailable = true ∨ ¬ s.Admits a.now a.request) ∧
      (s.meet a).2 = { s with unavailable := a.unavailable }) :=
  serve_cases ..

theorem grants_iff :
    s.grants a = true ↔ a.unavailable = false ∧ s.Admits a.now a.request := by
  rcases s.meet_cases a with ⟨hgrants, hreached, hadmits, _⟩ | ⟨hrefused, hbarred, _⟩
  · exact ⟨fun _ => ⟨hreached, hadmits⟩, fun _ => hgrants⟩
  · rw [hrefused]
    refine ⟨nofun, fun ⟨hreached, hadmits⟩ => ?_⟩
    rcases hbarred with hdown | hbarred
    · simp [hreached] at hdown
    · exact absurd hadmits hbarred

theorem meet_retains (s : OrderStore) (a : Attempt) : s.Retains (s.meet a).2 := by
  rcases s.meet_cases a with ⟨_, _, hadmits, hleft⟩ | ⟨_, _, hleft⟩ <;> rw [hleft]
  · exact retains_done (s := { s with unavailable := a.unavailable }) hadmits
  · exact .of_eq rfl

theorem writes_meet (s : OrderStore) (a : Attempt) :
    (s.meet a).2.writes = s.writes + if a.request.replaces && s.grants a then 1 else 0 := by
  rcases s.meet_cases a with ⟨hgrants, _, _, hleft⟩ | ⟨hrefused, _, hleft⟩
  · rw [hleft, writes_done, hgrants, Bool.and_true]
  · rw [hleft, hrefused, Bool.and_false]
    rfl

/-- A store that answers with an error has changed nothing. -/
theorem meet_error {e : ServiceError} (h : (s.meet a).1 = .error e) :
    (s.meet a).2.orders = s.orders ∧ (s.meet a).2.writes = s.writes := by
  have hrefused : s.grants a = false := by
    unfold grants
    rw [h]
    rfl
  rcases s.meet_cases a with ⟨hgrants, _⟩ | ⟨_, _, hleft⟩
  · simp [hrefused] at hgrants
  · rw [hleft]
    exact ⟨rfl, rfl⟩

/-- Creating an order leaves what is stored under every identifier. -/
theorem meet_create {o stored : Order} {key : OrderId} (hrequest : a.request = .create o)
    (hstored : s.get? key = some stored) : (s.meet a).2.get? key = some stored := by
  obtain ⟨unavailable, now, request⟩ := a
  subst hrequest
  rcases s.meet_cases ⟨unavailable, now, .create o⟩ with ⟨_, _, hadmits, hleft⟩ | ⟨_, _, hleft⟩
  · have hfree : s.get? o.id = none := hadmits
    have hne : key ≠ o.id := by
      rintro rfl
      simp [hfree] at hstored
    rw [hleft]
    exact (s.get?_insert_of_ne hne).trans hstored
  · rw [hleft]
    exact hstored

/-! ## Any number of attempts -/

theorem along_retains (s : OrderStore) (attempts : List Attempt) :
    s.Retains (s.along attempts) := by
  induction attempts generalizing s with
  | nil => exact .of_eq rfl
  | cons a attempts ih => exact (s.meet_retains a).trans (ih _)

theorem writes_along (s : OrderStore) (attempts : List Attempt) :
    (s.along attempts).writes = s.writes + s.replacements attempts := by
  induction attempts generalizing s with
  | nil => rfl
  | cons a attempts ih =>
      show ((s.meet a).2.along attempts).writes = _
      rw [ih, writes_meet, replacements]
      omega

/-- Whatever is asked of the order store, in whatever sequence and with whatever outages between:
from any point to any later one each stored order stays stored, goes only forward, and keeps the
status with which it was resolved; creating an order finds none and leaves the others; processing
one finds the stored deadline not yet passed; an error has changed nothing; and the count of writes
is the number of replacements that were granted. -/
theorem along_forward (s : OrderStore) (attempts : List Attempt) :
    (∀ before after, attempts = before ++ after →
      ∀ key o, (s.along before).get? key = some o → ∃ o', (s.along attempts).get? key = some o' ∧
        o.status.rank ≤ o'.status.rank ∧ (o.isTerminal = true → o'.status = o.status)) ∧
    (∀ before a after, attempts = before ++ a :: after →
      (∀ o, a.request = .create o → (s.along before).grants a = true →
        (s.along before).get? o.id = none) ∧
      (∀ o, a.request = .create o → ∀ key stored, (s.along before).get? key = some stored →
        ((s.along before).meet a).2.get? key = some stored) ∧
      (∀ o, a.request = .process o → (s.along before).grants a = true →
        ∃ stored, (s.along before).get? o.id = some stored ∧
          stored.expiredAt.before a.now = false) ∧
      (∀ e, ((s.along before).meet a).1 = .error e →
        ((s.along before).meet a).2.orders = (s.along before).orders ∧
        ((s.along before).meet a).2.writes = (s.along before).writes)) ∧
    (s.along attempts).writes = s.writes + s.replacements attempts := by
  refine ⟨?_, ?_, s.writes_along attempts⟩
  · rintro before after rfl
    rw [along_append]
    exact along_retains (s.along before) after
  · intro before a after _
    generalize s.along before = t
    refine ⟨?_, fun o hrequest key stored => meet_create hrequest, ?_, fun e => meet_error⟩
    · intro o hrequest hgrants
      have hadmits := (grants_iff.mp hgrants).2
      rw [hrequest] at hadmits
      exact hadmits
    · intro o hrequest hgrants
      have hadmits := (grants_iff.mp hgrants).2
      rw [hrequest] at hadmits
      obtain ⟨stored, hstored, hdue, _⟩ := hadmits
      exact ⟨stored, hstored, hdue⟩

end OrderStore

end Wallet
