import Wallet.Proofs.Text.Numerals
import Wallet.VirtualAccount.Gateway

/-!
# The books of a partner bank

Codes are scripted at a gateway and calls come in, in any order. The gateway counts the accounts it
makes, and an account's number is that count with leading zeros, which are no longer there when the
count has more than seven digits. No two counts give the same number all the same
(`VaGateway.accountNumber_injective`), so no account is ever made over another one.

A request makes an account or edits the one that it names (`VaGateway.handle_cases`). What holds of
all runs is read off that: every account is kept under its own number, which has been given out
(`VaGateway.Numbered`).
-/

namespace Wallet

namespace VaGateway

theorem accountNumber_injective {p : VaProvider} {m n : Nat}
    (h : accountNumber p m = accountNumber p n) : m = n :=
  Text.padded_injective ((String.append_right_inj _).mp h)

example : accountNumber .vpbank 9999999 = "VP9999999" ∧
    accountNumber .vpbank 10000000 = "VP10000000" := by cbv

/-! ## Runs of a gateway -/

/-- What is done to a gateway: a code is scripted, or a call comes in. -/
inductive Act where
  | script (code : String)
  | call (r : Request)

/-- Does an act. A call is answered. -/
def perform (g : VaGateway) : Act → Option VaResponse × VaGateway
  | .script code => (none, g.script code)
  | .call r => (some (g.serve r).1, (g.serve r).2)

def after (g : VaGateway) (acts : List Act) : VaGateway :=
  acts.foldl (fun g act => (g.perform act).2) g

/-- The answers to all calls in the order of the calls. -/
def answers (g : VaGateway) : List Act → List VaResponse
  | [] => []
  | act :: later => (g.perform act).1.toList ++ (g.perform act).2.answers later

theorem perform_call (g : VaGateway) (r : Request) :
    g.perform (.call r) = (some (g.serve r).1, (g.serve r).2) := rfl

theorem after_cons (g : VaGateway) (act : Act) (later : List Act) :
    g.after (act :: later) = (g.perform act).2.after later := rfl

theorem serve_scripted {g : VaGateway} {code : String} (h : g.nextCode = some code) (r : Request) :
    g.serve r = (⟨plain code, none⟩, { g with nextCode := none }) := by
  unfold serve
  rw [h]

theorem serve_unscripted {g : VaGateway} (h : g.nextCode = none) (r : Request) :
    g.serve r = g.handle r := by
  unfold serve
  rw [h]

/-! ## What becomes of one account -/

/-- What a request makes of the account under a number. -/
def Request.edit (number : String) (a : VirtualAccount) : Request → VirtualAccount
  | .update n holder => if n = number then { a with holderName := holder } else a
  | .close n => if n = number then { a with status := .closed } else a
  | .reopen n => if n = number then { a with status := .active } else a
  | .create _ | .detail _ => a

/-- The next account. -/
def nextAccount (g : VaGateway) (req : VaRequest) : VirtualAccount :=
  ⟨accountNumber g.provider (g.made + 1), req.userId, req.holderName, g.provider, .active⟩

theorem map_unchanged {g : VaGateway} {n : String} {f : VirtualAccount → VirtualAccount}
    (h : ∀ a, g.account? n = some a → f a = a) (number : String) :
    ((g.account? number).map fun a => if n = number then f a else a) = g.account? number := by
  cases hold : g.account? number with
  | none => rfl
  | some a =>
      by_cases hsame : n = number
      · rw [Option.map_some, if_pos hsame, h a (hsame ▸ hold)]
      · rw [Option.map_some, if_neg hsame]

/-- A change is all that happens to the account it is about, and that account is the answer. -/
theorem change_spec (g : VaGateway) (n : String)
    (f : VirtualAccount → Except ProviderResponse VirtualAccount) :
    ∃ response accounts,
      g.change n f = (⟨response, accounts.get? n⟩, { g with accounts := accounts }) ∧
        ∀ number, accounts.get? number =
          (g.account? number).map fun a => if n = number then (f a).toOption.getD a else a := by
  unfold change
  cases hold : g.account? n with
  | none =>
      refine ⟨refusal "404" "account not found", g.accounts, ?_, fun number => ?_⟩
      · exact congrArg (fun account => ((⟨_, account⟩ : VaResponse), g)) hold.symm
      · refine (map_unchanged (fun a ha => ?_) number).symm
        cases hold.symm.trans ha
  | some a =>
      dsimp only
      cases hf : f a with
      | error response =>
          refine ⟨response, g.accounts, ?_, fun number => ?_⟩
          · exact congrArg (fun account => ((⟨_, account⟩ : VaResponse), g)) hold.symm
          · refine (map_unchanged (fun b hb => ?_) number).symm
            cases hold.symm.trans hb
            rw [hf]
            rfl
      | ok changed =>
          refine ⟨plain "200", g.accounts.put n changed, ?_, fun number => ?_⟩
          · rw [Table.get?_put, if_pos rfl]
          · rw [Table.get?_put]
            by_cases hsame : n = number
            · rw [if_pos hsame.symm, ← hsame, hold, Option.map_some, if_pos rfl, hf]
              rfl
            · rw [if_neg (Ne.symm hsame)]
              simp [hsame, account?]

/-- A request makes an account or edits the one that it names. -/
theorem handle_cases (g : VaGateway) (r : Request) :
    (∃ req, r = .create req ∧ g.handle r = (⟨plain "201", some (g.nextAccount req)⟩,
      { g with
        accounts := g.accounts.put (accountNumber g.provider (g.made + 1)) (g.nextAccount req)
        made := g.made + 1 })) ∨
    ∃ n response accounts,
      g.handle r = (⟨response, accounts.get? n⟩, { g with accounts := accounts }) ∧
        ∀ number, accounts.get? number = (g.account? number).map (r.edit number) := by
  cases r with
  | create req => exact .inl ⟨req, rfl, rfl⟩
  | update n holder =>
      exact .inr ⟨n, g.change_spec n fun a => .ok { a with holderName := holder }⟩
  | close n => exact .inr ⟨n, g.change_spec n fun a => .ok { a with status := .closed }⟩
  | detail n =>
      obtain ⟨response, accounts, hhandle, hrows⟩ := g.change_spec n .ok
      refine .inr ⟨n, response, accounts, hhandle, fun number => (hrows number).trans ?_⟩
      exact Option.map_congr fun a _ => ite_self a
  | reopen n =>
      obtain ⟨response, accounts, hhandle, hrows⟩ := g.change_spec n reopened
      refine .inr ⟨n, response, accounts, hhandle, fun number => (hrows number).trans ?_⟩
      refine Option.map_congr fun a _ => ?_
      -- an account that is active is not changed
      obtain ⟨_, _, _, _, status⟩ := a
      cases status <;> rfl

/-- A request leaves whose account it is, and its number. -/
theorem edit_keeps (number : String) (a : VirtualAccount) (r : Request) :
    (r.edit number a).accountNumber = a.accountNumber ∧ (r.edit number a).userId = a.userId ∧
      (r.edit number a).provider = a.provider := by
  cases r with
  | create req | detail n => exact ⟨rfl, rfl, rfl⟩
  | update n holder => by_cases hsame : n = number <;> simp [Request.edit, hsame]
  | close n => by_cases hsame : n = number <;> simp [Request.edit, hsame]
  | reopen n => by_cases hsame : n = number <;> simp [Request.edit, hsame]

/-- Only a request to close or to reopen it gives an account another status. -/
theorem status_edit {number : String} {a : VirtualAccount} {r : Request}
    (h : (r.edit number a).status ≠ a.status) :
    (r = .close number ∧ (r.edit number a).status = .closed) ∨
      (r = .reopen number ∧ a.status = .closed ∧ (r.edit number a).status = .active) := by
  unfold Request.edit at h ⊢
  cases r with
  | create req | detail n => exact absurd rfl h
  | update n holder =>
      dsimp only at h
      split at h <;> exact absurd rfl h
  | close n =>
      dsimp only at h ⊢
      split at h
      · next hsame => exact .inl ⟨by rw [hsame], by rw [if_pos hsame]⟩
      · exact absurd rfl h
  | reopen n =>
      dsimp only at h ⊢
      split at h
      · next hsame =>
          refine .inr ⟨by rw [hsame], ?_, by rw [if_pos hsame]⟩
          cases hstatus : a.status with
          | active => exact absurd hstatus.symm h
          | closed => rfl
      · exact absurd rfl h

/-- Only a request to update it gives an account another holder. -/
theorem holder_edit {number : String} {a : VirtualAccount} {r : Request}
    (h : (r.edit number a).holderName ≠ a.holderName) :
    r = .update number (r.edit number a).holderName := by
  unfold Request.edit at h ⊢
  cases r with
  | create req | detail n => exact absurd rfl h
  | update n holder =>
      dsimp only at h ⊢
      split at h
      · next hsame => rw [if_pos hsame, hsame]
      · exact absurd rfl h
  | close n | reopen n =>
      dsimp only at h
      split at h <;> exact absurd rfl h

/-! ## Numbers -/

/-- The number of one of the accounts that have been made. -/
def IsIssued (g : VaGateway) (number : String) : Prop :=
  ∃ k ≤ g.made, accountNumber g.provider k = number

theorem not_isIssued_next (g : VaGateway) :
    ¬ g.IsIssued (accountNumber g.provider (g.made + 1)) := by
  rintro ⟨k, hk, hsame⟩
  have := accountNumber_injective hsame
  omega

/-- The accounts of bank `p` under their own numbers. -/
structure Numbered (p : VaProvider) (g : VaGateway) : Prop where
  provider_eq : g.provider = p
  stored : ∀ number a, g.account? number = some a →
    a.accountNumber = number ∧ a.provider = p ∧ g.IsIssued number

theorem numbered_create (p : VaProvider) : Numbered p (create p) where
  provider_eq := rfl
  stored _ _ h := by cases h

theorem isIssued_handle {g : VaGateway} {number : String} (h : g.IsIssued number) (r : Request) :
    (g.handle r).2.IsIssued number := by
  obtain ⟨k, hk, hnumber⟩ := h
  rcases g.handle_cases r with ⟨req, -, hhandle⟩ | ⟨n, response, accounts, hhandle, -⟩
  · rw [hhandle]
    exact ⟨k, Nat.le_succ_of_le hk, hnumber⟩
  · rw [hhandle]
    exact ⟨k, hk, hnumber⟩

theorem Numbered.handle {p : VaProvider} {g : VaGateway} (hg : Numbered p g) (r : Request) :
    Numbered p (g.handle r).2 := by
  have hissued := fun number (h : g.IsIssued number) => isIssued_handle h r
  rcases g.handle_cases r with ⟨req, -, hhandle⟩ | ⟨n, response, accounts, hhandle, hrows⟩
  · rw [hhandle] at hissued ⊢
    refine ⟨hg.provider_eq, fun number a ha => ?_⟩
    replace ha := (Table.get?_put _ _ _ _).symm.trans ha
    by_cases hnew : number = accountNumber g.provider (g.made + 1)
    · rw [if_pos hnew] at ha
      cases ha
      exact ⟨hnew.symm, hg.provider_eq, g.made + 1, Nat.le_refl _, hnew.symm⟩
    · rw [if_neg hnew] at ha
      obtain ⟨hnumber, hp, hold⟩ := hg.stored number a ha
      exact ⟨hnumber, hp, hissued number hold⟩
  · rw [hhandle] at hissued ⊢
    refine ⟨hg.provider_eq, fun number a ha => ?_⟩
    obtain ⟨old, hold, rfl⟩ := Option.map_eq_some_iff.mp ((hrows number).symm.trans ha)
    obtain ⟨hnumber, hp, hmade⟩ := hg.stored number old hold
    obtain ⟨hsame, -, hbank⟩ := edit_keeps number old r
    exact ⟨hsame.trans hnumber, hbank.trans hp, hissued number hmade⟩

/-- What a request makes of an account that is there. -/
theorem Numbered.edited {p : VaProvider} {g : VaGateway} (hg : Numbered p g) {number : String}
    {a : VirtualAccount} (h : g.account? number = some a) (r : Request) :
    (g.handle r).2.account? number = some (r.edit number a) := by
  rcases g.handle_cases r with ⟨req, rfl, hhandle⟩ | ⟨n, response, accounts, hhandle, hrows⟩
  · have hother : number ≠ accountNumber g.provider (g.made + 1) := by
      rintro rfl
      exact g.not_isIssued_next (hg.stored _ a h).2.2
    rw [hhandle]
    exact (Table.get?_put _ _ _ _).trans ((if_neg hother).trans h)
  · rw [hhandle]
    exact (hrows number).trans (by rw [h]; rfl)

/-- The number of an account that is answered has been given out. -/
theorem Numbered.answered {p : VaProvider} {g : VaGateway} (hg : Numbered p g) {r : Request}
    {a : VirtualAccount} (h : (g.handle r).1.account = some a) :
    (g.handle r).2.IsIssued a.accountNumber := by
  have hthen := hg.handle r
  rcases g.handle_cases r with ⟨req, -, hhandle⟩ | ⟨n, response, accounts, hhandle, -⟩
  · rw [hhandle] at h ⊢
    cases h
    exact ⟨g.made + 1, Nat.le_refl _, rfl⟩
  · rw [hhandle] at h hthen ⊢
    obtain ⟨hnumber, -, hissued⟩ := hthen.stored n a h
    rw [hnumber]
    exact hissued

/-! ## Whole runs -/

/-- An act is a call that is served, or nothing happens to any account. -/
theorem perform_cases (g : VaGateway) (act : Act) :
    (∃ code, (g.perform act).2 = { g with nextCode := code } ∧
      ∀ answer ∈ (g.perform act).1, answer.account = none) ∨
    ∃ r, act = .call r ∧ g.nextCode = none ∧
      g.perform act = (some (g.handle r).1, (g.handle r).2) := by
  cases act with
  | script code => exact .inl ⟨some code, rfl, fun _ h => by cases h⟩
  | call r =>
      rw [perform_call]
      cases hcode : g.nextCode with
      | none => exact .inr ⟨r, rfl, rfl, by rw [serve_unscripted hcode]⟩
      | some code =>
          rw [serve_scripted hcode]
          exact .inl ⟨none, rfl, fun _ h => by cases h; rfl⟩

theorem Numbered.perform {p : VaProvider} {g : VaGateway} (hg : Numbered p g) (act : Act) :
    Numbered p (g.perform act).2 := by
  rcases g.perform_cases act with ⟨code, hthen, -⟩ | ⟨r, -, -, hthen⟩
  · rw [hthen]
    exact ⟨hg.provider_eq, hg.stored⟩
  · rw [hthen]
    exact hg.handle r

theorem Numbered.after {p : VaProvider} {g : VaGateway} (hg : Numbered p g) (acts : List Act) :
    Numbered p (g.after acts) := by
  induction acts generalizing g with
  | nil => exact hg
  | cons act later ih => exact ih (hg.perform act)

theorem isIssued_after {g : VaGateway} {number : String} (h : g.IsIssued number)
    (acts : List Act) : (g.after acts).IsIssued number := by
  induction acts generalizing g with
  | nil => exact h
  | cons act later ih =>
      rw [after_cons]
      rcases g.perform_cases act with ⟨code, hthen, -⟩ | ⟨r, -, -, hthen⟩ <;> rw [hthen]
      · exact ih h
      · exact ih (isIssued_handle h r)

/-- The numbers of all accounts that are answered have been given out. -/
theorem Numbered.issued {p : VaProvider} {g : VaGateway} (hg : Numbered p g) {acts : List Act}
    {answer : VaResponse} (h : answer ∈ g.answers acts) {a : VirtualAccount}
    (ha : answer.account = some a) : (g.after acts).IsIssued a.accountNumber := by
  induction acts generalizing g with
  | nil => cases h
  | cons act later ih =>
      rw [after_cons]
      rcases List.mem_append.mp h with hnow | hlater
      · refine isIssued_after ?_ later
        rw [Option.mem_toList] at hnow
        rcases g.perform_cases act with ⟨code, -, hnone⟩ | ⟨r, -, -, hthen⟩
        · cases (hnone answer hnow).symm.trans ha
        · rw [hthen] at hnow ⊢
          cases hnow
          exact hg.answered ha
      · exact ih (hg.perform act) hlater

/-- What an act makes of an account that is there: what the call makes of it that is served. -/
theorem Numbered.performed {p : VaProvider} {g : VaGateway} (hg : Numbered p g) {number : String}
    {a : VirtualAccount} (h : g.account? number = some a) (act : Act) :
    (g.perform act).2.account? number = some a ∨
      ∃ r, act = .call r ∧ (g.perform act).2.account? number = some (r.edit number a) := by
  rcases g.perform_cases act with ⟨code, hthen, -⟩ | ⟨r, hcall, -, hthen⟩
  · rw [hthen]
    exact .inl h
  · rw [hthen]
    exact .inr ⟨r, hcall, hg.edited h r⟩

/-- An account stays for good, under its number, with the same user. -/
theorem Numbered.stays {p : VaProvider} {g : VaGateway} (hg : Numbered p g) {number : String}
    {a : VirtualAccount} (h : g.account? number = some a) (acts : List Act) :
    ∃ a', (g.after acts).account? number = some a' ∧ a'.userId = a.userId := by
  induction acts generalizing g a with
  | nil => exact ⟨a, h, rfl⟩
  | cons act later ih =>
      rcases hg.performed h act with hkept | ⟨r, -, hedited⟩
      · exact ih (hg.perform act) hkept
      · obtain ⟨a', hthen, huser⟩ := ih (hg.perform act) hedited
        exact ⟨a', hthen, huser.trans (edit_keeps number a r).2.1⟩

/-- What is created is the next account, unless a code is scripted. -/
theorem serve_create (g : VaGateway) (req : VaRequest) :
    (g.serve (.create req)).1.account =
      if g.nextCode = none then some (g.nextAccount req) else none := by
  cases hcode : g.nextCode with
  | some code =>
      rw [serve_scripted hcode]
      rfl
  | none =>
      rw [serve_unscripted hcode]
      rfl

theorem account?_serve_create {g : VaGateway} (h : g.nextCode = none) (req : VaRequest) :
    (g.serve (.create req)).2.account? (g.nextAccount req).accountNumber =
      some (g.nextAccount req) := by
  rw [serve_unscripted h]
  exact (Table.get?_put _ _ _ _).trans (if_pos rfl)

/-! ## Scripts -/

theorem nextCode_handle (g : VaGateway) (r : Request) : (g.handle r).2.nextCode = g.nextCode := by
  rcases g.handle_cases r with ⟨req, -, hhandle⟩ | ⟨n, response, accounts, hhandle, -⟩ <;>
    rw [hhandle]

/-- A code waits for the next act only. -/
theorem nextCode_perform (g : VaGateway) (act : Act) (code : String) :
    (g.perform act).2.nextCode = some code ↔ act = .script code := by
  cases act with
  | script c => simp [perform, script]
  | call r =>
      rw [perform_call]
      cases hcode : g.nextCode with
      | none => simp [serve_unscripted hcode, nextCode_handle, hcode]
      | some c => simp [serve_scripted hcode]

/-! ## What can be relied on -/

/-- The gateway of bank `p` after a run. -/
def run (p : VaProvider) (acts : List Act) : VaGateway := (create p).after acts

theorem nextCode_run (p : VaProvider) (acts : List Act) (code : String) :
    (run p acts).nextCode = some code ↔ acts.getLast? = some (.script code) := by
  unfold run after
  rcases acts.eq_nil_or_concat' with rfl | ⟨before, act, rfl⟩
  · simp [create]
  · rw [List.foldl_concat, nextCode_perform, List.getLast?_concat, Option.some_inj]

theorem nextCode_run_eq_none (p : VaProvider) (acts : List Act) :
    (run p acts).nextCode = none ↔ ∀ code, acts.getLast? ≠ some (.script code) := by
  rw [Option.eq_none_iff_forall_ne_some]
  exact forall_congr' fun code => not_congr (nextCode_run p acts code)

/-- What can be relied on of the gateway of bank `p` after a run. -/
structure Sound (p : VaProvider) (acts : List Act) : Prop where
  /-- A new account has a number that no account in an answer had before. -/
  created : ∀ req a, ((run p acts).serve (.create req)).1.account = some a →
    a.userId = req.userId ∧ a.holderName = req.holderName ∧ a.provider = p ∧
      a.status = .active ∧
      ((run p acts).serve (.create req)).2.account? a.accountNumber = some a ∧
      ∀ answer ∈ (create p).answers acts, ∀ old, answer.account = some old →
        old.accountNumber ≠ a.accountNumber
  /-- An account is created unless a code has been scripted right before. -/
  succeeds : ∀ req, ((run p acts).serve (.create req)).1.account ≠ none ↔
    ∀ code, acts.getLast? ≠ some (.script code)
  stays : ∀ number a later, (run p acts).account? number = some a →
    ∃ a', ((run p acts).after later).account? number = some a' ∧
      a'.accountNumber = a.accountNumber ∧ a'.userId = a.userId ∧ a'.provider = a.provider
  status_changed : ∀ number a a' act, (run p acts).account? number = some a →
    ((run p acts).perform act).2.account? number = some a' → a'.status ≠ a.status →
    (act = .call (.close number) ∧ a'.status = .closed) ∨
      (act = .call (.reopen number) ∧ a.status = .closed ∧ a'.status = .active)
  holder_changed : ∀ number a a' act, (run p acts).account? number = some a →
    ((run p acts).perform act).2.account? number = some a' → a'.holderName ≠ a.holderName →
    act = .call (.update number a'.holderName)
  /-- A call that does not come right after a script is served, and edits the account it names. -/
  served : (∀ code, acts.getLast? ≠ some (.script code)) → ∀ r,
    (run p acts).serve r = (run p acts).handle r ∧
      ∀ number a, (run p acts).account? number = some a →
        ((run p acts).serve r).2.account? number = some (r.edit number a)
  /-- A scripted code is the answer to the call that comes right after it, and nothing is left of
  either. -/
  scripted : ∀ code r later,
    (run p acts).answers (.script code :: .call r :: later) =
        ⟨plain code, none⟩ :: { run p acts with nextCode := none }.answers later ∧
      (run p acts).after (.script code :: .call r :: later) =
        { run p acts with nextCode := none }.after later
  /-- A code that is scripted right after another one takes its place. -/
  overwritten : ∀ first second later,
    (run p acts).answers (.script first :: .script second :: later) =
        (run p acts).answers (.script second :: later) ∧
      (run p acts).after (.script first :: .script second :: later) =
        (run p acts).after (.script second :: later)

/-- **The books of a partner bank are sound**, whatever is scripted and called. -/
theorem books_sound (p : VaProvider) (acts : List Act) : Sound p acts := by
  have hg : Numbered p (run p acts) := (numbered_create p).after acts
  refine ⟨fun req a ha => ?_, fun req => ?_, fun number a later ha => ?_,
    fun number a a' act ha ha' hstatus => ?_, fun number a a' act ha ha' hholder => ?_,
    fun hlast r => ?_, fun code r later => ⟨rfl, rfl⟩, fun first second later => ⟨rfl, rfl⟩⟩
  · rw [serve_create] at ha
    split at ha <;> cases ha
    next hcode =>
    refine ⟨rfl, rfl, hg.provider_eq, rfl, account?_serve_create hcode req, ?_⟩
    intro answer hanswer old hold hsame
    refine (run p acts).not_isIssued_next ?_
    have hissued := (numbered_create p).issued hanswer hold
    rw [hsame] at hissued
    exact hissued
  · rw [serve_create, ← nextCode_run_eq_none p]
    simp
  · obtain ⟨a', hthen, huser⟩ := hg.stays ha later
    obtain ⟨hnumber, hbank, -⟩ := hg.stored number a ha
    obtain ⟨hnumber', hbank', -⟩ := (hg.after later).stored number a' hthen
    exact ⟨a', hthen, hnumber'.trans hnumber.symm, huser, hbank'.trans hbank.symm⟩
  · rcases hg.performed ha act with hkept | ⟨r, rfl, hedited⟩
    · cases hkept.symm.trans ha'
      exact absurd rfl hstatus
    · cases hedited.symm.trans ha'
      simpa using status_edit hstatus
  · rcases hg.performed ha act with hkept | ⟨r, rfl, hedited⟩
    · cases hkept.symm.trans ha'
      exact absurd rfl hholder
    · cases hedited.symm.trans ha'
      exact congrArg Act.call (holder_edit hholder)
  · have hserve := serve_unscripted ((nextCode_run_eq_none p acts).mpr hlast) r
    refine ⟨hserve, fun number a ha => ?_⟩
    rw [hserve]
    exact hg.edited ha r

end VaGateway

end Wallet
