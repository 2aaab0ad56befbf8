import Wallet.Proofs.Provider.Codes

/-!
# What a status code means

A classifier is built of designations and a registry of classifiers, one row after the other. Keys are
normalized when a row is added, and of several rows with one key the last one counts. Read as tables
the two say what a status code means: look for the last row of the provider, then for the last row of
the code, and if there is none, look at the first character (`meaning`).

The keys of a registry are always normal, but the provider it is asked for is taken as it stands. So
this reading is right for a provider whose code is normal, and for no other.
-/

namespace Wallet

open Text

/-! ## The last row of a key -/

section LastUnder

variable {κ α : Type} [DecidableEq κ] {norm : String → κ} {key : κ} {rows : List (String × α)} {a : α}

/-- The value of the last row whose key is normalized to the given one. -/
def lastUnder (norm : String → κ) (key : κ) (rows : List (String × α)) : Option α :=
  (rows.filter fun row => norm row.1 = key).getLast?.map Prod.snd

theorem lastUnder_snoc (rows : List (String × α)) (row : String × α) :
    lastUnder norm key (rows ++ [row]) =
      if norm row.1 = key then some row.2 else lastUnder norm key rows := by
  unfold lastUnder
  rw [List.filter_append]
  by_cases hkey : norm row.1 = key
  · simp [hkey]
  · simp [hkey]

theorem mem_of_lastUnder (h : lastUnder norm key rows = some a) :
    ∃ row ∈ rows, norm row.1 = key ∧ row.2 = a := by
  obtain ⟨row, hlast, hvalue⟩ := Option.map_eq_some_iff.mp h
  have hrow := List.mem_filter.mp (List.mem_of_getLast? hlast)
  exact ⟨row, hrow.1, by simpa using hrow.2, hvalue⟩

theorem lastUnder_eq_none (h : ∀ row ∈ rows, norm row.1 ≠ key) : lastUnder norm key rows = none := by
  rw [Option.eq_none_iff_forall_ne_some]
  intro a hlast
  obtain ⟨row, hrow, hkey, -⟩ := mem_of_lastUnder hlast
  exact h row hrow hkey

end LastUnder

/-! ## Classifiers -/

theorem StatusCode.of_inj {s s' : String} : StatusCode.of s = .of s' ↔ trim s = trim s' := by
  unfold StatusCode.of
  rw [StatusCode.mk.injEq]

namespace Classifier

/-- The classifier that is built of designations, one after the other. -/
def designating (rows : List (String × Outcome)) : Classifier :=
  rows.foldl (fun c row => c.designate (.of row.1) row.2) .plain

theorem designating_snoc (rows : List (String × Outcome)) (row : String × Outcome) :
    designating (rows ++ [row]) = (designating rows).designate (.of row.1) row.2 :=
  List.foldl_concat ..

/-- What a status code means by a list of designations. -/
def meaning (rows : List (String × Outcome)) (code : String) : Outcome :=
  match lastUnder trim (trim code) rows with
  | some outcome => outcome
  | none =>
      if (trim code).toList.head? = some '2' then .success
      else if (trim code).toList.head? = some '4' then .failure
      else .verifying

variable {rows : List (String × Outcome)} {code : String}

theorem lookup_designating (rows : List (String × Outcome)) (code : String) :
    (designating rows).designated.lookup (.of code) = lastUnder trim (trim code) rows := by
  induction rows using List.reverseRecOn with
  | nil => rfl
  | append_singleton rows row ih =>
      rw [designating_snoc, lastUnder_snoc]
      unfold designate
      rw [List.lookup_cons, ih]
      by_cases hcode : trim row.1 = trim code
      · rw [if_pos hcode, StatusCode.of_inj.mpr hcode]
        simp
      · rw [if_neg hcode, beq_false_of_ne fun h => hcode (StatusCode.of_inj.mp h.symm)]

theorem byFirst_of (code : String) :
    byFirst (.of code) =
      if (trim code).toList.head? = some '2' then .success
      else if (trim code).toList.head? = some '4' then .failure
      else .verifying := by
  unfold byFirst StatusCode.of
  split
  · next h => simp [h]
  · next h => simp [h]
  · next htwo hfour =>
    rw [if_neg, if_neg]
    · exact fun h => hfour _ (List.head?_eq_some_iff.mp h).choose_spec
    · exact fun h => htwo _ (List.head?_eq_some_iff.mp h).choose_spec

/-- A classifier says what its designations mean. -/
theorem classify_designating (rows : List (String × Outcome)) (code : String) :
    (designating rows).classify (.of code) = meaning rows code := by
  unfold classify meaning
  rw [lookup_designating, byFirst_of]
  cases lastUnder trim (trim code) rows <;> rfl

/-- Nothing means success but what is designated so, or else starts with the digit two. -/
theorem meaning_success (h : meaning rows code = .success) :
    (trim code).toList.head? = some '2' ∨
      ∃ row ∈ rows, trim row.1 = trim code ∧ row.2 = .success := by
  unfold meaning at h
  split at h
  · next outcome hlast =>
    cases h
    exact .inr (mem_of_lastUnder hlast)
  · by_cases htwo : (trim code).toList.head? = some '2'
    · exact .inl htwo
    · rw [if_neg htwo] at h
      split at h
      · cases h
      · cases h

end Classifier

/-! ## Registries -/

/-- The characters of the provider code that is made of a text. -/
def ProviderCode.letters (s : String) : List Char := (trim s).toList.map Char.toUpper

theorem ProviderCode.of_inj {s s' : String} :
    ProviderCode.of s = .of s' ↔ letters s = letters s' := by
  unfold ProviderCode.of letters
  rw [ProviderCode.mk.injEq, ← String.toList_inj]
  simp [String.toUpper]

theorem lastUnder_of {α : Type} (name : String) (rows : List (String × α)) :
    lastUnder ProviderCode.of (.of name) rows =
      lastUnder ProviderCode.letters (ProviderCode.letters name) rows := by
  simp only [lastUnder, ProviderCode.of_inj]

namespace ClassifierRegistry

open Classifier

variable (fallback : List (String × Outcome)) (providers : List (String × List (String × Outcome)))

/-- The registry that is built of designations for everyone and then of providers with designations of
their own, one after the other. -/
def registering : ClassifierRegistry :=
  providers.foldl (fun r row => r.register (.of row.1) (.designating row.2))
    (.ofFallback (.designating fallback))

theorem registering_snoc (row : String × List (String × Outcome)) :
    registering fallback (providers ++ [row]) =
      (registering fallback providers).register (.of row.1) (.designating row.2) :=
  List.foldl_concat ..

/-- The designations that count for a provider: the ones that were registered last under its code as it
stands, or else those for everyone. -/
def rowsFor (p : ProviderCode) : List (String × Outcome) :=
  (lastUnder ProviderCode.of p providers).getD fallback

theorem fallback_registering :
    (registering fallback providers).fallback = designating fallback := by
  induction providers using List.reverseRecOn with
  | nil => rfl
  | append_singleton providers row ih => rwa [registering_snoc]

theorem lookup_registering (p : ProviderCode) :
    (registering fallback providers).providers.lookup p =
      (lastUnder ProviderCode.of p providers).map designating := by
  induction providers using List.reverseRecOn with
  | nil => rfl
  | append_singleton providers row ih =>
      rw [registering_snoc, lastUnder_snoc]
      unfold register
      rw [List.lookup_cons, ih]
      by_cases hcode : ProviderCode.of row.1 = p
      · rw [if_pos hcode, hcode]
        simp
      · rw [if_neg hcode, beq_false_of_ne (Ne.symm hcode)]

theorem forProvider_registering (p : ProviderCode) :
    (registering fallback providers).forProvider (some p) =
      designating (rowsFor fallback providers p) := by
  unfold forProvider rowsFor
  rw [Option.bind_some, lookup_registering, fallback_registering]
  cases lastUnder ProviderCode.of p providers <;> rfl

theorem mem_rowsFor (p : ProviderCode) :
    rowsFor fallback providers p ∈ fallback :: providers.map Prod.snd := by
  unfold rowsFor
  cases hlast : lastUnder ProviderCode.of p providers with
  | none => exact List.mem_cons_self
  | some rows =>
      obtain ⟨row, hrow, -, rfl⟩ := mem_of_lastUnder hlast
      exact List.mem_cons_of_mem _ (List.mem_map_of_mem hrow)

/-- No provider is registered under a code that is not normal. -/
theorem rowsFor_unnormal {p : ProviderCode} (hp : ¬ProviderCode.Normal p.text) :
    rowsFor fallback providers p = fallback := by
  unfold rowsFor
  rw [lastUnder_eq_none]
  · rfl
  · rintro row - rfl
    exact hp (ProviderCode.normal_of row.1)

/-- What a status code means for a provider, or for none: what the designations say that were
registered last under the normalized code of the provider, or else those for everyone. -/
def meaningFor (provider : Option ProviderCode) (code : String) : Outcome :=
  meaning ((provider.map fun p => rowsFor fallback providers (.of p.text)).getD fallback) code

/-- Every registry says of every status code what it means for the provider. -/
def ReadsAsTables (provider : Option ProviderCode) : Prop :=
  ∀ fallback providers code,
    (registering fallback providers).classify provider (.of code) =
      meaningFor fallback providers provider code

theorem classify_registering (provider : Option ProviderCode) (code : String) :
    (registering fallback providers).classify provider (.of code) =
      meaning ((provider.map (rowsFor fallback providers)).getD fallback) code := by
  unfold classify
  cases provider with
  | none =>
      rw [show forProvider _ none = (registering fallback providers).fallback from rfl,
        fallback_registering, classify_designating]
      rfl
  | some p =>
      rw [forProvider_registering, classify_designating]
      rfl

theorem readsAsTables_of_normal {p : ProviderCode} (hp : ProviderCode.Normal p.text) :
    ReadsAsTables (some p) := by
  intro fallback providers code
  rw [classify_registering]
  unfold meaningFor
  rw [Option.map_some, Option.map_some, ProviderCode.of_eq_of_normal hp]

/-- One registry is enough to see that a code is not normal: one in which its provider asks for a
password whatever the answer is. -/
theorem not_readsAsTables {p : ProviderCode} (hp : ¬ProviderCode.Normal p.text) :
    ¬ReadsAsTables (some p) := by
  intro htables
  have hsame := htables [] [(p.text, [("", .needsOtp)])] ""
  rw [classify_registering, Option.map_some, rowsFor_unnormal _ _ hp] at hsame
  simp [meaningFor, rowsFor, lastUnder, meaning, trim, trimStart, trimEnd] at hsame

/-- **The last designation counts.** For every registry that is built of lists of designations, every
status code and a provider whose code is normal, the registry says what the last designation of the
code says in the list that was registered last for the provider, or else what the first character of
the code says. So it does for a provider whose code has been made of any text, and for none at all. It
does so for no other provider: all that such a provider is given is what is designated for everyone.
Whatever the provider is, a code that nobody has designated as success is a success only if it starts
with the digit two. -/
theorem classify_last_designated_iff (provider : Option ProviderCode) (code : String) :
    (ReadsAsTables provider ↔ ∀ p ∈ provider, ProviderCode.Normal p.text) ∧
    (∀ name : String, (registering fallback providers).classify (some (.of name)) (.of code) =
      meaning ((lastUnder ProviderCode.of (.of name) providers).getD fallback) code) ∧
    (∀ p : ProviderCode, ¬ProviderCode.Normal p.text →
      (registering fallback providers).classify (some p) (.of code) = meaning fallback code) ∧
    ((registering fallback providers).classify provider (.of code) = .success →
      (trim code).toList.head? = some '2' ∨
        ∃ rows ∈ fallback :: providers.map Prod.snd, ∃ row ∈ rows,
          trim row.1 = trim code ∧ row.2 = .success) := by
  refine ⟨⟨?_, ?_⟩, ?_, ?_, ?_⟩
  · rintro htables p rfl
    by_contra hp
    exact not_readsAsTables hp htables
  · intro hnormal
    cases provider with
    | none => exact fun fallback providers code => classify_registering fallback providers none code
    | some p => exact readsAsTables_of_normal (hnormal p rfl)
  · intro name
    rw [classify_registering]
    rfl
  · intro p hp
    rw [classify_registering, Option.map_some, rowsFor_unnormal _ _ hp]
    rfl
  · intro hsuccess
    rw [classify_registering] at hsuccess
    refine (meaning_success hsuccess).imp_right fun hrow => ⟨_, ?_, hrow⟩
    cases provider with
    | none => exact List.mem_cons_self
    | some p => exact mem_rowsFor fallback providers p

/-- A code of everyone's that two banks have given meanings of their own, one of them twice. -/
def banks : List (String × List (String × Outcome)) :=
  [("napas", [("411", .success)]), ("BIDV", [(" 99", .success), ("99 ", .failure)]),
    (" Napas ", [("411", .needsOtp)])]

theorem classify_last_designated_iff_banks :
    ReadsAsTables (some ⟨"BIDV"⟩) ∧
    (registering [] banks).classify (some (.of "nApAs")) (.of "411") = .needsOtp ∧
    (registering [] banks).classify (some (.of "bidv")) (.of "\t99") = .failure ∧
    (¬ProviderCode.Normal "napas" ∧
      (registering [] banks).classify (some ⟨"napas"⟩) (.of "411") = .failure) ∧
    (registering [] banks).classify none (.of "200") = .success ∧
      (trim "200").toList.head? = some '2' := by
  have hbidv : ∀ p ∈ some (ProviderCode.mk "BIDV"), ProviderCode.Normal p.text := by
    decide +kernel
  have hnapas : ¬ProviderCode.Normal "napas" := by decide +kernel
  obtain ⟨hiff, hnamed, -, -⟩ := classify_last_designated_iff [] banks (some ⟨"BIDV"⟩) "\t99"
  obtain ⟨-, hnamed', hunnormal, -⟩ := classify_last_designated_iff [] banks (some ⟨"napas"⟩) "411"
  obtain ⟨hiff', -, -, hsuccess⟩ := classify_last_designated_iff [] banks none "200"
  have hpassword : (registering [] banks).classify (some (.of "nApAs")) (.of "411") =
      .needsOtp := by
    rw [hnamed', lastUnder_of]
    decide +kernel
  have hfailure : (registering [] banks).classify (some (.of "bidv")) (.of "\t99") =
      .failure := by
    rw [hnamed, lastUnder_of]
    decide +kernel
  have hunknown : (registering [] banks).classify (some ⟨"napas"⟩) (.of "411") = .failure :=
    (hunnormal ⟨"napas"⟩ hnapas).trans (by decide +kernel)
  have hpaid : (registering [] banks).classify none (.of "200") = .success :=
    (hiff'.mpr nofun [] banks "200").trans (by decide +kernel)
  exact ⟨hiff.mpr hbidv, hpassword, hfailure, ⟨hnapas, hunknown⟩, hpaid,
    (hsuccess hpaid).resolve_right (by decide +kernel)⟩

/-- A provider that is read as `napas` is not known in a registry that knows `napas`: the answer for
which it should ask for a password is taken for a failure. -/
theorem classify_unlike_designated :
    (registering [] [("napas", [("411", .needsOtp)])]).classify (some ⟨"napas"⟩) (.of "411") =
        .failure ∧
      meaningFor [] [("napas", [("411", .needsOtp)])] (some ⟨"napas"⟩) "411" = .needsOtp ∧
      ¬ReadsAsTables (some ⟨"napas"⟩) := by
  have hnapas : ¬ProviderCode.Normal "napas" := by decide +kernel
  refine ⟨?_, ?_, not_readsAsTables hnapas⟩
  · rw [classify_registering, Option.map_some, rowsFor_unnormal _ _ hnapas]
    decide +kernel
  · unfold meaningFor rowsFor
    rw [Option.map_some, lastUnder_of]
    decide +kernel

end ClassifierRegistry

end Wallet
