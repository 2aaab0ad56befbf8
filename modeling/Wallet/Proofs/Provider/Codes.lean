import Mathlib
import Wallet.Flow.Forward
import Wallet.Order.Form
import Wallet.Reconciliation.Config

/-!
# Codes as they are made and as they are read

A provider code that is made is normal: no blank stands at either end of it and none of its letters
is a lower-case ASCII letter. Registries and the settings of reconciliation are built with codes that
are made, so they know normal codes only. A code that is read from JSON is kept as it stands. If it is
normal it is treated as if it had been made; if not, nobody knows its provider.
-/

namespace Wallet

open Json

namespace Text

/-! ## Trimming -/

/-- No blank stands at either end of a text. -/
def Trimmed (s : String) : Prop :=
  s.toList.head?.any isBlank = false ∧ s.toList.getLast?.any isBlank = false

instance (s : String) : Decidable (Trimmed s) := inferInstanceAs (Decidable (_ ∧ _))

variable {cs : List Char}

theorem head?_trimStart (cs : List Char) : (trimStart cs).head?.any isBlank = false := by
  unfold trimStart
  induction cs with
  | nil => rfl
  | cons c cs ih =>
      rw [List.dropWhile_cons]
      split
      · exact ih
      · next hblank => simpa using hblank

theorem getLast?_trimEnd (cs : List Char) : (trimEnd cs).getLast?.any isBlank = false := by
  unfold trimEnd
  rw [List.getLast?_reverse]
  exact head?_trimStart cs.reverse

theorem trimStart_eq_self (h : cs.head?.any isBlank = false) : trimStart cs = cs := by
  cases cs with
  | nil => rfl
  | cons c cs =>
      unfold trimStart
      rw [List.dropWhile_cons, if_neg]
      simpa using h

theorem trimEnd_eq_self (h : cs.getLast?.any isBlank = false) : trimEnd cs = cs := by
  rw [← List.head?_reverse] at h
  unfold trimEnd
  rw [show cs.reverse.dropWhile isBlank = cs.reverse from trimStart_eq_self h, List.reverse_reverse]

theorem trimEnd_prefix (cs : List Char) : trimEnd cs <+: cs := by
  unfold trimEnd
  rw [← List.reverse_suffix, List.reverse_reverse]
  exact List.dropWhile_suffix isBlank

/-- What trimming leaves is trimmed. -/
theorem trimmed_trim (s : String) : Trimmed (trim s) := by
  unfold Trimmed trim
  rw [String.toList_ofList]
  refine ⟨?_, getLast?_trimEnd _⟩
  have hstart := head?_trimStart s.toList
  obtain ⟨rest, hrest⟩ := trimEnd_prefix (trimStart s.toList)
  cases hleft : trimEnd (trimStart s.toList) with
  | nil => rfl
  | cons c cs =>
      rw [← hrest, hleft] at hstart
      exact hstart

theorem trim_eq_self {s : String} (h : Trimmed s) : trim s = s := by
  unfold trim
  rw [trimStart_eq_self h.1, trimEnd_eq_self h.2, String.ofList_toList]

/-! ## Upper case -/

theorem isBlank_of_letter {c : Char} (h : 65 ≤ c.toNat) (h' : c.toNat ≤ 122) :
    isBlank c = false := by
  simp [isBlank]
  omega

theorem isBlank_toUpper (c : Char) : isBlank c.toUpper = isBlank c := by
  by_cases hlower : c.isLower
  · have hletter : 97 ≤ c.toNat ∧ c.toNat ≤ 122 := by
      simpa [Char.isLower, UInt32.le_iff_toNat_le] using hlower
    have hupper : c.toUpper.toNat = c.toNat - 32 := by
      rw [Char.toUpper_eq_of_isLower hlower, Char.toNat_ofNat, if_pos (.inl (by omega))]
    have hblank : isBlank c = false := isBlank_of_letter (by omega) (by omega)
    rw [hblank]
    exact isBlank_of_letter (by omega) (by omega)
  · rw [Char.toUpper_eq_of_not_isLower hlower]

end Text

/-! ## Normal codes -/

/-- A text as a provider code is made of it. -/
structure ProviderCode.Normal (s : String) : Prop where
  trimmed : Text.Trimmed s
  upper : s.toList.all (fun c => !c.isLower) = true

instance (s : String) : Decidable (ProviderCode.Normal s) :=
  decidable_of_iff (Text.Trimmed s ∧ s.toList.all (fun c => !c.isLower) = true)
    ⟨fun h => ⟨h.1, h.2⟩, fun h => ⟨h.trimmed, h.upper⟩⟩

namespace ProviderCode

variable {s : String}

theorem normal_of (s : String) : Normal (of s).text := by
  have htrimmed := Text.trimmed_trim s
  constructor
  · unfold Text.Trimmed at htrimmed ⊢
    simpa [of, String.toUpper, Option.any_map, Function.comp_def, Text.isBlank_toUpper]
      using htrimmed
  · simp [of, String.toUpper]

theorem of_eq_of_normal (h : Normal s) : of s = ⟨s⟩ := by
  have hupper : s.toUpper = s := by
    rw [← String.toList_inj]
    unfold String.toUpper
    rw [String.toList_map]
    have hsame : s.toList.map Char.toUpper = s.toList.map id :=
      List.map_congr_left fun c hc =>
        Char.toUpper_eq_of_not_isLower (by simpa using List.all_eq_true.mp h.upper c hc)
    rw [hsame, List.map_id]
  unfold of
  rw [Text.trim_eq_self h.trimmed, hupper]

/-- A code is made of a normal text as it stands, and of no other. -/
theorem of_eq_iff (s : String) : of s = ⟨s⟩ ↔ Normal s := by
  refine ⟨fun h => ?_, of_eq_of_normal⟩
  have hnormal := normal_of s
  rw [h] at hnormal
  exact hnormal

end ProviderCode

/-- A status code is made of a trimmed text as it stands, and of no other. -/
theorem StatusCode.of_eq_iff (s : String) : StatusCode.of s = ⟨s⟩ ↔ Text.Trimmed s := by
  constructor
  · intro h
    have htrimmed := Text.trimmed_trim s
    rwa [show Text.trim s = s from congrArg StatusCode.text h] at htrimmed
  · intro h
    unfold of
    rw [Text.trim_eq_self h]

/-! ## What is built of codes that are made -/

/-- A classifier that is built by designating codes. -/
inductive Classifier.Built : Classifier → Prop
  | plain : Built .plain
  | designate {c : Classifier} (h : Built c) (s : String) (outcome : Outcome) :
      Built (c.designate (.of s) outcome)

theorem Classifier.built_standard : standard.Built :=
  .designate (.designate (.designate (.designate (.designate .plain _ _) _ _) _ _) _ _) _ _

/-- A registry that is built by giving providers classifiers of their own. -/
inductive ClassifierRegistry.Built : ClassifierRegistry → Prop
  | ofFallback {c : Classifier} (h : c.Built) : Built (.ofFallback c)
  | register {r : ClassifierRegistry} (h : Built r) (s : String) {c : Classifier} (hc : c.Built) :
      Built (r.register (.of s) c)

/-- Settings of reconciliation that are built by naming the providers that have to be asked. -/
inductive ReconciliationConfig.Built : ReconciliationConfig → Prop
  | asking {c : ReconciliationConfig} (h : c.retrievalProviders = []) : Built c
  | withRetrievalProvider {c : ReconciliationConfig} (h : Built c) (s : String) :
      Built (c.withRetrievalProvider (.of s))

variable {s : String}

theorem Classifier.Built.trimmed {c : Classifier} (h : c.Built) :
    ∀ row ∈ c.designated, Text.Trimmed row.1.text := by
  induction h with
  | plain => nofun
  | designate _ s outcome ih =>
      rintro row (_ | ⟨_, hrow⟩)
      · exact Text.trimmed_trim s
      · exact ih row hrow

theorem ClassifierRegistry.Built.normal {r : ClassifierRegistry} (h : r.Built) :
    ∀ row ∈ r.providers, ProviderCode.Normal row.1.text := by
  induction h with
  | ofFallback _ => nofun
  | register _ s _ ih =>
      rintro row (_ | ⟨_, hrow⟩)
      · exact ProviderCode.normal_of s
      · exact ih row hrow

theorem ReconciliationConfig.Built.normal {c : ReconciliationConfig} (h : c.Built) :
    ∀ p ∈ c.retrievalProviders, ProviderCode.Normal p.text := by
  induction h with
  | asking hnone =>
      rw [hnone]
      nofun
  | withRetrievalProvider _ s ih =>
      intro p hp
      rcases List.mem_append.mp hp with hp | hp
      · exact ih p hp
      · rw [List.mem_singleton.mp hp]
        exact ProviderCode.normal_of s

/-- A code that is not trimmed is classified as one that is not designated. -/
theorem Classifier.Built.classify_untrimmed {c : Classifier} (h : c.Built) {code : StatusCode}
    (hcode : ¬Text.Trimmed code.text) : c.classify code = byFirst code := by
  have hunknown : c.designated.lookup code = none := by
    rw [List.lookup_eq_none_iff]
    intro row hrow
    rw [bne_iff_ne]
    rintro rfl
    exact hcode (h.trimmed row hrow)
  unfold classify
  rw [hunknown]
  rfl

theorem ClassifierRegistry.Built.forProvider_unnormal {r : ClassifierRegistry} (h : r.Built)
    {p : ProviderCode} (hp : ¬ProviderCode.Normal p.text) :
    r.forProvider (some p) = r.fallback := by
  have hunknown : r.providers.lookup p = none := by
    rw [List.lookup_eq_none_iff]
    intro row hrow
    rw [bne_iff_ne]
    rintro rfl
    exact hp (h.normal row hrow)
  simp [forProvider, hunknown]

theorem ReconciliationConfig.Built.unnormal_not_mem {c : ReconciliationConfig} (h : c.Built)
    {p : ProviderCode} (hp : ¬ProviderCode.Normal p.text) : p ∉ c.retrievalProviders :=
  fun hmem => hp (h.normal p hmem)

/-! ## How orders are treated -/

/-- The bank's answers about an order and the need to ask the bank are judged as if a code were its
provider. -/
structure Order.TreatedAs (o : Order) (p : ProviderCode) : Prop where
  classified : ∀ {r : ClassifierRegistry}, r.Built →
    r.forProvider o.provider = r.forProvider (some p)
  retrieved : ∀ {c : ReconciliationConfig}, c.Built →
    c.requiresRetrieval o = c.requiresRetrieval { o with provider := some p }

/-- Nobody knows the provider of an order. -/
structure Order.Unknown (o : Order) : Prop where
  classified : ∀ {r : ClassifierRegistry}, r.Built → r.forProvider o.provider = r.fallback
  retrieved : ∀ {c : ReconciliationConfig}, c.Built → c.requiresRetrieval o = o.isVerifying

theorem Order.unknown_of_unnormal {o : Order} {p : ProviderCode} (hprovider : o.provider = some p)
    (hp : ¬ProviderCode.Normal p.text) : o.Unknown := by
  constructor
  · intro r hr
    rw [hprovider]
    exact hr.forProvider_unnormal hp
  · intro c hc
    simp [ReconciliationConfig.requiresRetrieval, hprovider, hc.unnormal_not_mem hp]

/-- An order with a code as it stands is treated as one with the code that is made of it exactly if
the code is normal. -/
theorem Order.treatedAs_of_iff {o : Order} (hprovider : o.provider = some ⟨s⟩) :
    o.TreatedAs (.of s) ↔ ProviderCode.Normal s := by
  constructor
  · intro htreated
    by_contra hnormal
    -- One registry is enough to tell the two apart: one that knows the code that is made.
    have hknows := ClassifierRegistry.Built.register (.ofFallback .plain) s
      Classifier.built_standard
    have hsame := htreated.classified hknows
    rw [(unknown_of_unnormal hprovider hnormal).classified hknows] at hsame
    simp [ClassifierRegistry.forProvider, ClassifierRegistry.register,
      ClassifierRegistry.ofFallback, Classifier.standard, Classifier.plain,
      Classifier.designate] at hsame
  · intro hnormal
    rw [ProviderCode.of_eq_of_normal hnormal]
    constructor
    · intro r _
      rw [hprovider]
    · intro c _
      rw [← hprovider]

/-- A status code as it stands is classified as the one that is made of it exactly if it is
trimmed. -/
theorem StatusCode.classified_as_of_iff (s : String) :
    (∀ {c : Classifier}, c.Built → c.classify ⟨s⟩ = c.classify (.of s)) ↔ Text.Trimmed s := by
  constructor
  · intro hclassified
    by_contra htrimmed
    have hdesignated (outcome : Outcome) : Classifier.byFirst ⟨s⟩ = outcome := by
      have hbuilt := Classifier.Built.designate .plain s outcome
      have hsame := hclassified hbuilt
      rw [hbuilt.classify_untrimmed htrimmed] at hsame
      simpa [Classifier.classify, Classifier.designate] using hsame
    cases (hdesignated .needsOtp).symm.trans (hdesignated .wrongOtp)
  · intro htrimmed c _
    rw [(StatusCode.of_eq_iff s).mpr htrimmed]

/-! ## What is read -/

/-- An order that is read from JSON, and its provider as it stands there. -/
def Order.ReadWith (s : String) (o : Order) : Prop :=
  ∃ j fields, ofJson? j = some o ∧ record? Order.fieldNames 1 j = some fields ∧
    fields.lookup "provider" = some (.str s)

def PaymentRequest.fieldNames : List String :=
  ["user_id", "amount", "provider", "voucher_code", "source_of_fund", "destination"]

/-- A request that is read from JSON, and its provider as it stands there. -/
def PaymentRequest.ReadWith (s : String) (request : PaymentRequest) : Prop :=
  ∃ j fields, ofJson? j = some request ∧ record? PaymentRequest.fieldNames 0 j = some fields ∧
    fields.lookup "provider" = some (.str s)

theorem Order.ReadWith.provider {o : Order} (h : o.ReadWith s) : o.provider = some ⟨s⟩ := by
  obtain ⟨j, fields, hread, hfields, hprovider⟩ := h
  have hcode : Json.optional fields "provider" = some (some (ProviderCode.mk s)) := by
    unfold Json.optional
    rw [hprovider]
    rfl
  obtain ⟨_, hsame, hread⟩ := Option.bind_eq_some_iff.mp (show Option.bind _ _ = some o from hread)
  cases hfields.symm.trans hsame
  -- whether the order waits for a password is read first, the provider after six other fields
  extract_lets rest at hread
  have hrest : ∃ awaitingOtp, rest awaitingOtp = some o := by
    split at hread
    · exact ⟨false, hread⟩
    · obtain ⟨awaitingOtp, _, hread⟩ := Option.bind_eq_some_iff.mp hread
      exact ⟨awaitingOtp, hread⟩
  obtain ⟨awaitingOtp, hread⟩ := hrest
  iterate 6 obtain ⟨_, _, hread⟩ := Option.bind_eq_some_iff.mp hread
  obtain ⟨provider, hfound, hread⟩ := Option.bind_eq_some_iff.mp hread
  iterate 9 obtain ⟨_, _, hread⟩ := Option.bind_eq_some_iff.mp hread
  cases hread
  exact Option.some.inj (hfound.symm.trans hcode)

theorem PaymentRequest.ReadWith.provider {request : PaymentRequest} (h : request.ReadWith s) :
    request.provider = ⟨s⟩ := by
  obtain ⟨j, fields, hread, hfields, hprovider⟩ := h
  have hcode : need fields "provider" = some (ProviderCode.mk s) := by
    unfold need
    rw [hprovider]
    rfl
  obtain ⟨_, hsame, hread⟩ :=
    Option.bind_eq_some_iff.mp (show Option.bind _ _ = some request from hread)
  cases hfields.symm.trans hsame
  -- the provider is read after two other fields
  iterate 2 obtain ⟨_, _, hread⟩ := Option.bind_eq_some_iff.mp hread
  obtain ⟨provider, hfound, hread⟩ := Option.bind_eq_some_iff.mp hread
  iterate 3 obtain ⟨_, _, hread⟩ := Option.bind_eq_some_iff.mp hread
  cases hread
  exact Option.some.inj (hfound.symm.trans hcode)

/-- Whatever is read from JSON with a text for a code: an order is treated as if its provider had been
made of the text exactly if the text is normal, and else nobody knows its provider; so is the order
that a flow makes of a request. A status code is classified as the one that is made of the text
exactly if the text is trimmed, and else by its first character alone. -/
theorem read_as_made_iff (s : String) :
    (∀ o : Order, o.ReadWith s →
      (o.TreatedAs (.of s) ↔ ProviderCode.Normal s) ∧ (¬ProviderCode.Normal s → o.Unknown)) ∧
    (∀ request : PaymentRequest, request.ReadWith s → ∀ kind id now expiredAt,
      ((request.draft kind id now expiredAt).TreatedAs (.of s) ↔ ProviderCode.Normal s) ∧
      (¬ProviderCode.Normal s → (request.draft kind id now expiredAt).Unknown)) ∧
    (∀ code : StatusCode, ofJson? (.str s) = some code →
      ((∀ c : Classifier, c.Built → c.classify code = c.classify (.of s)) ↔ Text.Trimmed s) ∧
      (¬Text.Trimmed s → ∀ c : Classifier, c.Built →
        c.classify code = Classifier.byFirst code)) := by
  refine ⟨?_, ?_, ?_⟩
  · intro o hread
    exact ⟨Order.treatedAs_of_iff hread.provider, Order.unknown_of_unnormal hread.provider⟩
  · intro request hread kind id now expiredAt
    have hprovider : (request.draft kind id now expiredAt).provider = some ⟨s⟩ :=
      congrArg some hread.provider
    exact ⟨Order.treatedAs_of_iff hprovider, Order.unknown_of_unnormal hprovider⟩
  · intro code hread
    cases hread
    exact ⟨StatusCode.classified_as_of_iff s,
      fun htrimmed c hbuilt => hbuilt.classify_untrimmed htrimmed⟩

/-! ### One bank under two codes -/

/-- A stored order as JSON, with the code of its provider. -/
def storedOrder (provider : String) : Json :=
  .obj [("id", .str "00000000-0000-7000-8000-000000000001"),
    ("user_id", .str "00000000-0000-7002-8000-000000000001"), ("amount", .int 200000),
    ("order_type", .str "CASH_OUT"), ("source_of_fund", .str "WALLET"),
    ("provider", .str provider), ("status", .str "PENDING"),
    ("created_at", .str "2000-06-01T00:00:00Z"), ("updated_at", .str "2000-06-01T00:00:01Z"),
    ("expired_at", .str "2001-02-03T04:05:06Z"), ("is_expired", .bool false),
    ("is_retrieved", .bool false)]

/-- A request as JSON, with the code of its provider. -/
def sentRequest (provider : String) : Json :=
  .obj [("user_id", .str "00000000-0000-7002-8000-000000000001"), ("amount", .int 200000),
    ("provider", .str provider), ("source_of_fund", .str "WALLET")]

/-- Orders of one bank have to be asked about. -/
def askingBidv : ReconciliationConfig :=
  ReconciliationConfig.standard.withRetrievalProvider (.of "bidv")

/-- One bank has a classifier of its own. -/
def knowingBidv : ClassifierRegistry :=
  (ClassifierRegistry.ofFallback .plain).register (.of "bidv") .standard

theorem read_as_made_iff_upper :
    (∃ o : Order, o.ReadWith "BIDV" ∧ o.TreatedAs (.of "BIDV")) ∧
    (∃ request : PaymentRequest, request.ReadWith "BIDV" ∧
      (request.draft .cashOut default default default).TreatedAs (.of "BIDV")) ∧
    ∃ code : StatusCode, ofJson? (.str "200") = some code ∧
      Classifier.standard.classify code = Classifier.standard.classify (.of "200") := by
  obtain ⟨horder, hrequest, _⟩ := read_as_made_iff "BIDV"
  obtain ⟨_, _, hcode⟩ := read_as_made_iff "200"
  refine ⟨?_, ?_, ⟨"200"⟩, rfl, (hcode ⟨"200"⟩ rfl).1.mpr (by decide) _ Classifier.built_standard⟩
  · obtain ⟨o, ho⟩ := Option.isSome_iff_exists.mp
      (show (ofJson? (storedOrder "BIDV") : Option Order).isSome = true from rfl)
    have hread : o.ReadWith "BIDV" := ⟨storedOrder "BIDV", _, ho, rfl, rfl⟩
    exact ⟨o, hread, (horder o hread).1.mpr (by decide)⟩
  · obtain ⟨request, hsent⟩ := Option.isSome_iff_exists.mp
      (show (ofJson? (sentRequest "BIDV") : Option PaymentRequest).isSome = true from rfl)
    have hread : request.ReadWith "BIDV" := ⟨sentRequest "BIDV", _, hsent, rfl, rfl⟩
    exact ⟨request, hread, (hrequest request hread .cashOut default default default).1.mpr
      (by decide)⟩

/-- An order of `bidv` need not be asked about although the orders of that bank have to be; a
request to it is classified like one to a bank nobody knows; and a blank before a status code hides
what the code is designated for. -/
theorem read_unlike_made :
    (∃ (c : ReconciliationConfig) (o : Order), c.Built ∧ o.ReadWith "bidv" ∧
      c.requiresRetrieval o = false ∧
      c.requiresRetrieval { o with provider := some (.of "bidv") } = true) ∧
    (∃ (r : ClassifierRegistry) (request : PaymentRequest), r.Built ∧ request.ReadWith "bidv" ∧
      r.forProvider (some request.provider) ≠ r.forProvider (some (.of "bidv"))) ∧
    ∃ (c : Classifier) (code : StatusCode), c.Built ∧ ofJson? (.str " 103") = some code ∧
      c.classify code = .verifying ∧ c.classify (.of " 103") = .needsOtp := by
  refine ⟨?_, ?_, .standard, ⟨" 103"⟩, Classifier.built_standard, rfl, by decide, by decide⟩
  · have hcheck : (ofJson? (storedOrder "bidv")).any (fun o : Order =>
        !askingBidv.requiresRetrieval o &&
          askingBidv.requiresRetrieval { o with provider := some (.of "bidv") }) = true := by
      decide +kernel
    obtain ⟨o, ho, hcheck⟩ := (Option.any_eq_true _ _).mp hcheck
    rw [Bool.and_eq_true, Bool.not_eq_true'] at hcheck
    exact ⟨askingBidv, o, .withRetrievalProvider (.asking rfl) _,
      ⟨storedOrder "bidv", _, ho, rfl, rfl⟩, hcheck⟩
  · have hcheck : (ofJson? (sentRequest "bidv")).any (fun request : PaymentRequest =>
        knowingBidv.forProvider (some request.provider) !=
          knowingBidv.forProvider (some (.of "bidv"))) = true := by
      decide +kernel
    obtain ⟨request, hsent, hcheck⟩ := (Option.any_eq_true _ _).mp hcheck
    exact ⟨knowingBidv, request, .register (.ofFallback .plain) _ Classifier.built_standard,
      ⟨sentRequest "bidv", _, hsent, rfl, rfl⟩, by simpa using hcheck⟩

end Wallet
