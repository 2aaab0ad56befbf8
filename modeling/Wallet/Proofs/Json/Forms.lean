import Wallet.Money
import Wallet.Proofs.Json.Text
import Wallet.Proofs.Time.Text
import Wallet.Provider.Code

/-!
# Faithful JSON forms

A form is faithful at a value if the value has a text and is read back from it. It is so at every value
of the types that the fields of a record have, leap seconds aside, and a record then is read field by
field, wherever its fields stand.
-/

namespace Wallet.Json

variable {α β : Type} [JsonForm α] [JsonForm β]

/-- The JSON form of the value has a text, and stands for the value. -/
structure Faithful (a : α) : Prop where
  proper : (toJson a).Proper
  read : ofJson? (toJson a) = some a

/-- The value is read back from the text of its form. -/
theorem Faithful.parse {a : α} (h : Faithful a) :
    (parse? (toJson a).render).bind ofJson? = some a := by
  rw [parse?_render h.proper, Option.bind_some, h.read]

/-! ## Types of fields -/

theorem faithful_bool (b : Bool) : Faithful b := ⟨.bool b, rfl⟩

theorem faithful_string (s : String) : Faithful s := ⟨.str s, rfl⟩

theorem faithful_money (a : Money) : Faithful a := by
  refine ⟨.int a.minor, ?_⟩
  show (intWithin? _ _ (.int a.minor)).bind Money.ofInt? = some a
  rw [intWithin?, if_pos ⟨a.min_le, a.le_max⟩, Option.bind_some, Money.ofInt?,
    dif_pos ⟨a.min_le, a.le_max⟩]

theorem faithful_uuid (u : Uuid) : Faithful u := ⟨.str u.toText, u.ofText?_toText⟩

/-- An instant is faithful unless it is a leap second in the middle of a minute. -/
theorem faithful_timestamp {t : Timestamp} (h : t.isLeap = false) : Faithful t :=
  ⟨.str t.toText, t.ofText?_toText_iff.mpr fun hleap => absurd hleap (by simp [h])⟩

/-- A wrapper is written and read as what it wraps. -/
theorem Faithful.wrap {a : α} (h : Faithful a) (wrap : α → β) (hto : toJson (wrap a) = toJson a)
    (hof : ∀ j, ofJson? j = (ofJson? j).map wrap) : Faithful (wrap a) := by
  refine ⟨?_, ?_⟩
  · rw [hto]
    exact h.proper
  · rw [hof, hto, h.read, Option.map_some]

theorem faithful_orderId (id : OrderId) : Faithful id :=
  (faithful_uuid id.uuid).wrap OrderId.mk rfl fun _ => rfl

theorem faithful_transactionId (id : TransactionId) : Faithful id :=
  (faithful_uuid id.uuid).wrap TransactionId.mk rfl fun _ => rfl

theorem faithful_userId (id : UserId) : Faithful id :=
  (faithful_uuid id.uuid).wrap UserId.mk rfl fun _ => rfl

theorem faithful_providerCode (c : ProviderCode) : Faithful c :=
  (faithful_string c.text).wrap ProviderCode.mk rfl fun _ => rfl

/-- A value is the only one of its name. -/
theorem ofName?_name {α : Type} {all : List α} {name : α → String} (hnames : (all.map name).Nodup)
    {a : α} (ha : a ∈ all) : ofName? all name (.str (name a)) = some a := by
  show all.find? (fun b => name b == name a) = some a
  induction all with
  | nil => nomatch ha
  | cons b all ih =>
      rw [List.map_cons, List.nodup_cons] at hnames
      rcases List.mem_cons.mp ha with rfl | ha
      · exact List.find?_cons_of_pos (beq_self_eq_true _)
      · have hne : name b ≠ name a := fun heq => hnames.1 (heq ▸ List.mem_map_of_mem ha)
        rw [List.find?_cons_of_neg (by simpa using hne), ih hnames.2 ha]

/-- An absent value is null, so a value must not be. -/
theorem faithful_option (hnull : ofJson? .null = (none : Option α)) (h : ∀ a : α, Faithful a)
    (o : Option α) : Faithful o := by
  cases o with
  | none => exact ⟨.null, rfl⟩
  | some a =>
      refine ⟨(h a).proper, ?_⟩
      have hread := (h a).read
      show ofJson? (toJson a) = some (some a)
      generalize toJson a = j at hread
      cases j with
      | null =>
          rw [hnull] at hread
          cases hread
      | _ => exact congrArg (Option.map some) hread

/-! ## Records -/

theorem lookup_of_mem {fields : List (String × Json)} (hdistinct : (fields.map Prod.fst).Nodup)
    {key : String} {j : Json} (h : (key, j) ∈ fields) : fields.lookup key = some j := by
  induction fields with
  | nil => nomatch h
  | cons f fields ih =>
      obtain ⟨other, i⟩ := f
      rw [List.map_cons, List.nodup_cons] at hdistinct
      rcases List.mem_cons.mp h with heq | h
      · cases heq
        exact List.lookup_cons_self
      · have hne : key ≠ other := fun heq =>
          hdistinct.1 (List.mem_map.mpr ⟨(key, j), h, heq⟩)
        rw [List.lookup_cons, beq_false_of_ne hne]
        exact ih hdistinct.2 h

section Reading

variable {fields : List (String × Json)} {key : String}

theorem need_of_lookup {a : α} (h : Faithful a) (hkey : fields.lookup key = some (toJson a)) :
    need fields key = some a := by
  rw [need, hkey, Option.bind_some, h.read]

theorem optional_of_lookup {o : Option α} (h : Faithful o)
    (hkey : fields.lookup key = some (toJson o)) : optional fields key = some o := by
  rw [optional, hkey]
  exact h.read

end Reading

end Wallet.Json
