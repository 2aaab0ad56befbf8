/-!
# Tables

A finite map as a list of rows with distinct keys. A new key goes to the end; a known key keeps its
place. Each operation has one lemma about `get?`, and that is all a caller needs.
-/

namespace Wallet

/-- The rows with `a` under `key`. -/
def putRow {κ α : Type} [DecidableEq κ] (key : κ) (a : α) : List (κ × α) → List (κ × α)
  | [] => [(key, a)]
  | row :: rows => if row.1 = key then (key, a) :: rows else row :: putRow key a rows

theorem mem_keys_putRow {κ α : Type} [DecidableEq κ] (key k : κ) (a : α) (rows : List (κ × α)) :
    k ∈ (putRow key a rows).map Prod.fst ↔ k = key ∨ k ∈ rows.map Prod.fst := by
  induction rows with
  | nil => simp [putRow]
  | cons row rows ih =>
    unfold putRow
    split
    · rename_i h
      simp [← h]
    · simp only [List.map_cons, List.mem_cons, ih]
      grind

theorem nodup_keys_putRow {κ α : Type} [DecidableEq κ] (key : κ) (a : α) (rows : List (κ × α))
    (h : (rows.map Prod.fst).Nodup) : ((putRow key a rows).map Prod.fst).Nodup := by
  induction rows with
  | nil => simp [putRow]
  | cons row rows ih =>
    simp only [List.map_cons, List.nodup_cons] at h
    unfold putRow
    split
    · rename_i heq
      simpa [← heq] using h
    · rename_i hne
      simp only [List.map_cons, List.nodup_cons]
      refine ⟨?_, ih h.2⟩
      rw [mem_keys_putRow]
      rintro (e | m)
      · exact hne e
      · exact h.1 m

/-- A finite map with its rows in the order in which their keys came. -/
structure Table (κ α : Type) where
  rows : List (κ × α)
  distinct : (rows.map Prod.fst).Nodup

namespace Table

variable {κ α : Type} [DecidableEq κ]

def empty : Table κ α := ⟨[], by simp⟩

instance : Inhabited (Table κ α) := ⟨empty⟩

def get? (t : Table κ α) (key : κ) : Option α := t.rows.lookup key

/-- The table with `a` under `key`. -/
def put (t : Table κ α) (key : κ) (a : α) : Table κ α :=
  ⟨putRow key a t.rows, nodup_keys_putRow key a t.rows t.distinct⟩

/-- The table without `key`. -/
def erase (t : Table κ α) (key : κ) : Table κ α :=
  ⟨t.rows.filter fun row => row.1 ≠ key,
    t.distinct.sublist (List.filter_sublist.map Prod.fst)⟩

def size (t : Table κ α) : Nat := t.rows.length

def keys (t : Table κ α) : List κ := t.rows.map Prod.fst

def values (t : Table κ α) : List α := t.rows.map Prod.snd

@[simp] theorem get?_empty (key : κ) : (empty : Table κ α).get? key = none := rfl

theorem get?_put (t : Table κ α) (key k : κ) (a : α) :
    (t.put key a).get? k = if k = key then some a else t.get? k := by
  unfold get? put
  simp only
  induction t.rows with
  | nil => simp only [putRow, List.lookup_cons, List.lookup_nil]; grind
  | cons row rows ih =>
    obtain ⟨j, b⟩ := row
    unfold putRow
    simp only
    split
    · simp only [List.lookup_cons]; grind
    · simp only [List.lookup_cons, ih]; grind

theorem get?_erase (t : Table κ α) (key k : κ) :
    (t.erase key).get? k = if k = key then none else t.get? k := by
  unfold get? erase
  simp only
  induction t.rows with
  | nil => simp
  | cons row rows ih =>
    obtain ⟨j, b⟩ := row
    simp only [List.filter_cons]
    split
    · simp only [List.lookup_cons, ih]; grind
    · simp only [List.lookup_cons, ih]; grind

end Table

end Wallet
