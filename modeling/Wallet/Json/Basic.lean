/-!
# JSON values and JSON forms

A JSON value keeps integer literals apart from all other numbers, because a field that holds an
integer accepts no number written with a point or an exponent. `JsonForm` gives a type its JSON
form: every value is written, and a JSON value is read back or refused. Nothing is coerced.
-/

namespace Wallet

/-- A JSON value. `real` holds a number that is not an integer literal, as it was written. -/
inductive Json where
  | null
  | bool (b : Bool)
  | int (n : Int)
  | real (literal : String)
  | str (s : String)
  | arr (items : List Json)
  | obj (fields : List (String × Json))
deriving Inhabited

/-- The JSON form of a type: how a value is written, and which JSON values stand for one. -/
class JsonForm (α : Type) where
  toJson : α → Json
  ofJson? : Json → Option α

export JsonForm (toJson ofJson?)

namespace Json

/-! ## Integers -/

/-- An integer literal from `lo` to `hi`. -/
def intWithin? (lo hi : Int) : Json → Option Int
  | .int n => if lo ≤ n ∧ n ≤ hi then some n else none
  | _ => none

/-- A natural number below `bound`. -/
def natBelow? (bound : Nat) : Json → Option Nat
  | .int (.ofNat n) => if n < bound then some n else none
  | _ => none

/-- One more than the largest number of 32 bits. -/
def bound32 : Nat := 4294967296

/-- One more than the largest number of 64 bits. -/
def bound64 : Nat := 18446744073709551616

def nat (n : Nat) : Json := .int n

/-! ## Names

A value of an enumeration is written as its name. It is also read from an object whose one key is
the name and whose value is null. -/

def name? : Json → Option String
  | .str s => some s
  | .obj [(s, .null)] => some s
  | _ => none

/-- The first value of `all` that has the name. -/
def ofName? {α : Type} (all : List α) (name : α → String) (j : Json) : Option α :=
  j.name?.bind fun s => all.find? fun a => name a == s

/-! ## Records

A record is written as an object. It is read from an object, whatever else the object holds, and
also from an array of its fields in order, of which the last `defaulted` may be left out. -/

/-- The fields of a record by name. -/
def record? (names : List String) (defaulted : Nat) : Json → Option (List (String × Json))
  | .obj fields => some fields
  | .arr items =>
      if names.length - defaulted ≤ items.length ∧ items.length ≤ names.length then
        some (names.zip items)
      else none
  | _ => none

end Json

open Json

instance : JsonForm Bool where
  toJson := .bool
  ofJson?
    | .bool b => some b
    | _ => none

instance : JsonForm String where
  toJson := .str
  ofJson?
    | .str s => some s
    | _ => none

instance {α : Type} [JsonForm α] : JsonForm (Option α) where
  toJson
    | none => .null
    | some a => toJson a
  ofJson?
    | .null => some none
    | j => (ofJson? j).map some

instance {α : Type} [JsonForm α] : JsonForm (List α) where
  toJson xs := .arr (xs.map toJson)
  ofJson?
    | .arr items => items.mapM ofJson?
    | _ => none

/-- A field that has to be there. -/
def Json.need {α : Type} [JsonForm α] (fields : List (String × Json)) (key : String) : Option α :=
  (fields.lookup key).bind ofJson?

/-- A field that is absent when it is missing or null. -/
def Json.optional {α : Type} [JsonForm α] (fields : List (String × Json)) (key : String) :
    Option (Option α) :=
  match fields.lookup key with
  | none => some none
  | some j => ofJson? j

end Wallet
