import Wallet.Json.Basic
import Wallet.Json.Reader
import Wallet.Json.Writer

/-!
# Identifiers

Orders, ledger records and users are named by 128-bit identifiers. A fresh identifier carries the
millisecond it was made in its high bits and a counter below them, so identifiers sort by creation.
-/

namespace Wallet

/-- An identifier of 128 bits. -/
structure Uuid where
  bits : Nat
  lt : bits < 340282366920938463463374607431768211456
deriving DecidableEq

namespace Uuid

def ofNat (n : Nat) : Uuid :=
  ⟨n % 340282366920938463463374607431768211456, Nat.mod_lt _ (by decide)⟩

instance : Inhabited Uuid := ⟨ofNat 0⟩

instance : Ord Uuid := ⟨fun a b => compare a.bits b.bits⟩

/-- Lower-case hexadecimal digits in groups of 8, 4, 4, 4 and 12. -/
def toText (u : Uuid) : String :=
  let digits := Json.hexDigits 32 u.bits
  let group (start size : Nat) : String := String.ofList ((digits.drop start).take size)
  group 0 8 ++ "-" ++ group 8 4 ++ "-" ++ group 12 4 ++ "-" ++ group 16 4 ++ "-" ++ group 20 12

/-- Thirty-two hexadecimal digits. -/
def ofDigits? (cs : List Char) : Option Uuid :=
  if cs.length = 32 then (Json.hexNumber? 0 cs).map ofNat else none

/-- Thirty-six characters with hyphens behind the eighth, twelfth, sixteenth and twentieth digit. -/
def ofHyphenated? (cs : List Char) : Option Uuid :=
  if cs.length = 36 ∧ cs[8]? = some '-' ∧ cs[13]? = some '-' ∧ cs[18]? = some '-' ∧
      cs[23]? = some '-' then
    ofDigits? (cs.filter (· != '-'))
  else none

/-- The name space of identifiers, as it stands in front of one; letters of either case will do. -/
def urn : List Char := "urn:uuid:".toList

/-- The hyphenated form alone, in braces or behind its name space, or the digits alone. -/
def ofText? (s : String) : Option Uuid :=
  let cs := s.toList
  if cs.length = 38 ∧ cs[0]? = some '\x7b' ∧ cs[37]? = some '\x7d' then
    ofHyphenated? ((cs.drop 1).take 36)
  else if (cs.take urn.length).map Char.toLower = urn then ofHyphenated? (cs.drop urn.length)
  else if cs.length = 32 then ofDigits? cs
  else ofHyphenated? cs

/-- The version digit. -/
def version (u : Uuid) : Nat := (u.bits >>> 76) % 16

/-- The identifier of version 7 made in a millisecond as the `serial`th of the program. -/
def stamped (millis serial : Nat) : Uuid :=
  ofNat (((millis % 0x1000000000000) <<< 80) + (7 <<< 76) + (((serial >>> 62) % 0x1000) <<< 64) +
    (2 <<< 62) + serial % 0x4000000000000000)

instance : JsonForm Uuid where
  toJson u := .str u.toText
  ofJson?
    | .str s => ofText? s
    | _ => none

end Uuid

/-- The identifier of an order. -/
structure OrderId where
  uuid : Uuid
deriving DecidableEq, Inhabited

/-- The identifier of a ledger record. -/
structure TransactionId where
  uuid : Uuid
deriving DecidableEq, Inhabited

/-- The identifier of a user. -/
structure UserId where
  uuid : Uuid
deriving DecidableEq, Inhabited

instance : ToString OrderId := ⟨fun id => id.uuid.toText⟩

instance : ToString TransactionId := ⟨fun id => id.uuid.toText⟩

instance : ToString UserId := ⟨fun id => id.uuid.toText⟩

instance : JsonForm OrderId := ⟨fun id => toJson id.uuid, fun j => (ofJson? j).map OrderId.mk⟩

instance : JsonForm TransactionId :=
  ⟨fun id => toJson id.uuid, fun j => (ofJson? j).map TransactionId.mk⟩

instance : JsonForm UserId := ⟨fun id => toJson id.uuid, fun j => (ofJson? j).map UserId.mk⟩

/-- Orders in the sequence of their creation. -/
def OrderId.le (a b : OrderId) : Bool := decide (a.uuid.bits ≤ b.uuid.bits)

end Wallet
