import Wallet.Json.Basic
import Wallet.Text.Numeral

/-!
# Reading JSON text

A recursive reader over characters. It takes the length of the text as a bound on the nesting, so
it always ends. Of two fields with one key in an object the later one counts.
-/

namespace Wallet.Json

open Wallet.Text

def isSpace (c : Char) : Bool := c == ' ' || c == '\t' || c == '\n' || c == '\r'

def skip (cs : List Char) : List Char := cs.dropWhile isSpace

def hexDigit? (c : Char) : Option Nat :=
  if '0' ≤ c ∧ c ≤ '9' then some (c.toNat - '0'.toNat)
  else if 'a' ≤ c ∧ c ≤ 'f' then some (c.toNat - 'a'.toNat + 10)
  else if 'A' ≤ c ∧ c ≤ 'F' then some (c.toNat - 'A'.toNat + 10)
  else none

def hexNumber? : Nat → List Char → Option Nat
  | n, [] => some n
  | n, c :: cs => (hexDigit? c).bind fun d => hexNumber? (n * 16 + d) cs

/-- The character of a pair of surrogates. -/
def joinSurrogates (high low : Nat) : Char :=
  Char.ofNat (0x10000 + (high - 0xD800) * 0x400 + (low - 0xDC00))

/-- The rest of a string after its opening quote. `fuel` bounds the characters read. -/
def readString : Nat → List Char → List Char → Option (String × List Char)
  | 0, _, _ => none
  | _, [], _ => none
  | fuel + 1, c :: cs, read =>
      if c == '"' then some (String.ofList read.reverse, cs)
      else if c != '\\' then readString fuel cs (c :: read)
      else
        match cs with
        | 'n' :: rest => readString fuel rest ('\n' :: read)
        | 't' :: rest => readString fuel rest ('\t' :: read)
        | 'r' :: rest => readString fuel rest ('\r' :: read)
        | 'b' :: rest => readString fuel rest ('\x08' :: read)
        | 'f' :: rest => readString fuel rest ('\x0c' :: read)
        | 'u' :: rest => do
            let code ← hexNumber? 0 (rest.take 4)
            let rest := rest.drop 4
            if 0xD800 ≤ code ∧ code < 0xDC00 then
              match rest with
              | '\\' :: 'u' :: more =>
                  let low ← hexNumber? 0 (more.take 4)
                  readString fuel (more.drop 4) (joinSurrogates code low :: read)
              | _ => none
            else readString fuel rest (Char.ofNat code :: read)
        | q :: rest => readString fuel rest (q :: read)
        | [] => none

/-- A number is an integer only when it is written with digits alone; minus zero is not one. -/
def ofNumber (literal : List Char) : Json :=
  let (negative, digits) := match literal with
    | '-' :: rest => (true, rest)
    | cs => (false, cs)
  match digits.isEmpty, digits? 0 digits with
  | false, some n =>
      if negative then
        if n = 0 then .real "-0" else .int (-n)
      else .int n
  | _, _ => .real (String.ofList literal)

def isNumeric (c : Char) : Bool :=
  c.isDigit || c == '-' || c == '+' || c == '.' || c == 'e' || c == 'E'

/-- The fields with one of them set, an earlier value of the key removed. -/
def setField (fields : List (String × Json)) (key : String) (j : Json) : List (String × Json) :=
  fields.filter (fun f => f.1 != key) ++ [(key, j)]

mutual

def readValue : Nat → List Char → Option (Json × List Char)
  | 0, _ => none
  | fuel + 1, cs =>
      match skip cs with
      | 'n' :: 'u' :: 'l' :: 'l' :: rest => some (.null, rest)
      | 't' :: 'r' :: 'u' :: 'e' :: rest => some (.bool true, rest)
      | 'f' :: 'a' :: 'l' :: 's' :: 'e' :: rest => some (.bool false, rest)
      | '"' :: rest => (readString (rest.length + 1) rest []).map fun r => (.str r.1, r.2)
      | '[' :: rest =>
          match skip rest with
          | ']' :: rest => some (.arr [], rest)
          | _ => readItems fuel rest []
      | '\x7b' :: rest =>
          match skip rest with
          | '\x7d' :: rest => some (.obj [], rest)
          | _ => readFields fuel rest []
      | c :: rest =>
          if isNumeric c then
            some (ofNumber ((c :: rest).takeWhile isNumeric), (c :: rest).dropWhile isNumeric)
          else none
      | [] => none

def readItems : Nat → List Char → List Json → Option (Json × List Char)
  | 0, _, _ => none
  | fuel + 1, cs, items => do
      let (j, rest) ← readValue fuel cs
      match skip rest with
      | ',' :: rest => readItems fuel rest (j :: items)
      | ']' :: rest => some (.arr (j :: items).reverse, rest)
      | _ => none

def readFields : Nat → List Char → List (String × Json) → Option (Json × List Char)
  | 0, _, _ => none
  | fuel + 1, cs, fields =>
      match skip cs with
      | '"' :: rest => do
          let (key, rest) ← readString (rest.length + 1) rest []
          match skip rest with
          | ':' :: rest =>
              let (j, rest) ← readValue fuel rest
              match skip rest with
              | ',' :: rest => readFields fuel rest (setField fields key j)
              | '\x7d' :: rest => some (.obj (setField fields key j), rest)
              | _ => none
          | _ => none
      | _ => none

end

/-- The JSON value a text stands for, if it is one and nothing but blanks follows it. -/
def parse? (s : String) : Option Json :=
  let cs := s.toList
  match readValue (cs.length + 1) cs with
  | some (j, rest) => if (skip rest).isEmpty then some j else none
  | none => none

end Wallet.Json
