import Wallet.Time.Civil
import Wallet.Time.Duration
import Wallet.Text.Blank

/-!
# Timestamps

An instant of civil time in UTC, from the first day of the year -262143 to the last day of the year
262142, with nanoseconds. A leap second is the second before it with a thousand million more
nanoseconds.
-/

namespace Wallet

/-- An instant in seconds and nanoseconds since 1970-01-01T00:00:00Z. -/
structure Timestamp where
  secs : Int
  nanos : Nat
  min_le : -8334601228800 ≤ secs
  le_max : secs ≤ 8210266876799
  nanos_lt : nanos < 2000000000
deriving DecidableEq

namespace Timestamp

def ofParts? (secs : Int) (nanos : Nat) : Option Timestamp :=
  if h : (-8334601228800 ≤ secs ∧ secs ≤ 8210266876799) ∧ nanos < 2000000000 then
    some ⟨secs, nanos, h.1.1, h.1.2, h.2⟩
  else none

/-- The last instant there is, leap seconds aside. -/
def last : Timestamp := ⟨8210266876799, 999999999, by decide, by decide, by decide⟩

/-- The start of the epoch. -/
def epoch : Timestamp := ⟨0, 0, by decide, by decide, by decide⟩

instance : Inhabited Timestamp := ⟨epoch⟩

/-- One instant is before another. -/
def before (a b : Timestamp) : Bool :=
  decide (a.secs < b.secs) || (decide (a.secs = b.secs) && decide (a.nanos < b.nanos))

/-- The instant a duration later, if there is one. Leaving a leap second ends it; a sum that stays
inside a leap second keeps it. -/
def add? (t : Timestamp) (d : Duration) : Option Timestamp :=
  if 1000000000 ≤ t.nanos then
    if 0 < d.secs ∨ 2000000000 ≤ t.nanos + d.nanos then
      let nanos := t.nanos - 1000000000 + d.nanos
      ofParts? (t.secs + d.secs + nanos / 1000000000) (nanos % 1000000000)
    else ofParts? t.secs (t.nanos + d.nanos)
  else
    let nanos := t.nanos + d.nanos
    ofParts? (t.secs + d.secs + nanos / 1000000000) (nanos % 1000000000)

/-- The instant a nanosecond later; the last instant stays. -/
def tick (t : Timestamp) : Timestamp :=
  if h : t.nanos + 1 < 1000000000 then ⟨t.secs, t.nanos + 1, t.min_le, t.le_max, by omega⟩
  else if h : t.secs + 1 ≤ 8210266876799 then
    ⟨t.secs + 1, 0, by have := t.min_le; omega, h, by decide⟩
  else t

/-- The seconds since midnight; those of a leap second are the seconds before it. -/
def timeOfDay (t : Timestamp) : Nat := (t.secs % 86400).toNat

/-- Whether the instant lies within a leap second. -/
def isLeap (t : Timestamp) : Bool := decide (1000000000 ≤ t.nanos)

/-- The nanoseconds from `b` to `a`, negative when `a` is the earlier. Days are of equal length: of
two times of day the leap second of the earlier one lies between them and is counted. -/
def nanosSince (a b : Timestamp) : Int :=
  let leap : Int :=
    if b.timeOfDay < a.timeOfDay ∧ b.isLeap then 1
    else if a.timeOfDay < b.timeOfDay ∧ a.isLeap then -1
    else 0
  (a.secs - b.secs + leap) * 1000000000 + (a.nanos - b.nanos : Int)

/-! ## Text

Written as year, month, day, `T`, hour, minute, second, an optional fraction and `Z`. The fraction
has three, six or nine digits, the fewest that are exact, or is left out. A year outside 0 to 9999
has a sign. -/

def yearText (year : Int) : String :=
  if 0 ≤ year ∧ year ≤ 9999 then Text.padded 4 year.toNat
  else (if year < 0 then "-" else "+") ++ Text.padded 4 year.natAbs

def fractionText (nanos : Nat) : String :=
  if nanos = 0 then ""
  else if nanos % 1000000 = 0 then "." ++ Text.padded 3 (nanos / 1000000)
  else if nanos % 1000 = 0 then "." ++ Text.padded 6 (nanos / 1000)
  else "." ++ Text.padded 9 nanos

def toText (t : Timestamp) : String :=
  let date := Civil.Date.ofDays (t.secs / 86400)
  let second := (t.secs % 86400).toNat
  let leap := t.nanos / 1000000000
  yearText date.year ++ "-" ++ Text.padded 2 date.month ++ "-" ++ Text.padded 2 date.day ++ "T" ++
    Text.padded 2 (second / 3600) ++ ":" ++ Text.padded 2 (second / 60 % 60) ++ ":" ++
    Text.padded 2 (second % 60 + leap) ++ fractionText (t.nanos % 1000000000) ++ "Z"

/-! ## Reading

A reader takes characters from the front and gives back the rest. Blanks may stand in front of each
number and each separator. -/

/-- The digits at the front, at least one and at most `most`, as a number. -/
def readDigits (most : Nat) (cs : List Char) : Option (Nat × List Char) :=
  let digits := (cs.take most).takeWhile Char.isDigit
  if digits.isEmpty then none
  else (Text.digits? 0 digits).map fun n => (n, cs.drop digits.length)

def readNumber (most : Nat) (cs : List Char) : Option (Nat × List Char) :=
  readDigits most (Text.trimStart cs)

/-- A year of up to four digits, or of any number of digits behind a sign. -/
def readYear (cs : List Char) : Option (Int × List Char) :=
  match Text.trimStart cs with
  | '-' :: rest => (readDigits rest.length rest).map fun r => (-(r.1 : Int), r.2)
  | '+' :: rest => (readDigits rest.length rest).map fun r => ((r.1 : Int), r.2)
  | rest => (readDigits 4 rest).map fun r => ((r.1 : Int), r.2)

def readMark (mark : Char) (cs : List Char) : Option (List Char) :=
  match Text.trimStart cs with
  | c :: rest => if c = mark then some rest else none
  | [] => none

/-- An optional fraction of a second in nanoseconds; digits behind the ninth are cut off. -/
def readFraction : List Char → Option (Nat × List Char)
  | '.' :: rest => do
      let (n, more) ← readDigits 9 rest
      some (n * Nat.pow 10 (9 - (rest.length - more.length)), more.dropWhile Char.isDigit)
  | rest => some (0, rest)

def isOffsetGap (c : Char) : Bool := c == ':' || Text.isBlank c

/-- The distance of the local time from UTC in seconds. -/
def readOffset (cs : List Char) : Option (Int × List Char) :=
  let signed (sign : Int) (rest : List Char) : Option (Int × List Char) :=
    match rest with
    | h1 :: h2 :: rest => do
        let hours := (← Text.digit? h1) * 10 + (← Text.digit? h2)
        match rest.dropWhile isOffsetGap with
        | m1 :: m2 :: rest =>
            let minutes := (← Text.digit? m1) * 10 + (← Text.digit? m2)
            if minutes < 60 then some (sign * (hours * 3600 + minutes * 60 : Nat), rest) else none
        | _ => none
    | _ => none
  match cs with
  | 'Z' :: rest | 'z' :: rest => some (0, rest)
  | '+' :: rest => signed 1 rest
  | '-' :: rest | '−' :: rest => signed (-1) rest
  | c1 :: c2 :: c3 :: rest =>
      if String.toUpper (String.ofList [c1, c2, c3]) = "UTC" then some (0, rest) else none
  | _ => none

/-- The instant a text stands for, if the whole text is one. -/
def ofText? (s : String) : Option Timestamp := do
  let (year, cs) ← readYear s.toList
  let cs ← readMark '-' cs
  let (month, cs) ← readNumber 2 cs
  let cs ← readMark '-' cs
  let (day, cs) ← readNumber 2 cs
  let cs ← match cs with
    | 'T' :: rest | 't' :: rest | ' ' :: rest => some rest
    | _ => none
  let (hour, cs) ← readNumber 2 cs
  let cs ← readMark ':' cs
  let (minute, cs) ← readNumber 2 cs
  let cs ← readMark ':' cs
  let (second, cs) ← readNumber 2 cs
  let (nanos, cs) ← readFraction cs
  let (offset, cs) ← readOffset (Text.trimStart cs)
  let date : Civil.Date := ⟨year, month, day⟩
  if (Text.trimStart cs).isEmpty ∧ date.valid ∧ -262143 ≤ year ∧ year ≤ 262142 ∧ hour < 24 ∧
      minute < 60 ∧ second ≤ 60 ∧ offset.natAbs < 86400 then
    let leap := if second = 60 then 1 else 0
    ofParts? (date.toDays * 86400 + (hour * 3600 + minute * 60 + (second - leap) : Nat) - offset)
      (nanos + leap * 1000000000)
  else none

instance : JsonForm Timestamp where
  toJson t := .str t.toText
  ofJson?
    | .str s => ofText? s
    | _ => none

end Timestamp

end Wallet
