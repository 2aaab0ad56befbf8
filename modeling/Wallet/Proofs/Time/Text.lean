import Wallet.Proofs.Text.Numerals
import Wallet.Proofs.Time.Calendar
import Wallet.Time.Timestamp

/-!
# Instants and their texts

An instant is written as its date and its time of day, and each part is read back as it was written,
whatever follows it. So the text of an instant stands for the instant (`ofText?_toText_iff`), to the
nanosecond and from the first instant there is to the last. A leap second is written as the sixtieth
second of its minute; one that is kept in the middle of a minute is written as the second after it, and
so is read as that second.
-/

namespace Wallet.Timestamp

open Text

/-! ## Digits -/

/-- A run of digits is read to its end if it is as long as it may be or ends before another character. -/
theorem readDigits_append {most n : Nat} {ds rest : List Char} (hds : StandsFor ds n)
    (hmost : ds.length ≤ most) (hstop : ds.length = most ∨ rest.head?.all (!·.isDigit) = true) :
    readDigits most (ds ++ rest) = some (n, rest) := by
  have htaken : ((ds ++ rest).take most).takeWhile Char.isDigit = ds := by
    rw [List.take_append, List.take_of_length_le hmost, List.takeWhile_append_of_pos hds.isDigit]
    rcases hstop with hfull | hother
    · rw [hfull, Nat.sub_self, List.take_zero, List.takeWhile_nil, List.append_nil]
    · cases rest with
      | nil => simp
      | cons c rest =>
          have hc : ¬c.isDigit = true := by simpa using hother
          cases most - ds.length with
          | zero => simp
          | succ k => rw [List.take_succ_cons, List.takeWhile_cons_of_neg hc, List.append_nil]
  unfold readDigits
  simp only [htaken, List.isEmpty_iff, if_neg hds.ne_nil, hds.value, Option.map_some,
    List.drop_left]

theorem isBlank_of_isDigit {c : Char} (h : c.isDigit = true) : isBlank c = false := by
  have hrange : 48 ≤ c.toNat ∧ c.toNat ≤ 57 := by
    simpa [Char.isDigit, UInt32.le_iff_toNat_le] using h
  simp [isBlank]
  omega

theorem trimStart_of_not_blank {c : Char} (h : isBlank c = false) (cs : List Char) :
    trimStart (c :: cs) = c :: cs :=
  List.dropWhile_cons_of_neg (by simp [h])

theorem trimStart_digits {n : Nat} {ds : List Char} (hds : StandsFor ds n) (rest : List Char) :
    trimStart (ds ++ rest) = ds ++ rest := by
  cases ds with
  | nil => exact absurd rfl hds.ne_nil
  | cons c ds => exact trimStart_of_not_blank (isBlank_of_isDigit (hds.isDigit c (.head _))) _

/-- A number of two digits. -/
theorem readNumber_padded {n : Nat} (hn : n < 100) (rest : List Char) :
    readNumber 2 ((padded 2 n).toList ++ rest) = some (n, rest) := by
  have hlength : (padded 2 n).toList.length = 2 := length_padded (by decide) hn
  unfold readNumber
  rw [trimStart_digits (standsFor_padded 2 n)]
  exact readDigits_append (standsFor_padded 2 n) hlength.le (.inl hlength)

theorem readMark_self {mark : Char} (h : isBlank mark = false) (rest : List Char) :
    readMark mark (mark :: rest) = some rest := by
  unfold readMark
  rw [trimStart_of_not_blank h]
  exact if_pos rfl

/-! ## Years -/

/-- Behind a sign all digits count. -/
theorem readDigits_signed (n : Nat) (rest : List Char) :
    readDigits ((padded 4 n).toList ++ '-' :: rest).length ((padded 4 n).toList ++ '-' :: rest) =
      some (n, '-' :: rest) :=
  readDigits_append (standsFor_padded 4 n) (by simp) (.inr rfl)

theorem readYear_minus (cs : List Char) :
    readYear ('-' :: cs) = (readDigits cs.length cs).map fun r => (-(r.1 : Int), r.2) := rfl

theorem readYear_plus (cs : List Char) :
    readYear ('+' :: cs) = (readDigits cs.length cs).map fun r => ((r.1 : Int), r.2) := rfl

theorem readYear_plain {n : Nat} (hn : n < 10000) (rest : List Char) :
    readYear ((padded 4 n).toList ++ '-' :: rest) = some ((n : Int), '-' :: rest) := by
  have hds := standsFor_padded 4 n
  have hlength : (padded 4 n).toList.length = 4 := length_padded (by decide) hn
  have hread : readDigits 4 ((padded 4 n).toList ++ '-' :: rest) = some (n, '-' :: rest) :=
    readDigits_append hds hlength.le (.inl hlength)
  unfold readYear
  rw [trimStart_digits hds]
  generalize (padded 4 n).toList = ds at hds hread ⊢
  cases ds with
  | nil => exact absurd rfl hds.ne_nil
  | cons c ds =>
      have hdigit : c.isDigit = true := hds.isDigit c (.head _)
      -- a digit is no sign
      split
      · next heq =>
          cases heq
          cases hdigit
      · next heq =>
          cases heq
          cases hdigit
      · rw [hread]
        rfl

theorem readYear_yearText (year : Int) (rest : List Char) :
    readYear ((yearText year).toList ++ '-' :: rest) = some (year, '-' :: rest) := by
  unfold yearText
  split
  · next hplain =>
      have hyear : (year.toNat : Int) = year := by omega
      rw [readYear_plain (by omega), hyear]
  · by_cases hneg : year < 0
    · have hyear : -(year.natAbs : Int) = year := by omega
      rw [if_pos hneg, String.toList_append, show "-".toList = ['-'] from rfl, List.append_assoc,
        List.singleton_append, readYear_minus, readDigits_signed, Option.map_some, hyear]
    · have hyear : (year.natAbs : Int) = year := by omega
      rw [if_neg hneg, String.toList_append, show "+".toList = ['+'] from rfl, List.append_assoc,
        List.singleton_append, readYear_plus, readDigits_signed, Option.map_some, hyear]

/-! ## Fractions of a second -/

theorem readFraction_dot (cs : List Char) : readFraction ('.' :: cs) =
    (readDigits 9 cs).bind fun r =>
      some (r.1 * Nat.pow 10 (9 - (cs.length - r.2.length)), r.2.dropWhile Char.isDigit) := rfl

theorem readFraction_point {width n : Nat} (hwidth : 0 < width) (hmost : width ≤ 9)
    (hn : n < 10 ^ width) (rest : List Char) :
    readFraction (("." ++ padded width n).toList ++ 'Z' :: rest) =
      some (n * 10 ^ (9 - width), 'Z' :: rest) := by
  have hlength : (padded width n).toList.length = width := length_padded hwidth hn
  have hread : readDigits 9 ((padded width n).toList ++ 'Z' :: rest) = some (n, 'Z' :: rest) :=
    readDigits_append (standsFor_padded width n) (by omega) (.inr rfl)
  have hused : ((padded width n).toList ++ 'Z' :: rest).length - ('Z' :: rest).length = width := by
    rw [List.length_append, Nat.add_sub_cancel, hlength]
  rw [String.toList_append, show ".".toList = ['.'] from rfl, List.append_assoc,
    List.singleton_append, readFraction_dot, hread, Option.bind_some, hused]
  rfl

/-- No digit that is left out of a fraction is missed. -/
theorem readFraction_fractionText {nanos : Nat} (hn : nanos < 1000000000) (rest : List Char) :
    readFraction ((fractionText nanos).toList ++ 'Z' :: rest) = some (nanos, 'Z' :: rest) := by
  unfold fractionText
  split
  · next hzero =>
      rw [hzero]
      rfl
  · split
    · next hmillis =>
        have hexact : nanos / 1000000 * 10 ^ (9 - 3) = nanos := by omega
        rw [readFraction_point (by decide) (by decide) (by omega), hexact]
    · split
      · next hmicros =>
          have hexact : nanos / 1000 * 10 ^ (9 - 6) = nanos := by omega
          rw [readFraction_point (by decide) (by decide) (by omega), hexact]
      · have hexact : nanos * 10 ^ (9 - 9) = nanos := Nat.mul_one nanos
        rw [readFraction_point (by decide) (by decide) hn, hexact]

/-! ## The whole text -/

/-- The text of an instant, part by part. -/
def parts (date : Civil.Date) (hour minute second nanos : Nat) : List Char :=
  (yearText date.year).toList ++ '-' :: ((padded 2 date.month).toList ++ '-' ::
    ((padded 2 date.day).toList ++ 'T' :: ((padded 2 hour).toList ++ ':' ::
      ((padded 2 minute).toList ++ ':' :: ((padded 2 second).toList ++
        ((fractionText nanos).toList ++ ['Z']))))))

theorem toList_toText (t : Timestamp) : t.toText.toList =
    parts (.ofDays (t.secs / 86400)) ((t.secs % 86400).toNat / 3600)
      ((t.secs % 86400).toNat / 60 % 60) ((t.secs % 86400).toNat % 60 + t.nanos / 1000000000)
      (t.nanos % 1000000000) := by
  simp [toText, parts]

theorem readOffset_utc : readOffset (trimStart ['Z']) = some (0, []) := rfl

/-- A sixtieth second is a leap second: the second before it, with a second more of nanoseconds. -/
theorem ofText?_parts {s : String} {date : Civil.Date} {hour minute second nanos : Nat}
    (hs : s.toList = parts date hour minute second nanos) (hdate : date.valid = true)
    (hyear : -262143 ≤ date.year ∧ date.year ≤ 262142) (hhour : hour < 24) (hminute : minute < 60)
    (hsecond : second ≤ 60) (hnanos : nanos < 1000000000) :
    ofText? s = ofParts?
      (date.toDays * 86400 +
        (hour * 3600 + minute * 60 + (second - if second = 60 then 1 else 0) : Nat))
      (nanos + (if second = 60 then 1 else 0) * 1000000000) := by
  obtain ⟨hmonth, hday⟩ := Civil.Date.lt_of_valid hdate
  unfold ofText?
  rw [hs, parts]
  dsimp only [bind]
  rw [readYear_yearText, Option.bind_some, readMark_self (by decide), Option.bind_some,
    readNumber_padded hmonth, Option.bind_some, readMark_self (by decide), Option.bind_some,
    readNumber_padded hday, Option.bind_some]
  split
  · next rest heq =>
      obtain rfl := (List.cons.inj heq).2
      rw [Option.bind_some, readNumber_padded (by omega), Option.bind_some, readMark_self (by decide),
        Option.bind_some, readNumber_padded (by omega), Option.bind_some, readMark_self (by decide),
        Option.bind_some, readNumber_padded (by omega), Option.bind_some,
        readFraction_fractionText hnanos, Option.bind_some, readOffset_utc, Option.bind_some]
      dsimp only
      rw [if_pos ⟨rfl, hdate, hyear.1, hyear.2, hhour, hminute, hsecond, by decide⟩, Int.sub_zero]
  · next heq => simp at heq
  · next heq => simp at heq
  · next hother _ _ => exact (hother _ rfl).elim

theorem ofParts?_eq_some_iff {secs : Int} {nanos : Nat} {t : Timestamp} :
    ofParts? secs nanos = some t ↔ secs = t.secs ∧ nanos = t.nanos := by
  unfold ofParts?
  constructor
  · intro h
    split at h
    · cases h
      exact ⟨rfl, rfl⟩
    · cases h
  · rintro ⟨rfl, rfl⟩
    exact dif_pos ⟨⟨t.min_le, t.le_max⟩, t.nanos_lt⟩

/-- An instant is read back from its text, unless it is a leap second in the middle of a minute. -/
theorem ofText?_toText_iff {t : Timestamp} :
    ofText? t.toText = some t ↔ (t.isLeap = true → t.timeOfDay % 60 = 59) := by
  have hmin := t.min_le
  have hmax := t.le_max
  have hnanos := t.nanos_lt
  rw [ofText?_parts (toList_toText t) (Civil.valid_ofDays _)
    (Civil.year_ofDays (by omega) (by omega)) (by omega) (by omega) (by omega) (by omega),
    Civil.toDays_ofDays, ofParts?_eq_some_iff]
  unfold isLeap timeOfDay
  rw [decide_eq_true_eq]
  split <;> omega

end Wallet.Timestamp
