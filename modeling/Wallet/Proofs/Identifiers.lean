import Wallet.Id

/-!
# Identifiers and their texts

An identifier is read back from its text (`Uuid.ofText?_toText`): hexadecimal digits are read as the
number that was written, and the hyphens between the groups are left out. So what goes by the text of an
identifier goes by the identifier.
-/

namespace Wallet

namespace Json

theorem hexNumber?_append (n : Nat) (cs ds : List Char) :
    hexNumber? n (cs ++ ds) = (hexNumber? n cs).bind fun m => hexNumber? m ds := by
  induction cs generalizing n with
  | nil => rfl
  | cons c cs ih =>
      simp only [List.cons_append, hexNumber?, Option.bind_assoc]
      congr 1
      funext d
      exact ih _

theorem hexDigit?_digitChar {d : Nat} (h : d < 16) : hexDigit? d.digitChar = some d := by
  revert d
  decide

theorem hexNumber?_zeros (k : Nat) (cs : List Char) :
    hexNumber? 0 (List.replicate k '0' ++ cs) = hexNumber? 0 cs := by
  induction k with
  | zero => rfl
  | succ k ih => exact ih

theorem hexNumber?_toDigits (n : Nat) : hexNumber? 0 (Nat.toDigits 16 n) = some n := by
  induction n using Nat.strongRecOn with
  | ind n ih =>
      by_cases hsmall : n < 16
      · rw [Nat.toDigits_of_lt_base hsmall]
        simp [hexNumber?, hexDigit?_digitChar hsmall]
      · rw [Nat.toDigits_of_base_le (by decide) (by omega), hexNumber?_append, ih _ (by omega)]
        have hlast : n % 16 < 16 := Nat.mod_lt _ (by decide)
        simp only [Option.bind_some, hexNumber?, hexDigit?_digitChar hlast]
        congr 1
        omega

/-- Digits are read as the number that was written. -/
theorem hexNumber?_hexDigits (width n : Nat) : hexNumber? 0 (hexDigits width n) = some n :=
  (hexNumber?_zeros _ _).trans (hexNumber?_toDigits n)

theorem length_hexDigits {width n : Nat} (h : (Nat.toDigits 16 n).length ≤ width) :
    (hexDigits width n).length = width := by
  simp only [hexDigits, List.length_append, List.length_replicate]
  omega

theorem mem_toDigits {c : Char} {n : Nat} (h : c ∈ Nat.toDigits 16 n) :
    ∃ d < 16, c = d.digitChar := by
  induction n using Nat.strongRecOn with
  | ind n ih =>
      by_cases hsmall : n < 16
      · rw [Nat.toDigits_of_lt_base hsmall, List.mem_singleton] at h
        exact ⟨n, hsmall, h⟩
      · rw [Nat.toDigits_of_base_le (by decide) (by omega), List.mem_append,
          List.mem_singleton] at h
        rcases h with hrest | hlast
        · exact ih _ (by omega) hrest
        · exact ⟨n % 16, Nat.mod_lt _ (by decide), hlast⟩

/-- No digit is a hyphen or the first letter of a name space. -/
theorem digitChar_plain : ∀ d < 16, d.digitChar ≠ '-' ∧ d.digitChar.toLower ≠ 'u' := by decide

/-- Every character is one of the sixteen digits, the letters among them in lower case. -/
theorem mem_hexDigits {c : Char} {width n : Nat} (h : c ∈ hexDigits width n) :
    ∃ d < 16, c = d.digitChar := by
  rcases List.mem_append.mp h with hzero | hdigit
  · exact ⟨0, by decide, List.eq_of_mem_replicate hzero⟩
  · exact mem_toDigits hdigit

end Json

namespace Uuid

/-- Thirty-two digits in their groups. -/
def hyphenated (digits : List Char) : List Char :=
  digits.take 8 ++ '-' :: ((digits.drop 8).take 4 ++ '-' :: ((digits.drop 12).take 4 ++
    '-' :: ((digits.drop 16).take 4 ++ '-' :: (digits.drop 20).take 12)))

theorem toList_toText (u : Uuid) : u.toText.toList = hyphenated (Json.hexDigits 32 u.bits) := by
  simp [toText, hyphenated]

variable {ds : List Char}

/-- The groups are all there is. -/
theorem groups_append (h : ds.length = 32) : ds.take 8 ++ ((ds.drop 8).take 4 ++
    ((ds.drop 12).take 4 ++ ((ds.drop 16).take 4 ++ (ds.drop 20).take 12))) = ds := by
  have hend : (ds.drop 20).take 12 = ds.drop 20 := List.take_of_length_le (by simp [h])
  have hjoin (k n : Nat) : (ds.drop k).take n ++ ds.drop (k + n) = ds.drop k := by
    rw [← List.drop_drop]
    exact List.take_append_drop n _
  rw [hend, hjoin 16 4, hjoin 12 4, hjoin 8 4]
  exact List.take_append_drop 8 ds

theorem filter_hyphenated (h : ds.length = 32) (hno : ∀ c ∈ ds, c ≠ '-') :
    (hyphenated ds).filter (· != '-') = ds := by
  have hkept {cs : List Char} (hcs : ∀ c ∈ cs, c ∈ ds) : cs.filter (· != '-') = cs :=
    List.filter_eq_self.mpr fun c hc => by simpa using hno c (hcs c hc)
  have hgroup (k n : Nat) : ((ds.drop k).take n).filter (· != '-') = (ds.drop k).take n :=
    hkept fun c hc => List.mem_of_mem_drop (List.mem_of_mem_take hc)
  have hfirst : (ds.take 8).filter (· != '-') = ds.take 8 := hgroup 0 8
  have hdash (cs : List Char) : ('-' :: cs).filter (· != '-') = cs.filter (· != '-') := rfl
  unfold hyphenated
  rw [List.filter_append, hdash, List.filter_append, hdash, List.filter_append, hdash,
    List.filter_append, hdash, hfirst, hgroup, hgroup, hgroup, hgroup]
  exact groups_append h

theorem ofHyphenated?_hyphenated (h : ds.length = 32) (hno : ∀ c ∈ ds, c ≠ '-') :
    ofHyphenated? (hyphenated ds) = ofDigits? ds := by
  have hplaces : (hyphenated ds).length = 36 ∧ (hyphenated ds)[8]? = some '-' ∧
      (hyphenated ds)[13]? = some '-' ∧ (hyphenated ds)[18]? = some '-' ∧
      (hyphenated ds)[23]? = some '-' := by
    simp [hyphenated, h]
  unfold ofHyphenated?
  rw [if_pos hplaces, filter_hyphenated h hno]

/-- An identifier is read back from its text. -/
theorem ofText?_toText (u : Uuid) : ofText? u.toText = some u := by
  have hlength : (Json.hexDigits 32 u.bits).length = 32 :=
    Json.length_hexDigits ((Nat.length_toDigits_le_iff (by decide) (by decide)).mpr u.lt)
  have hdigit {c : Char} (hc : c ∈ Json.hexDigits 32 u.bits) : c ≠ '-' ∧ c.toLower ≠ 'u' := by
    obtain ⟨d, hd, rfl⟩ := Json.mem_hexDigits hc
    exact Json.digitChar_plain d hd
  have hread : ofDigits? (Json.hexDigits 32 u.bits) = some u := by
    unfold ofDigits?
    rw [if_pos hlength, Json.hexNumber?_hexDigits, Option.map_some]
    obtain ⟨bits, hlt⟩ := u
    simp only [ofNat, Nat.mod_eq_of_lt hlt]
  have hlong : u.toText.toList.length = 36 := by
    rw [toList_toText]
    simp [hyphenated, hlength]
  have hname : ¬(u.toText.toList.take urn.length).map Char.toLower = urn := by
    rw [toList_toText]
    generalize Json.hexDigits 32 u.bits = ds at hlength hdigit
    cases ds with
    | nil => cases hlength
    | cons c ds =>
        intro heq
        exact (hdigit (.head _)).2 (List.cons.inj heq).1
  unfold ofText?
  dsimp only
  rw [if_neg (by omega), if_neg hname, if_neg (by omega), toList_toText,
    ofHyphenated?_hyphenated hlength fun c hc => (hdigit hc).1, hread]

theorem toText_injective {u v : Uuid} (h : u.toText = v.toText) : u = v := by
  have hread := ofText?_toText u
  rw [h, ofText?_toText v] at hread
  exact (Option.some.inj hread).symm

end Uuid

theorem OrderId.toString_injective {id id' : OrderId} (h : toString id = toString id') : id = id' :=
  congrArg OrderId.mk (Uuid.toText_injective h)

end Wallet
