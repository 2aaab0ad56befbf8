import Wallet.Json.Writer
import Wallet.Proofs.Identifiers
import Wallet.Proofs.Text.Numerals

/-!
# JSON values and their texts

A value is read back from its text (`parse?_render`), provided that there is a text for it at all: no
object holds two fields of one key, and what is no integer literal is a number all the same.
-/

namespace Wallet.Json

open Text

/-- A JSON value that a text can stand for. -/
inductive Proper : Json → Prop
  | null : Proper .null
  | bool (b : Bool) : Proper (.bool b)
  | int (n : Int) : Proper (.int n)
  | real (c : Char) (cs : List Char) (numeric : ∀ d ∈ c :: cs, isNumeric d = true)
      (noInteger : ofNumber (c :: cs) = .real (String.ofList (c :: cs))) :
      Proper (.real (String.ofList (c :: cs)))
  | str (s : String) : Proper (.str s)
  | arr (items : List Json) (proper : ∀ j ∈ items, Proper j) : Proper (.arr items)
  | obj (fields : List (String × Json)) (proper : ∀ f ∈ fields, Proper f.2)
      (distinct : (fields.map Prod.fst).Nodup) : Proper (.obj fields)

/-! ## Strings -/

theorem readString_quote (fuel : Nat) (cs read : List Char) :
    readString (fuel + 1) ('"' :: cs) read = some (String.ofList read.reverse, cs) := rfl

theorem readString_plain {c : Char} (hquote : c ≠ '"') (hslash : c ≠ '\\') (fuel : Nat)
    (cs read : List Char) : readString (fuel + 1) (c :: cs) read = readString fuel cs (c :: read) := by
  have hquote' : ¬(c == '"') = true := by simpa using hquote
  have hslash' : (c != '\\') = true := by simpa using hslash
  rw [readString.eq_def]
  exact (if_neg hquote').trans (if_pos hslash')

theorem readString_code {code : List Char} {n : Nat} (hlength : code.length = 4)
    (hcode : hexNumber? 0 code = some n) (hn : n < 0xD800) (fuel : Nat) (cs read : List Char) :
    readString (fuel + 1) ('\\' :: 'u' :: (code ++ cs)) read =
      readString fuel cs (Char.ofNat n :: read) := by
  have htake : (code ++ cs).take 4 = code := List.take_left' hlength
  have hdrop : (code ++ cs).drop 4 = cs := List.drop_left' hlength
  show (hexNumber? 0 ((code ++ cs).take 4)).bind _ = _
  rw [htake, hcode, Option.bind_some, hdrop, if_neg (by omega)]

/-- One character of a string is read as the character. -/
theorem readString_escapedChar (c : Char) (fuel : Nat) (cs read : List Char) :
    readString (fuel + 1) (escapedChar c ++ cs) read = readString fuel cs (c :: read) := by
  unfold escapedChar
  split
  · next h => subst h; rfl
  split
  · next h => subst h; rfl
  split
  · next h => subst h; rfl
  split
  · next h => subst h; rfl
  split
  · next h => subst h; rfl
  split
  · next h => subst h; rfl
  split
  · next h => subst h; rfl
  split
  · next hcontrol =>
      have hdigits : (Nat.toDigits 16 c.toNat).length ≤ 4 :=
        (Nat.length_toDigits_le_iff (by decide) (by decide)).mpr (by omega)
      rw [List.cons_append, List.cons_append, readString_code (length_hexDigits hdigits)
        (hexNumber?_hexDigits 4 c.toNat) (by omega), Char.ofNat_toNat]
  · next hquote hslash _ _ _ _ _ _ => exact readString_plain hquote hslash fuel cs read

theorem readString_escaped (s cs read : List Char) {fuel : Nat} (hfuel : s.length < fuel) :
    readString fuel (s.flatMap escapedChar ++ '"' :: cs) read =
      some (String.ofList (read.reverse ++ s), cs) := by
  induction s generalizing read fuel with
  | nil =>
      obtain ⟨fuel, rfl⟩ := Nat.exists_eq_add_of_lt hfuel
      simp [readString_quote]
  | cons c s ih =>
      cases fuel with
      | zero => simp at hfuel
      | succ fuel =>
          rw [List.flatMap_cons, List.append_assoc, readString_escapedChar,
            ih _ (by simpa using hfuel)]
          simp

theorem toList_renderString_append (s : String) (cs : List Char) :
    (renderString s).toList ++ cs = '"' :: (s.toList.flatMap escapedChar ++ '"' :: cs) := by
  rw [renderString, String.toList_ofList, List.cons_append, List.append_assoc,
    List.singleton_append]

theorem escapedChar_ne_nil (c : Char) : escapedChar c ≠ [] := by
  unfold escapedChar
  grind

theorem length_le_length_escaped (s : List Char) : s.length ≤ (s.flatMap escapedChar).length := by
  induction s with
  | nil => exact Nat.le_refl 0
  | cons c s ih =>
      have hc : 0 < (escapedChar c).length := List.length_pos_iff.mpr (escapedChar_ne_nil c)
      rw [List.flatMap_cons, List.length_append, List.length_cons]
      omega

/-- The text of a string is read to its closing quote. -/
theorem readString_quoted (s : String) (cs : List Char) :
    readString ((s.toList.flatMap escapedChar ++ '"' :: cs).length + 1)
      (s.toList.flatMap escapedChar ++ '"' :: cs) [] = some (s, cs) := by
  have hfuel : s.toList.length < (s.toList.flatMap escapedChar ++ '"' :: cs).length + 1 := by
    have := length_le_length_escaped s.toList
    rw [List.length_append]
    omega
  rw [readString_escaped _ _ _ hfuel, List.reverse_nil, List.nil_append, String.ofList_toList]

/-! ## Numbers -/

theorem isNumeric_of_isDigit {c : Char} (h : c.isDigit = true) : isNumeric c = true := by
  simp [isNumeric, h]

theorem ofNumber_digits {ds : List Char} {n : Nat} (hds : StandsFor ds n) : ofNumber ds = .int n := by
  cases ds with
  | nil => exact absurd rfl hds.ne_nil
  | cons c ds =>
      have hdigit : c.isDigit = true := hds.isDigit c (.head _)
      unfold ofNumber
      split
      next heq =>
      split at heq
      · next hsign =>
          -- a digit is no sign
          cases hsign
          cases hdigit
      · cases heq
        rw [hds.value]
        rfl

theorem ofNumber_minus {ds : List Char} {n : Nat} (hds : StandsFor ds n) (hn : n ≠ 0) :
    ofNumber ('-' :: ds) = .int (-n) := by
  have hne : ds.isEmpty = false := by simpa using hds.ne_nil
  unfold ofNumber
  simp only [hne, hds.value, if_true, if_neg hn]

/-- An integer is written with its digits, behind a sign if it is negative. -/
theorem toString_int_cases (n : Int) :
    (∃ k : Nat, n = k ∧ (toString n).toList = Nat.toDigits 10 k) ∨
    ∃ k : Nat, k ≠ 0 ∧ n = -k ∧ (toString n).toList = '-' :: Nat.toDigits 10 k := by
  rw [Int.toString_eq_repr, Int.repr_eq_if]
  by_cases hsign : 0 ≤ n
  · refine .inl ⟨n.toNat, (Int.toNat_of_nonneg hsign).symm, ?_⟩
    rw [if_pos hsign, Nat.repr_eq_ofList_toDigits, String.toList_ofList]
  · refine .inr ⟨(-n).toNat, by omega, by omega, ?_⟩
    rw [if_neg hsign, Nat.repr_eq_ofList_toDigits, String.toList_append,
      show "-".toList = ['-'] from rfl, String.toList_ofList, List.singleton_append]

theorem ofNumber_toString (n : Int) : ofNumber (toString n).toList = .int n := by
  rcases toString_int_cases n with ⟨k, rfl, htext⟩ | ⟨k, hk, rfl, htext⟩
  · rw [htext]
    exact ofNumber_digits (standsFor_toDigits k)
  · rw [htext]
    exact ofNumber_minus (standsFor_toDigits k) hk

theorem isNumeric_toString (n : Int) : ∀ c ∈ (toString n).toList, isNumeric c = true := by
  rcases toString_int_cases n with ⟨k, -, htext⟩ | ⟨k, -, -, htext⟩
  · rw [htext]
    exact fun c hc => isNumeric_of_isDigit ((standsFor_toDigits k).isDigit c hc)
  · rw [htext]
    rintro c (_ | ⟨_, hc⟩)
    · rfl
    · exact isNumeric_of_isDigit ((standsFor_toDigits k).isDigit c hc)

theorem toString_int_ne_nil (n : Int) : (toString n).toList ≠ [] := by
  rcases toString_int_cases n with ⟨k, -, htext⟩ | ⟨k, -, -, htext⟩
  · rw [htext]
    exact Nat.toDigits_ne_nil
  · rw [htext]
    exact List.cons_ne_nil _ _

/-! ## One step of the reader -/

/-- What may follow a value: nothing that would make a number longer. -/
def Closed (cs : List Char) : Prop := ∀ c ∈ cs.head?, isNumeric c = false

theorem skip_of_not_space {c : Char} (h : isSpace c = false) (cs : List Char) :
    skip (c :: cs) = c :: cs :=
  List.dropWhile_cons_of_neg (by simp [h])

theorem readValue_null (fuel : Nat) (cs : List Char) :
    readValue (fuel + 1) ('n' :: 'u' :: 'l' :: 'l' :: cs) = some (.null, cs) := rfl

theorem readValue_true (fuel : Nat) (cs : List Char) :
    readValue (fuel + 1) ('t' :: 'r' :: 'u' :: 'e' :: cs) = some (.bool true, cs) := rfl

theorem readValue_false (fuel : Nat) (cs : List Char) :
    readValue (fuel + 1) ('f' :: 'a' :: 'l' :: 's' :: 'e' :: cs) = some (.bool false, cs) := rfl

theorem readValue_quote (fuel : Nat) (cs : List Char) :
    readValue (fuel + 1) ('"' :: cs) =
      (readString (cs.length + 1) cs []).map fun r => (.str r.1, r.2) := rfl

theorem readValue_noItem (fuel : Nat) (cs : List Char) :
    readValue (fuel + 1) ('[' :: ']' :: cs) = some (.arr [], cs) := rfl

theorem readValue_noField (fuel : Nat) (cs : List Char) :
    readValue (fuel + 1) ('\x7b' :: '\x7d' :: cs) = some (.obj [], cs) := rfl

theorem readValue_field (fuel : Nat) (cs : List Char) :
    readValue (fuel + 1) ('\x7b' :: '"' :: cs) = readFields fuel ('"' :: cs) [] := rfl

theorem readValue_item {c : Char} (hspace : isSpace c = false) (hclose : c ≠ ']') (fuel : Nat)
    (cs : List Char) : readValue (fuel + 1) ('[' :: c :: cs) = readItems fuel (c :: cs) [] := by
  have hskip : skip (c :: cs) = c :: cs := skip_of_not_space hspace cs
  unfold readValue
  split
  case h_5 heq =>
    cases heq
    rw [hskip]
    split
    · next h => exact absurd (List.cons.inj h).1 hclose
    · rfl
  all_goals
    next heq =>
      cases heq
      try contradiction

theorem isSpace_of_isNumeric {c : Char} (h : isNumeric c = true) : isSpace c = false := by
  by_contra hspace
  simp only [isSpace, Bool.not_eq_false, Bool.or_eq_true, beq_iff_eq] at hspace
  rcases hspace with ((rfl | rfl) | rfl) | rfl <;> cases h

theorem readValue_numeric {c : Char} (h : isNumeric c = true) (fuel : Nat) (cs : List Char) :
    readValue (fuel + 1) (c :: cs) =
      some (ofNumber ((c :: cs).takeWhile isNumeric), (c :: cs).dropWhile isNumeric) := by
  have hskip : skip (c :: cs) = c :: cs := skip_of_not_space (isSpace_of_isNumeric h) cs
  unfold readValue
  rw [hskip]
  split
  case h_7 heq =>
    cases heq
    rw [if_pos h]
  all_goals
    next heq =>
      cases heq
      try cases h

section Items

variable {fuel : Nat} {cs rest : List Char} {items : List Json} {j : Json}

theorem readItems_comma (h : readValue fuel cs = some (j, ',' :: rest)) :
    readItems (fuel + 1) cs items = readItems fuel rest (j :: items) := by
  rw [readItems, h]
  rfl

theorem readItems_close (h : readValue fuel cs = some (j, ']' :: rest)) :
    readItems (fuel + 1) cs items = some (.arr (j :: items).reverse, rest) := by
  rw [readItems, h]
  rfl

end Items

section Fields

variable {fuel : Nat} {cs rest : List Char} {fields : List (String × Json)} {key : String} {j : Json}

theorem readFields_comma (h : readValue fuel cs = some (j, ',' :: rest)) :
    readFields (fuel + 1) ((renderString key).toList ++ ':' :: cs) fields =
      readFields fuel rest (setField fields key j) := by
  rw [toList_renderString_append]
  show (readString _ _ []).bind _ = _
  rw [readString_quoted, Option.bind_some]
  show (readValue fuel cs).bind _ = _
  rw [h]
  rfl

theorem readFields_close (h : readValue fuel cs = some (j, '\x7d' :: rest)) :
    readFields (fuel + 1) ((renderString key).toList ++ ':' :: cs) fields =
      some (.obj (setField fields key j), rest) := by
  rw [toList_renderString_append]
  show (readString _ _ []).bind _ = _
  rw [readString_quoted, Option.bind_some]
  show (readValue fuel cs).bind _ = _
  rw [h]
  rfl

end Fields

theorem readValue_string (fuel : Nat) (s : String) (cs : List Char) :
    readValue (fuel + 1) ((renderString s).toList ++ cs) = some (.str s, cs) := by
  rw [toList_renderString_append, readValue_quote, readString_quoted, Option.map_some]

/-- A number is read up to what closes it. -/
theorem readValue_number {ds : List Char} (hne : ds ≠ []) (hds : ∀ d ∈ ds, isNumeric d = true)
    (fuel : Nat) {cs : List Char} (hcs : Closed cs) :
    readValue (fuel + 1) (ds ++ cs) = some (ofNumber ds, cs) := by
  obtain ⟨c, ds, rfl⟩ := List.exists_cons_of_ne_nil hne
  have htake : cs.takeWhile isNumeric = [] := by
    cases cs with
    | nil => rfl
    | cons d cs => exact List.takeWhile_cons_of_neg (by simp [hcs d rfl])
  have hdrop : cs.dropWhile isNumeric = cs := by
    cases cs with
    | nil => rfl
    | cons d cs => exact List.dropWhile_cons_of_neg (by simp [hcs d rfl])
  rw [List.cons_append, readValue_numeric (hds c (.head _)), ← List.cons_append,
    List.takeWhile_append_of_pos hds, List.dropWhile_append_of_pos hds, htake, hdrop,
    List.append_nil]

/-! ## The text of a value -/

theorem head_of_isNumeric {ds : List Char} (hne : ds ≠ []) (hds : ∀ d ∈ ds, isNumeric d = true) :
    ∃ c cs, ds = c :: cs ∧ isSpace c = false ∧ c ≠ ']' := by
  obtain ⟨c, cs, rfl⟩ := List.exists_cons_of_ne_nil hne
  have hc : isNumeric c = true := hds c (.head _)
  refine ⟨c, cs, rfl, isSpace_of_isNumeric hc, ?_⟩
  rintro rfl
  cases hc

/-- A text starts with no blank and with no bracket that ends a list. -/
theorem Proper.head {j : Json} (h : j.Proper) :
    ∃ c cs, j.render.toList = c :: cs ∧ isSpace c = false ∧ c ≠ ']' := by
  cases h with
  | null => exact ⟨'n', ['u', 'l', 'l'], by rw [render]; rfl, rfl, by decide⟩
  | bool b =>
      cases b
      · exact ⟨'f', ['a', 'l', 's', 'e'], by rw [render]; rfl, rfl, by decide⟩
      · exact ⟨'t', ['r', 'u', 'e'], by rw [render]; rfl, rfl, by decide⟩
  | int n =>
      rw [render]
      exact head_of_isNumeric (toString_int_ne_nil n) (isNumeric_toString n)
  | real c cs numeric _ =>
      rw [render, String.toList_ofList]
      exact head_of_isNumeric (List.cons_ne_nil c cs) numeric
  | str s =>
      rw [render, renderString, String.toList_ofList]
      exact ⟨'"', _, rfl, rfl, by decide⟩
  | arr items _ =>
      rw [render, String.toList_append, String.toList_append]
      exact ⟨'[', _, rfl, rfl, by decide⟩
  | obj fields _ _ =>
      rw [render, String.toList_append, String.toList_append]
      exact ⟨'\x7b', _, rfl, rfl, by decide⟩

theorem toList_renderItems (j k : Json) (js : List Json) :
    (renderItems (j :: k :: js)).toList = j.render.toList ++ ',' :: (renderItems (k :: js)).toList := by
  rw [renderItems, String.toList_append, String.toList_append, List.append_assoc]
  · rfl
  · exact List.cons_ne_nil k js

theorem toList_renderField (key : String) (j : Json) :
    (renderFields [(key, j)]).toList = (renderString key).toList ++ ':' :: j.render.toList := by
  rw [renderFields, String.toList_append, String.toList_append, List.append_assoc]
  rfl

theorem toList_renderFields (key : String) (j : Json) (f : String × Json)
    (fs : List (String × Json)) :
    (renderFields ((key, j) :: f :: fs)).toList =
      (renderString key).toList ++
        ':' :: (j.render.toList ++ ',' :: (renderFields (f :: fs)).toList) := by
  rw [renderFields, String.toList_append, String.toList_append, String.toList_append,
    String.toList_append, List.append_assoc, List.append_assoc, List.append_assoc]
  · rfl
  · exact List.cons_ne_nil f fs

theorem toList_render_arr (items : List Json) (rest : List Char) :
    (render (.arr items)).toList ++ rest = '[' :: ((renderItems items).toList ++ ']' :: rest) := by
  rw [render, String.toList_append, String.toList_append, List.append_assoc, List.append_assoc]
  rfl

theorem toList_render_obj (fields : List (String × Json)) (rest : List Char) :
    (render (.obj fields)).toList ++ rest =
      '\x7b' :: ((renderFields fields).toList ++ '\x7d' :: rest) := by
  rw [render, String.toList_append, String.toList_append, List.append_assoc, List.append_assoc]
  rfl

theorem head_renderItems {j : Json} (h : j.Proper) (js : List Json) :
    ∃ c cs, (renderItems (j :: js)).toList = c :: cs ∧ isSpace c = false ∧ c ≠ ']' := by
  obtain ⟨c, cs, htext, hc⟩ := h.head
  cases js with
  | nil =>
      rw [renderItems]
      exact ⟨c, cs, htext, hc⟩
  | cons k js =>
      rw [toList_renderItems, htext]
      exact ⟨c, _, rfl, hc⟩

theorem head_renderFields (f : String × Json) (fs : List (String × Json)) :
    ∃ cs, (renderFields (f :: fs)).toList = '"' :: cs := by
  obtain ⟨key, j⟩ := f
  cases fs with
  | nil => exact ⟨_, (toList_renderField key j).trans (toList_renderString_append key _)⟩
  | cons f fs => exact ⟨_, (toList_renderFields key j f fs).trans (toList_renderString_append key _)⟩

/-! ## Reading a text -/

/-- The value is read from its text, whatever closes it, with fuel for each of its characters. -/
def Legible (j : Json) : Prop :=
  ∀ (fuel : Nat) (rest : List Char), j.render.toList.length ≤ fuel → Closed rest →
    readValue (fuel + 1) (j.render.toList ++ rest) = some (j, rest)

theorem closed_cons {c : Char} (h : isNumeric c = false) (cs : List Char) : Closed (c :: cs) := by
  rintro d ⟨⟩
  exact h

/-- Items are read one after the other, each behind those read before. -/
theorem readItems_render {js : List Json} (hne : js ≠ []) (hread : ∀ j ∈ js, Legible j)
    (rest : List Char) (read : List Json) {fuel : Nat}
    (hfuel : (renderItems js).toList.length ≤ fuel) :
    readItems (fuel + 2) ((renderItems js).toList ++ ']' :: rest) read =
      some (.arr (read.reverse ++ js), rest) := by
  induction js generalizing read fuel with
  | nil => exact absurd rfl hne
  | cons j js ih =>
      have hj : Legible j := hread j (.head _)
      cases js with
      | nil =>
          rw [renderItems] at hfuel ⊢
          rw [readItems_close (hj fuel _ hfuel (closed_cons rfl rest)), List.reverse_cons]
      | cons k js =>
          rw [toList_renderItems] at hfuel ⊢
          rw [List.length_append, List.length_cons] at hfuel
          obtain ⟨fuel, rfl⟩ : ∃ n, fuel = n + 1 := ⟨fuel - 1, by omega⟩
          rw [List.append_assoc, List.cons_append,
            readItems_comma (hj (fuel + 1) _ (by omega) (closed_cons rfl _)),
            ih (List.cons_ne_nil k js) (fun i hi => hread i (.tail _ hi)) _ (by omega),
            List.reverse_cons, List.append_assoc, List.singleton_append]

/-- A key that is not there yet is set behind the others. -/
theorem setField_of_notMem {fields : List (String × Json)} {key : String}
    (h : key ∉ fields.map Prod.fst) (j : Json) : setField fields key j = fields ++ [(key, j)] := by
  rw [setField, List.filter_eq_self.mpr]
  intro f hf
  rw [bne_iff_ne]
  rintro rfl
  exact h (List.mem_map_of_mem hf)

/-- Fields of distinct keys are read one after the other, each behind those read before. -/
theorem readFields_render {fs : List (String × Json)} (hne : fs ≠ [])
    (hread : ∀ f ∈ fs, Legible f.2) (rest : List Char) (read : List (String × Json))
    (hdistinct : ((read ++ fs).map Prod.fst).Nodup) {fuel : Nat}
    (hfuel : (renderFields fs).toList.length ≤ fuel) :
    readFields (fuel + 2) ((renderFields fs).toList ++ '\x7d' :: rest) read =
      some (.obj (read ++ fs), rest) := by
  induction fs generalizing read fuel with
  | nil => exact absurd rfl hne
  | cons f fs ih =>
      obtain ⟨key, j⟩ := f
      have hj : Legible j := hread (key, j) (.head _)
      have hfresh : key ∉ read.map Prod.fst := by
        rw [List.map_append, List.map_cons] at hdistinct
        exact fun hmem => (List.nodup_append.mp hdistinct).2.2 key hmem key (.head _) rfl
      cases fs with
      | nil =>
          rw [toList_renderField] at hfuel ⊢
          rw [List.length_append, List.length_cons] at hfuel
          rw [List.append_assoc, List.cons_append,
            readFields_close (hj fuel _ (by omega) (closed_cons rfl rest)),
            setField_of_notMem hfresh]
      | cons f fs =>
          rw [toList_renderFields] at hfuel ⊢
          rw [List.length_append, List.length_cons, List.length_append, List.length_cons] at hfuel
          obtain ⟨fuel, rfl⟩ : ∃ n, fuel = n + 1 := ⟨fuel - 1, by omega⟩
          have hdistinct' : (((read ++ [(key, j)]) ++ (f :: fs)).map Prod.fst).Nodup := by
            rwa [List.append_assoc, List.singleton_append]
          rw [List.append_assoc, List.cons_append, List.append_assoc, List.cons_append,
            readFields_comma (hj (fuel + 1) _ (by omega) (closed_cons rfl _)),
            setField_of_notMem hfresh,
            ih (List.cons_ne_nil f fs) (fun i hi => hread i (.tail _ hi)) _ hdistinct' (by omega),
            List.append_assoc, List.singleton_append]

/-- Items that are legible make a legible array. -/
theorem legible_arr {items : List Json} (proper : ∀ j ∈ items, j.Proper)
    (hread : ∀ j ∈ items, Legible j) : Legible (.arr items) := by
  intro fuel rest hfuel _
  have hlength : (renderItems items).toList.length + 2 ≤ fuel := by
    have htext := congrArg List.length (toList_render_arr items [])
    rw [List.append_nil, List.length_cons, List.length_append, List.length_singleton] at htext
    omega
  rw [toList_render_arr]
  cases items with
  | nil =>
      rw [renderItems]
      exact readValue_noItem fuel rest
  | cons j items =>
      obtain ⟨fuel, rfl⟩ : ∃ n, fuel = n + 2 := ⟨fuel - 2, by omega⟩
      obtain ⟨c, cs, htext, hspace, hclose⟩ := head_renderItems (proper j (.head _)) items
      have hitems := readItems_render (List.cons_ne_nil j items) hread rest []
        (Nat.le_of_add_le_add_right hlength)
      rw [htext, List.cons_append] at hitems ⊢
      rw [readValue_item hspace hclose, hitems]
      rfl

/-- Fields of distinct keys that are legible make a legible object. -/
theorem legible_obj {fields : List (String × Json)} (distinct : (fields.map Prod.fst).Nodup)
    (hread : ∀ f ∈ fields, Legible f.2) : Legible (.obj fields) := by
  intro fuel rest hfuel _
  have hlength : (renderFields fields).toList.length + 2 ≤ fuel := by
    have htext := congrArg List.length (toList_render_obj fields [])
    rw [List.append_nil, List.length_cons, List.length_append, List.length_singleton] at htext
    omega
  rw [toList_render_obj]
  cases fields with
  | nil =>
      rw [renderFields]
      exact readValue_noField fuel rest
  | cons f fields =>
      obtain ⟨fuel, rfl⟩ : ∃ n, fuel = n + 2 := ⟨fuel - 2, by omega⟩
      obtain ⟨cs, htext⟩ := head_renderFields f fields
      have hfields := readFields_render (List.cons_ne_nil f fields) hread rest [] distinct
        (Nat.le_of_add_le_add_right hlength)
      rw [htext, List.cons_append] at hfields ⊢
      rw [readValue_field, hfields]
      rfl

/-- Every proper value is read from its text. -/
theorem Proper.legible {j : Json} (h : j.Proper) : Legible j := by
  induction h with
  | null =>
      intro fuel rest _ _
      rw [render]
      exact readValue_null fuel rest
  | bool b =>
      intro fuel rest _ _
      rw [render]
      cases b
      · exact readValue_false fuel rest
      · exact readValue_true fuel rest
  | int n =>
      intro fuel rest _ hrest
      rw [render, readValue_number (toString_int_ne_nil n) (isNumeric_toString n) fuel hrest,
        ofNumber_toString]
  | real c cs numeric noInteger =>
      intro fuel rest _ hrest
      rw [render, String.toList_ofList,
        readValue_number (List.cons_ne_nil c cs) numeric fuel hrest, noInteger]
  | str s =>
      intro fuel rest _ _
      rw [render, readValue_string]
  | arr items proper ih => exact legible_arr proper ih
  | obj fields proper distinct ih => exact legible_obj distinct ih

/-- A proper value is what its text stands for. -/
theorem parse?_render {j : Json} (h : j.Proper) : parse? j.render = some j := by
  have hread := h.legible j.render.toList.length [] (Nat.le_refl _) nofun
  rw [List.append_nil] at hread
  rw [parse?, hread]
  rfl

end Wallet.Json
