/-!
# Blanks

The characters that count as blank around a code, a name or a number, and cutting them off. The
table is the Unicode property White_Space.
-/

namespace Wallet.Text

/-- The characters with the property White_Space. -/
def isBlank (c : Char) : Bool :=
  let n := c.toNat
  (9 ≤ n && n ≤ 13) || n == 0x20 || n == 0x85 || n == 0xA0 || n == 0x1680 ||
    (0x2000 ≤ n && n ≤ 0x200A) || n == 0x2028 || n == 0x2029 || n == 0x202F || n == 0x205F ||
    n == 0x3000

def trimStart (cs : List Char) : List Char := cs.dropWhile isBlank

def trimEnd (cs : List Char) : List Char := (cs.reverse.dropWhile isBlank).reverse

/-- The text without the blanks at both ends. -/
def trim (s : String) : String := String.ofList (trimEnd (trimStart s.toList))

/-- Whether a text holds nothing but blanks. -/
def allBlank (s : String) : Bool := s.toList.all isBlank

/-- The pieces between the commas, one more than there are commas. -/
def splitCommas : List Char → List (List Char)
  | [] => [[]]
  | c :: cs =>
      match c, splitCommas cs with
      | ',', pieces => [] :: pieces
      | _, [] => [[c]]
      | _, piece :: pieces => (c :: piece) :: pieces

example : trim "\u3000 ab c\t" = "ab c" := by cbv

example : splitCommas "a,,b".toList = [['a'], [], ['b']] := by cbv

end Wallet.Text
