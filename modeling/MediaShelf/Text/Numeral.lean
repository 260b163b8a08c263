/-!
# Decimal numerals

Numbers as they stand in file names and patterns: 32-bit words written with ASCII digits.

## Main definitions

* `decimal` — the digits of a number
* `twoDigits` — the digits, with a leading zero for a number below ten
* `readWord?` — the value of a numeral, if it is one and fits 32 bits
-/

namespace MediaShelf.Text

/-- The decimal digits of a number, without leading zeros. -/
def decimal (n : Nat) : List Char := Nat.toDigits 10 n

/-- The decimal digits of a number, at least two of them. -/
def twoDigits (n : Nat) : List Char :=
  let digits := decimal n
  List.replicate (2 - digits.length) '0' ++ digits

/-- The value of a run of ASCII digits; nothing else has one, nor has the empty text. -/
def readDigits? (text : List Char) : Option Nat :=
  if !text.isEmpty && text.all Char.isDigit then some (Nat.ofDigitChars 10 text 0) else none

/-- The value of a numeral that fits 32 bits. One plus sign may stand in front. -/
def readWord? (text : List Char) : Option UInt32 :=
  let digits := match text with
    | '+' :: rest => rest
    | _ => text
  match readDigits? digits with
  | some n => if n < 4294967296 then some n.toUInt32 else none
  | none => none

end MediaShelf.Text
