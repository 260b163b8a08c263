import MediaShelf.Json.Reader
import MediaShelf.Text.Numeral
import MediaShelf.Text.Words

/-!
# TOML numbers, dates and truth values

Digits may have underscores between them. Integers fit 64 bits with sign, also those written with
another base. Dates and times of day must exist.

## Main definitions

* `digitRun?` — digits with underscores between them
* `readInteger?`, `readFloat?` — the value of a number
* `isDateTime` — whether a text is a date, a time or both
* `readToken?` — the value of a text without blanks
-/

namespace MediaShelf.Toml

/-- The digits of a run with single underscores between digits. -/
def digitRun? (isDigit : Char → Bool) (text : List Char) : Option (List Char) :=
  let pieces := Text.splitBy (· == '_') text
  if pieces.all fun piece => !piece.isEmpty && piece.all isDigit then some pieces.flatten else none

/-- The digits of a decimal number, without leading zeros. -/
def decimalRun? (text : List Char) : Option (List Char) :=
  (digitRun? Char.isDigit text).filter fun digits => digits.length == 1 || digits.head? != some '0'

/-- Whether there is a minus sign in front, and the text behind a sign. -/
def splitSign : List Char → Bool × List Char
  | '-' :: rest => (true, rest)
  | '+' :: rest => (false, rest)
  | text => (false, text)

/-- One more than the greatest integer. -/
def integerLimit : Nat := 0x8000000000000000

/-- An integer that fits; zero has no sign. -/
def integer? (isNegative : Bool) (magnitude : Nat) : Option Json :=
  if magnitude < integerLimit || (isNegative && magnitude == integerLimit) then
    some (.number (.integer (isNegative && magnitude != 0) magnitude))
  else none

/-- The value of digits of a base. -/
def valueOf (base : Nat) (digits : List Char) : Nat :=
  digits.foldl (fun n c => n * base + (Json.hexValue? c).getD 0) 0

/-- Whether the character is a digit of the base. -/
def isDigitOf (base : Nat) (c : Char) : Bool := (Json.hexValue? c).any (· < base)

/-- The value of an integer with a base other than ten. -/
def readBased? (base : Nat) (text : List Char) : Option Json :=
  (digitRun? (isDigitOf base) text).bind fun digits => integer? false (valueOf base digits)

/-- The value of an integer. -/
def readInteger? : List Char → Option Json
  | '0' :: 'x' :: rest => readBased? 16 rest
  | '0' :: 'o' :: rest => readBased? 8 rest
  | '0' :: 'b' :: rest => readBased? 2 rest
  | text =>
    let (isNegative, rest) := splitSign text
    (decimalRun? rest).bind fun digits => integer? isNegative (Nat.ofDigitChars 10 digits 0)

/-- Whether a decimal number lies beyond the greatest number in double precision, half a unit of
it included. -/
def isTooLarge (mantissa : Nat) (exponent : Int) : Bool :=
  let size : Int := (Text.decimal mantissa).length + exponent
  if mantissa == 0 || size < 300 then false
  else if size > 320 then true
  else
    -- only in between the number itself must be compared
    mantissa * Nat.pow 10 exponent.toNat ≥
      (Nat.pow 2 1024 - Nat.pow 2 970) * Nat.pow 10 (-exponent).toNat

/-- The value of a fraction behind a full stop, with the number of its digits. -/
def readPlaces? : List (List Char) → Option (List Char)
  | [] => some []
  | [text] => digitRun? Char.isDigit text
  | _ => none

/-- The value of an exponent. -/
def readPower? : List (List Char) → Option Int
  | [] => some 0
  | [text] =>
    let (isNegative, rest) := splitSign text
    (digitRun? Char.isDigit rest).map fun digits =>
      let n : Int := Nat.ofDigitChars 10 digits 0
      if isNegative then -n else n
  | _ => none

/-- The value of a number with a fraction, an exponent or both. Infinity and what is no number have
no counterpart among decimals and count as zero. -/
def readFloat? (text : List Char) : Option Json :=
  let (isNegative, rest) := splitSign text
  if rest = ['i', 'n', 'f'] ∨ rest = ['n', 'a', 'n'] then
    some (.number (.decimal isNegative 0 0))
  else match Text.splitBy (fun c => c == 'e' || c == 'E') rest with
    | base :: power =>
      match Text.splitBy (· == '.') base with
      | whole :: places =>
        if power.isEmpty && places.isEmpty then none
        else do
          let whole ← decimalRun? whole
          let places ← readPlaces? places
          let power ← readPower? power
          let mantissa := Nat.ofDigitChars 10 (whole ++ places) 0
          let exponent := power - places.length
          if !isNegative && isTooLarge mantissa exponent then none
          else some (.number (.decimal isNegative mantissa exponent))
      | [] => none
    | [] => none

/-- Two digits at the start of a text with a value in a range, and what is behind them. -/
def readTwo? (low high : Nat) : List Char → Option (Nat × List Char)
  | a :: b :: rest =>
    (Text.readDigits? [a, b]).bind fun n => if low ≤ n && n ≤ high then some (n, rest) else none
  | _ => none

/-- The text behind a sign that must stand at its start. -/
def expect? (sign : Char) : List Char → Option (List Char)
  | c :: rest => if c == sign then some rest else none
  | [] => none

/-- The number of days of a month. -/
def daysIn (year month : Nat) : Nat :=
  if month == 2 then
    if year % 4 == 0 && (year % 100 != 0 || year % 400 == 0) then 29 else 28
  else if [4, 6, 9, 11].contains month then 30
  else 31

/-- What is behind a date at the start of a text. -/
def afterDate? (text : List Char) : Option (List Char) := do
  let year ← Text.readDigits? (text.take 4)
  if text.length < 4 then none
  let (month, rest) ← readTwo? 1 12 (← expect? '-' (text.drop 4))
  let (_, rest) ← readTwo? 1 (daysIn year month) (← expect? '-' rest)
  pure rest

/-- What is behind hours and minutes at the start of a text. -/
def afterMinutes? (text : List Char) : Option (List Char) := do
  let (_, rest) ← readTwo? 0 23 text
  let (_, rest) ← readTwo? 0 59 (← expect? ':' rest)
  pure rest

/-- What is behind a time of day at the start of a text. -/
def afterTime? (text : List Char) : Option (List Char) := do
  let (_, rest) ← readTwo? 0 60 (← expect? ':' (← afterMinutes? text))
  match rest with
  | '.' :: rest =>
    let (digits, rest) := Json.takeDigits rest
    if digits.isEmpty then none else pure rest
  | _ => pure rest

/-- Whether a text is empty or a distance to world time. -/
def isOffset : List Char → Bool
  | [] | ['Z'] | ['z'] => true
  | c :: rest => (c == '+' || c == '-') && (afterMinutes? rest).any (·.isEmpty)

/-- Whether a text is a time of day with or without a distance to world time. -/
def isTime (text : List Char) : Bool := (afterTime? text).any isOffset

/-- Whether a text is a date, a date with a time, or a time of day. -/
def isDateTime (text : List Char) : Bool :=
  match afterDate? text with
  | some [] => true
  | some (c :: rest) => (c == 'T' || c == 't') && isTime rest
  | none => (afterTime? text).any (·.isEmpty)

/-- A date or time as a value: an object of its own kind. -/
def dateTime (text : List Char) : Json := .object [("date", .string (String.ofList text))]

/-- The value of a text that holds no blank. -/
def readToken? (text : List Char) : Option Json :=
  if text = ['t', 'r', 'u', 'e'] then some (.bool true)
  else if text = ['f', 'a', 'l', 's', 'e'] then some (.bool false)
  else if isDateTime text then some (dateTime text)
  else (readFloat? text).or (readInteger? text)

end MediaShelf.Toml
