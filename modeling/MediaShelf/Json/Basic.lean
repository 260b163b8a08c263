/-!
# JSON values

## Main definitions

* `Json` — values; members of objects keep their order and may repeat
* `Number` — numbers, told apart by how they are written
-/

namespace MediaShelf

/-- A JSON number. -/
inductive Json.Number where
  /-- Written without fraction and exponent. -/
  | integer (isNegative : Bool) (magnitude : Nat)
  /-- Written with a fraction or an exponent: `mantissa` times a power of ten. -/
  | decimal (isNegative : Bool) (mantissa : Nat) (exponent : Int)
  deriving DecidableEq, Repr

/-- A JSON value. -/
inductive Json where
  | null
  | bool (value : Bool)
  | number (value : Json.Number)
  | string (text : String)
  /-- A string with an escape that names no character. -/
  | brokenString
  | array (items : List Json)
  | object (members : List (String × Json))
  deriving Inhabited, Repr

namespace Json

/-- The number `n` written without fraction and exponent. -/
def ofNat (n : Nat) : Json := .number (.integer false n)

/-- The text, or null if there is none. -/
def ofString? : Option String → Json
  | none => .null
  | some text => .string text

/-- The number, or null if there is none. -/
def ofWord? : Option UInt32 → Json
  | none => .null
  | some n => ofNat n.toNat

end Json

end MediaShelf
