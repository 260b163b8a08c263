import MediaShelf.Json.Basic

/-!
# Records from JSON

A record is written as an object with a member for each field, or as an array of its fields in
order. Members with other names are passed over, a field may not be given twice, and a field that
may be absent can be left out or null.

## Main definitions

* `toString?`, `toNat?`, `toWord?`, `toBool?`, `toList?` — plain values
* `fields?` — the values of the fields of a record
* `required?`, `optional?` — the value of one field
-/

namespace MediaShelf.Json

/-- The text of a string. -/
def toString? : Json → Option String
  | .string text => some text
  | _ => none

/-- The value of a whole number without sign. -/
def toNat? : Json → Option Nat
  | .number (.integer false n) => some n
  | _ => none

/-- The value of a whole number of at most 32 bits. -/
def toWord? (value : Json) : Option UInt32 :=
  value.toNat?.bind fun n => if n < 4294967296 then some n.toUInt32 else none

/-- The value of a whole number of at most 64 bits. -/
def toLongWord? (value : Json) : Option UInt64 :=
  value.toNat?.bind fun n => if n < 18446744073709551616 then some n.toUInt64 else none

/-- A truth value. -/
def toBool? : Json → Option Bool
  | .bool value => some value
  | _ => none

/-- The items of an array, each decoded. -/
def toList? {α : Type} (decode : Json → Option α) : Json → Option (List α)
  | .array items => items.mapM decode
  | _ => none

/-- The value of a field among the members of an object; two values for one field are refused. -/
def field? (members : List (String × Json)) (name : String) : Option (Option Json) :=
  match members.filter (·.1 == name) with
  | [] => some none
  | [(_, value)] => some (some value)
  | _ => none

/-- The values of the named fields, in the order of the names. An array must give all of them but
the last `spare`. -/
def fields? (names : List String) (json : Json) (spare : Nat := 0) :
    Option (List (Option Json)) :=
  match json with
  | .object members => names.mapM (field? members)
  | .array items =>
    if items.length ≤ names.length ∧ names.length ≤ items.length + spare then
      some (items.map some ++ List.replicate (names.length - items.length) none)
    else none
  | _ => none

/-- A field that must be there. -/
def required? {α : Type} (decode : Json → Option α) (value : Option Json) : Option α :=
  value.bind decode

/-- A field that may be left out or null. -/
def optional? {α : Type} (decode : Json → Option α) : Option Json → Option (Option α)
  | none => some none
  | some .null => some none
  | some value => (decode value).map some

/-- Whether the value is null. -/
def isNull : Json → Bool
  | .null => true
  | _ => false

/-- Whether the value is an array or an object without members. -/
def isBare : Json → Bool
  | .array [] | .object [] => true
  | _ => false

/-- The name of a variant without content: a string, or an object with the name as its only
member. What `absent` accepts as the value of that member stands for the missing content. -/
def variant? (absent : Json → Bool) : Json → Option String
  | .string name => some name
  | .object [(name, value)] => if absent value then some name else none
  | _ => none

end MediaShelf.Json
