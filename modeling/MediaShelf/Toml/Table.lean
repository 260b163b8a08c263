import MediaShelf.Json.Basic

/-!
# TOML tables in the making

The parts of a table may be written far from each other, and how a table came about decides what
may still be added to it. A table with a header is made once; its subtables may follow under
headers of their own. A table made by dotted keys takes further dotted keys, and a table that was
only passed on the way to another may still get a header.

## Main definitions

* `Origin`, `Item`, `Members` — tables with what they may still take
* `addKey?`, `addDotted?` — a value under a key or a dotted key
* `openTable?`, `openItem?` — a table under its header
* `within?` — a change of the table that a path of headers leads to
* `Item.toJson` — the finished value
-/

namespace MediaShelf.Toml

/-- How a table came about. -/
inductive Origin where
  /-- It has a header. -/
  | header
  /-- It was passed on the way to a table with a header. -/
  | path
  /-- It was made by dotted keys. -/
  | dots
  deriving DecidableEq, Repr

/-- What stands under a key while a document is read. -/
inductive Item where
  /-- A value, to which nothing can be added. -/
  | value (value : Json)
  | table (origin : Origin) (members : List (String × Item))
  /-- Tables with the same header, the last of which is still open. -/
  | tables (done : List (List (String × Item))) (last : List (String × Item))

/-- The members of a table in order. -/
abbrev Members := List (String × Item)

/-- The members with another item under a key that is there. -/
def Members.set (members : Members) (key : String) (item : Item) : Members :=
  members.map fun (k, old) => (k, if k == key then item else old)

/-- Adds a value under a new key. -/
def addKey? (key : String) (value : Json) (members : Members) : Option Members :=
  match members.lookup key with
  | none => some (members ++ [(key, .value value)])
  | some _ => none

/-- Adds a value under a dotted key, whose last part is `key`. The table that takes it must have
been made by dotted keys, which `isDotted` tells of the given one. -/
def addDotted? (key : String) (value : Json) :
    Bool → List String → Members → Option Members
  | isDotted, [], members => if isDotted then addKey? key value members else none
  | _, part :: parts, members =>
    match members.lookup part with
    | none => do
      let inner ← addDotted? key value true parts []
      pure (members ++ [(part, .table .dots inner)])
    | some (.table .dots inner) => do
      pure (members.set part (.table .dots (← addDotted? key value true parts inner)))
    | some (.table .path inner) => do
      pure (members.set part (.table .path (← addDotted? key value false parts inner)))
    | some (.tables done last) => do
      pure (members.set part (.tables done (← addDotted? key value false parts last)))
    | some _ => none

/-- Adds a value under a key of one or more parts. -/
def add? (parts : List String) (key : String) (value : Json) (members : Members) :
    Option Members :=
  if parts.isEmpty then addKey? key value members else addDotted? key value false parts members

/-- Makes a table with a header. One that was only passed so far keeps its members. -/
def openTable? (key : String) (members : Members) : Option Members :=
  let others := members.filter (·.1 != key)
  match members.lookup key with
  | none => some (others ++ [(key, .table .header [])])
  | some (.table .path inner) => some (others ++ [(key, .table .header inner)])
  | some _ => none

/-- Makes a further table of those with one header. -/
def openItem? (key : String) (members : Members) : Option Members :=
  match members.lookup key with
  | none => some (members ++ [(key, .tables [] [])])
  | some (.tables done last) => some (members.set key (.tables (done ++ [last]) []))
  | some _ => none

/-- Changes the table that a path leads to. Of tables with one header the last is meant, and what
is missing on the way is made. -/
def within? (change : Members → Option Members) : List String → Members → Option Members
  | [], members => change members
  | key :: keys, members =>
    match members.lookup key with
    | none => do pure (members ++ [(key, .table .path (← within? change keys []))])
    | some (.table origin inner) => do
      pure (members.set key (.table origin (← within? change keys inner)))
    | some (.tables done last) => do
      pure (members.set key (.tables done (← within? change keys last)))
    | some (.value _) => none

mutual

/-- The finished value of an item. -/
def Item.toJson : Item → Json
  | .value value => value
  | .table _ members => .object (membersToJson members)
  | .tables done last => .array (tablesToJson done ++ [.object (membersToJson last)])

/-- The finished members of a table. -/
def membersToJson : List (String × Item) → List (String × Json)
  | [] => []
  | member :: members => memberToJson member :: membersToJson members

/-- A finished member. -/
def memberToJson : String × Item → String × Json
  | (key, item) => (key, item.toJson)

/-- The finished tables of a row. -/
def tablesToJson : List (List (String × Item)) → List Json
  | [] => []
  | table :: tables => .object (membersToJson table) :: tablesToJson tables

end

end MediaShelf.Toml
