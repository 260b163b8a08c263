import MediaShelf.Regex.Node

/-!
# Matching by tables

A table has one entry for every place of a text, from its start to its end: the preferred way to
match the rest of an expression from there, or nothing. A node turns the table of what follows it
into the table of itself, so no part of the search is done twice and matching always ends.

## Main definitions

* `Step` — one step of a match: a character, or the edge of a group
* `Table` — the preferred match from every place
* `Node.run` — the table of a node followed by the given one
* `Node.table` — the table of a node followed by nothing
-/

namespace MediaShelf.Regex

/-- One step of a match. -/
inductive Step (α : Type) where
  /-- Passes over a character. -/
  | char (c : Char)
  /-- Enters a group. -/
  | enter (label : α)
  /-- Leaves a group. -/
  | leave (label : α)
  deriving DecidableEq, Repr

/-- The steps of a match, first to last. -/
abbrev Trace (α : Type) := List (Step α)

/-- The preferred match from every place of a text, first to last. -/
abbrev Table (α : Type) := List (Option (Trace α))

namespace Table

variable {α : Type}

/-- The entry of the first place. -/
def here (table : Table α) : Option (Trace α) := table.head?.join

/-- Puts a step in front of every match. -/
def prepend (step : Step α) (table : Table α) : Table α :=
  table.map (·.map (step :: ·))

/-- The preferred entry of two tables, place by place. -/
def orElse (preferred other : Table α) : Table α :=
  List.zipWith Option.or preferred other

/-- A match that passes over `c` and goes on as `rest`, if the character is accepted. -/
def pass (accepts : Char → Bool) (c : Char) (rest : Option (Trace α)) : Option (Trace α) :=
  if accepts c then rest.map (.char c :: ·) else none

/-- One accepted character, then `table`. -/
def one (accepts : Char → Bool) : List Char → Table α → Table α
  | c :: text, _ :: table => pass accepts c (here table) :: one accepts text table
  | _, _ => [none]

/-- Any number of accepted characters, then `table`. -/
def many (isLazy : Bool) (accepts : Char → Bool) : List Char → Table α → Table α
  | c :: text, stop :: table =>
    let later := many isLazy accepts text table
    let more := pass accepts c (here later)
    (if isLazy then stop.or more else more.or stop) :: later
  | _, table => table

/-- Keeps the entries of the places where the assertion holds; `before` stands in front of the
text. -/
def look (holds : Assertion) (before : Option Char) : List Char → Table α → Table α
  | _, [] => []
  | [], entry :: _ => [if holds before none then entry else none]
  | c :: text, entry :: table =>
    (if holds before (some c) then entry else none) :: look holds (some c) text table

/-- At most `n` rounds of `body`, then `table`. -/
def rounds (isLazy : Bool) (body : Table α → Table α) (table : Table α) : Nat → Table α
  | 0 => table
  | n + 1 =>
    let more := body (rounds isLazy body table n)
    if isLazy then orElse table more else orElse more table

end Table

namespace Node

variable {α : Type}

/-- The table of the node when `table` is the table of what follows it. As every useful round of
a repetition passes over a character, the length of the text bounds their number. -/
def run (text : List Char) : Node α → Table α → Table α
  | empty, table => table
  | one accepts, table => Table.one accepts text table
  | many isLazy accepts, table => Table.many isLazy accepts text table
  | look holds, table => Table.look holds none text table
  | seq first second, table => first.run text (second.run text table)
  | alt first second, table => Table.orElse (first.run text table) (second.run text table)
  -- more rounds than characters would have to be empty ones
  | star isLazy body, table => Table.rounds isLazy (body.run text) table text.length
  | group label body, table =>
    Table.prepend (.enter label) (body.run text (Table.prepend (.leave label) table))

/-- The preferred match of the node from every place of the text. -/
def table (node : Node α) (text : List Char) : Table α :=
  node.run text (List.replicate (text.length + 1) (some []))

end Node

end MediaShelf.Regex
