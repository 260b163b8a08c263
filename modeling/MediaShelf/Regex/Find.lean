import MediaShelf.Regex.Table

/-!
# Searching a text

The leftmost match counts, and of those from one place the preferred one.

## Main definitions

* `Trace.text`, `Trace.group?`, `Trace.after` — what a match passed over, as a whole and in parts
* `Found` — a match with the text around it
* `Node.find?`, `Node.findAtStart?`, `Node.matchWhole?` — the leftmost match, the match at the start
  of a text, the match with all of it
* `Node.replaceAll` — the text with every match replaced
-/

namespace MediaShelf.Regex

namespace Trace

variable {α : Type} [DecidableEq α]

/-- The characters that the match passed over. -/
def text : Trace α → List Char
  | [] => []
  | .char c :: rest => c :: text rest
  | _ :: rest => text rest

/-- The characters passed over before leaving the group. -/
def upTo (label : α) : Trace α → List Char
  | [] => []
  | .char c :: rest => c :: upTo label rest
  | .leave l :: rest => if l = label then [] else upTo label rest
  | .enter _ :: rest => upTo label rest

/-- The text of the first group with the label, if the match went through one. -/
def group? (label : α) : Trace α → Option (List Char)
  | [] => none
  | .enter l :: rest => if l = label then some (upTo label rest) else group? label rest
  | _ :: rest => group? label rest

/-- The characters passed over after the first group with the label was left. -/
def after (label : α) : Trace α → List Char
  | [] => []
  | .leave l :: rest => if l = label then text rest else after label rest
  | _ :: rest => after label rest

end Trace

/-- A match in a text. -/
structure Found (α : Type) where
  /-- The text in front of the match. -/
  before : List Char
  /-- The match itself. -/
  trace : Trace α
  /-- The text behind the match. -/
  rest : List Char

namespace Found

variable {α : Type} [DecidableEq α]

/-- The text of the first group with the label. -/
def group? (found : Found α) (label : α) : Option (List Char) := Trace.group? label found.trace

/-- All text behind the first group with the label. -/
def behind (found : Found α) (label : α) : List Char := Trace.after label found.trace ++ found.rest

end Found

namespace Node

variable {α : Type}

/-- The first entry of a table, with the text in front of it and from it on. -/
def leftmost? : List Char → Table α → Option (List Char × Trace α × List Char)
  | text, some trace :: _ => some ([], trace, text)
  | c :: text, none :: table =>
    (leftmost? text table).map fun (before, found) => (c :: before, found)
  | _, _ => none

variable [DecidableEq α]

/-- The leftmost match of the node in the text. -/
def find? (node : Node α) (text : List Char) : Option (Found α) :=
  (leftmost? text (node.table text)).map fun (before, trace, rest) =>
    ⟨before, trace, rest.drop (Trace.text trace).length⟩

/-- The match of the node at the start of the text, if there is one. -/
def findAtStart? (node : Node α) (text : List Char) : Option (Found α) :=
  (Table.here (node.table text)).map fun trace =>
    ⟨[], trace, text.drop (Trace.text trace).length⟩

/-- The match of the node with the whole text, if there is one. -/
def matchWhole? (node : Node α) (text : List Char) : Option (Trace α) :=
  Table.here (node.run text (List.replicate text.length none ++ [some []]))

/-- Whether the node matches anywhere in the text. -/
def occursIn (node : Node α) (text : List Char) : Bool := (node.table text).any Option.isSome

/-- Replaces the matches that a table gives. The first `skip` characters belong to a match that
has been replaced; `fresh` tells that a match has just ended, where an empty one does not count. -/
def replaceFrom (replacement : List Char) (skip : Nat) (fresh : Bool) :
    List Char → Table α → List Char
  | [], table =>
    match skip, fresh, Table.here table with
    | 0, false, some _ => replacement
    | _, _, _ => []
  | c :: text, table =>
    match skip with
    | n + 1 => replaceFrom replacement n (n == 0) text table.tail
    | 0 =>
      match Table.here table with
      | none => c :: replaceFrom replacement 0 false text table.tail
      | some trace =>
        match (Trace.text trace).length with
        | 0 =>
          let rest := c :: replaceFrom replacement 0 false text table.tail
          if fresh then rest else replacement ++ rest
        | n + 1 => replacement ++ replaceFrom replacement n (n == 0) text table.tail

/-- The text with every match, from left to right, replaced. -/
def replaceAll (node : Node α) (replacement : List Char) (text : List Char) : List Char :=
  replaceFrom replacement 0 false text (node.table text)

end Node

end MediaShelf.Regex
