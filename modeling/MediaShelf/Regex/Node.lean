import MediaShelf.Text.CaseFold
import MediaShelf.Text.DecimalDigit
import MediaShelf.Text.WordChar

/-!
# Regular expressions

Expressions over characters whose groups carry labels. A choice prefers its first branch, a
repetition prefers more rounds unless it is lazy: of several ways to match at one place, the
preferred one counts.

## Main definitions

* `Node` — expressions; single characters are given by predicates
* `Node.text`, `Node.plus`, `Node.upTo`, `Node.times` — expressions put together from these
* `atStart`, `atEnd`, `atWordEdge` — assertions about the neighbours of a place
-/

namespace MediaShelf.Regex

/-- A statement about a place in a text, in terms of the characters before and after it. -/
abbrev Assertion := Option Char → Option Char → Bool

/-- A regular expression with group labels in `α`. -/
inductive Node (α : Type) where
  /-- Matches the empty text. -/
  | empty
  /-- Matches one accepted character. -/
  | one (accepts : Char → Bool)
  /-- Matches any number of accepted characters. -/
  | many (isLazy : Bool) (accepts : Char → Bool)
  /-- Matches the empty text where the assertion holds. -/
  | look (holds : Assertion)
  /-- Matches the two in a row. -/
  | seq (first second : Node α)
  /-- Matches either, preferably the first. -/
  | alt (first second : Node α)
  /-- Matches any number of rounds of the body. -/
  | star (isLazy : Bool) (body : Node α)
  /-- Matches the body and remembers its text under the label. -/
  | group (label : α) (body : Node α)

namespace Node

variable {α : Type}

/-- All in a row. -/
def seqs : List (Node α) → Node α
  | [] => empty
  | [node] => node
  | node :: next :: nodes => seq node (seqs (next :: nodes))

/-- Any of them, the earlier the better. -/
def alts : List (Node α) → Node α
  | [] => one fun _ => false
  | [node] => node
  | node :: next :: nodes => alt node (alts (next :: nodes))

/-- The character in either case. -/
def letter (c : Char) : Node α := one (Text.sameLetter c)

/-- The text in any case. -/
def text (chars : List Char) : Node α := seqs (chars.map letter)

/-- The node or nothing. -/
def opt (node : Node α) (isLazy : Bool := false) : Node α :=
  if isLazy then alt empty node else alt node empty

/-- One accepted character or more. -/
def plus (accepts : Char → Bool) (isLazy : Bool := false) : Node α :=
  seq (one accepts) (many isLazy accepts)

/-- Exactly `n` rounds of the node. -/
def times : Nat → Node α → Node α
  | 0, _ => empty
  | 1, node => node
  | n + 2, node => seq node (times (n + 1) node)

/-- At most `n` rounds of the node. -/
def upTo (isLazy : Bool) : Nat → Node α → Node α
  | 0, _ => empty
  | n + 1, node => opt (seq node (upTo isLazy n node)) isLazy

end Node

/-- Holds at the start of the text. -/
def atStart : Assertion := fun before _ => before.isNone

/-- Holds at the end of the text. -/
def atEnd : Assertion := fun _ after => after.isNone

/-- Whether a word character stands there. -/
def isWordAt (c : Option Char) : Bool := c.any Text.isWordChar

/-- Holds between a word character and anything else. -/
def atWordEdge : Assertion := fun before after => isWordAt before != isWordAt after

end MediaShelf.Regex
