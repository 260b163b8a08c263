import MediaShelf.Pattern.Segment
import MediaShelf.Regex.Find
import MediaShelf.Text.Blank

/-!
# Matching paths against patterns

The expression that a pattern stands for when paths are read: literals match in any letter case,
a token matches whatever could be its text, an optional group matches its content or nothing.

## Main definitions

* `tokenNode`, `Segment.node`, `node` — the expression of a token, a segment, a pattern
* `nestDepth` — how deeply the expression is nested; beyond `nestLimit` it is refused
* `matchPath?` — the match of a whole path
-/

namespace MediaShelf.Pattern

open Regex (Node)

/-- One decimal digit or more. -/
def digits : Node Token := .plus Text.isDecimalDigit

/-- An ampersand with any blanks around it. -/
def ampersand : Node Token :=
  .seqs [.many false Text.isBlank, .one (· == '&'), .many false Text.isBlank]

/-- The texts that a token can stand for: digits, four digits for a year, numbers joined by
ampersands for episodes, an extension without full stop, and names, the shorter the better, that
stay within a path component. -/
def tokenNode : Token → Node Token
  | .season | .part => digits
  | .year => .times 4 (.one Text.isDecimalDigit)
  | .episode => .seq digits (.star false (.seq ampersand digits))
  | .extension => .plus fun c => c != '.' && c != '/'
  | .showName | .title | .id => .many true (· != '/')

mutual

/-- The expression of a segment. -/
def Segment.node : Segment → Node Token
  | .literal text => .text text
  | .token kind => .group kind (tokenNode kind)
  | .optional children => .opt (node children)

/-- The expression of segments in a row. -/
def node : List Segment → Node Token
  | [] => .empty
  | segment :: rest => .seq segment.node (node rest)

end

/-- How deeply the expression of a token is nested. -/
def tokenDepth : Token → Nat
  | .season | .part | .year => 2
  | .showName | .title | .id => 3
  | .extension => 4
  | .episode => 6

mutual

/-- How deeply the expression of a segment is nested. -/
def Segment.nestDepth : Segment → Nat
  | .literal _ => 0
  | .token kind => tokenDepth kind
  | .optional children => 2 + (rowDepth children + if rowSize children < 2 then 0 else 1)

/-- The greatest depth of segments in a row. -/
def rowDepth : List Segment → Nat
  | [] => 0
  | segment :: rest => max segment.nestDepth (rowDepth rest)

/-- How many items a row of segments stands for: one for each character, token and group. -/
def rowSize : List Segment → Nat
  | [] => 0
  | .literal text :: rest => text.length + rowSize rest
  | _ :: rest => 1 + rowSize rest

end

/-- How deeply the expression of a whole pattern is nested. -/
def nestDepth (segments : List Segment) : Nat := rowDepth segments + 1

/-- The greatest depth that can be matched. -/
def nestLimit : Nat := 250

/-- The match of a whole path, if it follows the pattern. -/
def matchPath? (segments : List Segment) (path : List Char) : Option (Regex.Trace Token) :=
  (node segments).matchWhole? path

end MediaShelf.Pattern
