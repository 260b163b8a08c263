import MediaShelf.Pattern.Segment
import MediaShelf.Regex.Find
import MediaShelf.Text.Blank
import MediaShelf.Text.Numeral

/-!
# Decorations of titles

A title in a file name may carry a bracketed year and a part number, which do not belong to it.

## Main definitions

* `yearDecoration`, `partDecoration` — what decorations look like
* `Decorated` — a title with the decorations found on it
* `stripDecorations` — takes the first decoration of each kind off
-/

namespace MediaShelf.Pattern

open Regex (Node)

/-- A year of the twentieth or twenty-first century. -/
def centuryYear : Node Token :=
  .seqs [.alts [.seqs [.one (· == '1'), .one (· == '9')], .seqs [.one (· == '2'), .one (· == '0')]],
    .times 2 (.one Text.isDecimalDigit)]

/-- A year in round or square brackets. -/
def yearDecoration : Node Token :=
  .seqs [.one (['(', '['].contains ·), .group .year centuryYear, .one ([')', ']'].contains ·)]

/-- The word `part`, `pt` or `cd` with a number of one or two digits, after the start of the text,
a blank, punctuation or an opening bracket, and before a closing bracket or the end of a word. -/
def partDecoration : Node Token :=
  .seqs [
    .alts [.look Regex.atStart,
      .one fun c => Text.isBlank c || ['.', '-', '_', '(', '['].contains c],
    .alts [.text ['p', 'a', 'r', 't'], .text ['p', 't'], .text ['c', 'd']],
    .many false fun c => Text.isBlank c || c == '.',
    .group .part (.seq (.one Text.isDecimalDigit) (.upTo false 1 (.one Text.isDecimalDigit))),
    .alts [.one ([')', ']'].contains ·), .look Regex.atWordEdge]]

/-- A title and the decorations that stood on it. -/
structure Decorated where
  title : List Char
  year : Option (List Char)
  part : Option UInt32
  deriving DecidableEq, Repr

/-- The title with its first bracketed year replaced by a space, and that year. -/
def stripYear (title : List Char) : List Char × Option (List Char) :=
  match yearDecoration.find? title with
  | none => (title, none)
  | some found =>
    match found.group? .year with
    | none => (title, none)
    | some year => (found.before ++ ' ' :: found.rest, some year)

/-- The title with its first part number replaced by a space, and that number. Digits without a
value stay where they are. -/
def stripPart (title : List Char) : List Char × Option UInt32 :=
  match partDecoration.find? title with
  | none => (title, none)
  | some found =>
    match (found.group? .part).bind Text.readWord? with
    | none => (title, none)
    | some part => (found.before ++ ' ' :: found.rest, some part)

/-- Takes the first year and the first part number off a title. -/
def stripDecorations (title : List Char) : Decorated :=
  let (undated, year) := stripYear title
  let (bare, part) := stripPart undated
  ⟨bare, year, part⟩

end MediaShelf.Pattern
