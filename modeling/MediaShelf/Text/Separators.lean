import MediaShelf.Text.Words

/-!
# Release names

Release names use full stops and underscores where a title has spaces. A full stop next to a
space is punctuation and is kept, as in `Mr. Smith`.

## Main definitions

* `spaceSeparators` — separators replaced by spaces
* `cleanSeparators` — the words so found, without stray punctuation at the ends
-/

namespace MediaShelf.Text

/-- Replaces underscores, and full stops without a space beside them, by spaces. The text stands
after the character `before`. -/
def spaceSeparators (before : Option Char) : List Char → List Char
  | [] => []
  | c :: rest =>
    let besideSpace := before == some ' ' || rest.head? == some ' '
    let cleaned := if c == '_' || (c == '.' && !besideSpace) then ' ' else c
    cleaned :: spaceSeparators (some c) rest

/-- Punctuation that is dropped from the ends of a name. -/
def isEndJunk (c : Char) : Bool := c == '-' || c == ' ' || c == '.' || c == ','

/-- The title that a release name stands for. -/
def cleanSeparators (text : List Char) : List Char :=
  trimBy isEndJunk (collapseBlanks (spaceSeparators none text))

end MediaShelf.Text
