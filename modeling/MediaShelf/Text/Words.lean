import MediaShelf.Text.Blank

/-!
# Splitting and joining text

## Main definitions

* `splitBy` — the pieces of a text between the characters that satisfy a predicate
* `joinWith` — pieces put together with a separator between them
* `words` — the longest pieces free of blanks
* `collapseBlanks` — the words of a text with one space between them
* `behind?` — what follows the first occurrence of a text in another
-/

namespace MediaShelf.Text

/-- The pieces of a text between separators; there is one piece more than separators. -/
def splitBy (isSeparator : Char → Bool) : List Char → List (List Char)
  | [] => [[]]
  | c :: rest =>
    if isSeparator c then [] :: splitBy isSeparator rest
    else match splitBy isSeparator rest with
      | [] => [[c]]
      | piece :: pieces => (c :: piece) :: pieces

/-- The pieces in order, with the separator between neighbours. -/
def joinWith (separator : List Char) : List (List Char) → List Char
  | [] => []
  | [piece] => piece
  | piece :: next :: pieces => piece ++ separator ++ joinWith separator (next :: pieces)

/-- The maximal non-empty pieces without blanks. -/
def words (text : List Char) : List (List Char) :=
  (splitBy isBlank text).filter (! ·.isEmpty)

/-- The words of a text, one space between neighbours. -/
def collapseBlanks (text : List Char) : List Char := joinWith [' '] (words text)

/-- What follows the first place where `mark` stands in the text. -/
def behind? (mark : List Char) : List Char → Option (List Char)
  | [] => none
  | c :: rest =>
    if mark.isPrefixOf (c :: rest) then some ((c :: rest).drop mark.length) else behind? mark rest

end MediaShelf.Text
