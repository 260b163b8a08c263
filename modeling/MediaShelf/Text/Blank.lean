/-!
# Blank characters

The characters that separate words: those with the `White_Space` property.

## Main definitions

* `isBlank` — the class itself
* `trimStart`, `trimEnd`, `trim` — a text without the blanks at its ends
-/

namespace MediaShelf.Text

/-- The characters with the `White_Space` property. -/
def isBlank (c : Char) : Bool :=
  let n := c.toNat
  (0x09 ≤ n && n ≤ 0x0D) || n == 0x20 || n == 0x85 || n == 0xA0 || n == 0x1680 ||
    (0x2000 ≤ n && n ≤ 0x200A) || n == 0x2028 || n == 0x2029 || n == 0x202F || n == 0x205F ||
    n == 0x3000

/-- The text from its first character that fails `p` on. -/
def trimStartBy (p : Char → Bool) (text : List Char) : List Char := text.dropWhile p

/-- The text up to its last character that fails `p`. -/
def trimEndBy (p : Char → Bool) (text : List Char) : List Char :=
  (text.reverse.dropWhile p).reverse

/-- The text without the characters at either end that satisfy `p`. -/
def trimBy (p : Char → Bool) (text : List Char) : List Char :=
  trimEndBy p (trimStartBy p text)

/-- The text without the blanks at either end. -/
def trim (text : List Char) : List Char := trimBy isBlank text

end MediaShelf.Text
