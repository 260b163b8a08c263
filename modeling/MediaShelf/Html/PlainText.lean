import MediaShelf.Html.CharacterName
import MediaShelf.Text.Blank
import MediaShelf.Text.Lowercase
import MediaShelf.Text.Numeral

/-!
# HTML as plain text

Tags vanish or become line ends, references become characters, and runs of blanks become single
spaces. Links keep their address in brackets.

## Main definitions

* `Piece` and `pieces` — the characters, references and tags of a text
* `Page` and `Page.take` — the plain text so far, and a further piece
* `plainText` — the plain text of a whole text
-/

namespace MediaShelf.Html

open Text (behind? isBlank)

/-- A part of a text with tags. -/
inductive Piece where
  | char (c : Char)
  /-- The characters that a reference stands for. -/
  | reference (text : List Char)
  /-- What stands between angle brackets. -/
  | tag (text : List Char)
  deriving DecidableEq, Repr

/-- The value of hexadecimal digits. -/
def readHex? (text : List Char) : Option Nat :=
  if text.isEmpty then none
  else text.foldlM (fun n c => (Json.hexValue? c).map (n * 16 + ·)) 0

/-- The characters that a reference stands for, without its sign and its end. -/
def referenced? : List Char → Option (List Char)
  | '#' :: x :: digits => do
    let n ← if x == 'x' || x == 'X' then readHex? digits else Text.readDigits? (x :: digits)
    if n < 0xD800 || (0xE000 ≤ n && n < 0x110000) then pure [Char.ofNat n] else none
  | name => namedCharacter? name

/-- What ends a reference. -/
def endsReference (c : Char) : Bool := c == ';' || isBlank c

/-- The characters of a reference behind its sign, and what is behind its end. -/
def readReference? (text : List Char) : Option (List Char × List Char) :=
  match text.dropWhile (! endsReference ·) with
  | [] => none
  | _ :: rest => (referenced? (text.takeWhile (! endsReference ·))).map (·, rest)

/-- The text of a tag behind its opening bracket, and what is behind the closing one. -/
def readTag? (text : List Char) : Option (List Char × List Char) :=
  match text.dropWhile (· != '>') with
  | [] => none
  | _ :: rest =>
    let tag := text.takeWhile (· != '>')
    if tag.isEmpty then none else some (tag, rest)

/-- What a comment starts with behind its opening bracket. -/
def commentStart : List Char := ['!', '-', '-']

/-- What a comment ends with. -/
def commentEnd : List Char := ['-', '-', '>']

/-- The text behind a comment, given the text behind its opening bracket. -/
def afterComment? (text : List Char) : Option (List Char) :=
  if commentStart.isPrefixOf text then behind? commentEnd (text.drop commentStart.length) else none

/-- The pieces of a text. Each takes a character at least, so the length of the text is fuel
enough. -/
def piecesWithin : Nat → List Char → List Piece
  | 0, _ | _, [] => []
  | fuel + 1, '<' :: rest =>
    match afterComment? rest, readTag? rest with
    | some rest, _ => piecesWithin fuel rest
    | none, some (tag, rest) => .tag tag :: piecesWithin fuel rest
    | none, none => .char '<' :: piecesWithin fuel rest
  | fuel + 1, '&' :: rest =>
    match readReference? rest with
    | some (text, rest) => .reference text :: piecesWithin fuel rest
    | none => .char '&' :: piecesWithin fuel rest
  | fuel + 1, c :: rest => .char c :: piecesWithin fuel rest

/-- The pieces of a text. -/
def pieces (text : List Char) : List Piece := piecesWithin text.length text

/-- The name of a tag in lower case, with the slash of a closing tag. -/
def tagName (tag : List Char) : List Char :=
  match tag with
  | '/' :: rest => '/' :: name rest
  | _ => name tag
where
  /-- The characters of a name at the start of a text. -/
  name (text : List Char) : List Char :=
    Text.lowercase (text.takeWhile fun c => !isBlank c && c != '/')

/-- What a tag does to the plain text. -/
inductive TagKind where
  | lineBreak
  | paragraph
  | link
  | linkEnd
  /-- The opening tag of an element that is left out with its content. -/
  | hidden (name : List Char)
  | other
  deriving DecidableEq, Repr

/-- What the tag with a name does. -/
def tagKind (name : List Char) : TagKind :=
  let name := String.ofList name
  if ["br", "li", "/ul", "/ol"].contains name then .lineBreak
  else if ["p", "h1", "h2", "h3", "h4", "h5", "h6",
      "/h1", "/h2", "/h3", "/h4", "/h5", "/h6"].contains name then .paragraph
  else if name == "a" then .link
  else if name == "/a" then .linkEnd
  else if ["head", "script", "style"].contains name then .hidden name.toList
  else .other

/-- The value of an attribute behind its name: behind an equals sign, in quotes or up to the next
blank. -/
def attributeValue? (text : List Char) : Option (List Char) :=
  match Text.trimStartBy isBlank text with
  | '=' :: rest =>
    match Text.trimStartBy isBlank rest with
    | '\x22' :: rest => some (rest.takeWhile (· != '\x22'))
    | '\x27' :: rest => some (rest.takeWhile (· != '\x27'))
    | rest => some (rest.takeWhile (! isBlank ·))
  | _ => none

/-- The name of the attribute with the address of a link. -/
def addressName : List Char := ['h', 'r', 'e', 'f']

/-- The address of a link, given the text of its tag. -/
def address? : List Char → Option (List Char)
  | [] => none
  | c :: rest =>
    if Text.lowercase ((c :: rest).take addressName.length) = addressName then
      (attributeValue? ((c :: rest).drop addressName.length)).or (address? rest)
    else address? rest

/-- What the addresses of programs hold. -/
def programMark : List Char := "javascript:".toList

/-- The plain text so far. -/
structure Page where
  /-- The characters so far, last first. -/
  written : List Char := []
  /-- The links that are open, last first: their addresses, and how much was written in front. -/
  links : List (Option (List Char) × Nat) := []
  /-- The element that is being left out. -/
  hidden : Option (List Char) := none

namespace Page

/-- Two line ends, last character first. -/
def gap : List Char := ['\n', '\r', '\n', '\r']

/-- Whether a paragraph starts here. -/
def isFresh (page : Page) : Bool := page.written.isEmpty || gap.isPrefixOf page.written

/-- Writes text as it is. -/
def write (page : Page) (text : List Char) : Page :=
  { page with written := text.reverse ++ page.written }

/-- Writes a character; blanks become single spaces, and none stands at the start of a
paragraph. -/
def writeChar (page : Page) (c : Char) : Page :=
  if isBlank c then
    if page.isFresh || page.written.head? == some ' ' then page else page.write [' ']
  else page.write [c]

/-- Ends a link: its address follows its text in brackets, or stands for it if there is no other
text. -/
def endLink (page : Page) : Page :=
  match page.links with
  | [] => page
  | (address, start) :: links =>
    let page := { page with links }
    let text := (page.written.take (page.written.length - start)).reverse
    -- addresses of programs are not shown
    match address.filter fun url => (behind? programMark url).isNone with
    | none => page
    | some url =>
      if text = url then page
      else if text.isEmpty then page.write url
      else page.write ([' ', '('] ++ url ++ [')'])

/-- Takes up a tag. -/
def takeTag (page : Page) (tag : List Char) : Page :=
  match tagKind (tagName tag) with
  | .lineBreak => page.write ['\r', '\n']
  | .paragraph => if page.isFresh then page else page.write gap.reverse
  | .link => { page with links := (address? tag, page.written.length) :: page.links }
  | .linkEnd => page.endLink
  | .hidden name => { page with hidden := some name }
  | .other => page

/-- Takes up a piece. -/
def take (page : Page) (piece : Piece) : Page :=
  match page.hidden, piece with
  -- while an element is left out, only its closing tag counts
  | some name, .tag tag => if tagName tag = '/' :: name then { page with hidden := none } else page
  | some _, _ => page
  | none, .char c => page.writeChar c
  | none, .reference text => page.write text
  | none, .tag tag => page.takeTag tag

end Page

/-- The plain text of a text with tags, without blanks at its ends. -/
def plainText (text : String) : String :=
  let page := (pieces text.toList).foldl Page.take {}
  String.ofList (Text.trim page.written.reverse)

end MediaShelf.Html
