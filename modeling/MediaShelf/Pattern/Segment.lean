/-!
# Segments of naming patterns

A naming pattern is a sequence of literal text, tokens that stand for metadata, and optional
groups. In writing, a token is a percent sign and its sigil, an optional group stands between
braces, and a doubled percent sign is a literal one.

## Main definitions

* `Token` — the kinds of metadata, with their sigils
* `Segment` — a part of a pattern
* `Segment.write`, `writeAll` — the written form of segments
* `uses` — whether a token occurs at any depth
-/

namespace MediaShelf.Pattern

/-- The kinds of metadata that a token can stand for. -/
inductive Token where
  | showName
  | season
  | episode
  | title
  | extension
  | year
  | part
  | id
  deriving DecidableEq, Repr

namespace Token

/-- All tokens, in the order in which they are documented. -/
def all : List Token := [showName, season, episode, title, extension, year, part, id]

/-- The character that names the token after a percent sign. -/
def sigil : Token → Char
  | showName => 'n'
  | season => 's'
  | episode => 'e'
  | title => 't'
  | extension => 'x'
  | year => 'y'
  | part => 'p'
  | id => 'h'

/-- The token that a character names. -/
def ofSigil? (c : Char) : Option Token := all.find? (·.sigil == c)

theorem ofSigil?_sigil (t : Token) : ofSigil? t.sigil = some t := by cases t <;> rfl

theorem sigil_of_ofSigil? {c : Char} {t : Token} (h : ofSigil? c = some t) : t.sigil = c := by
  simpa using List.find?_some h

end Token

/-- A part of a pattern. -/
inductive Segment where
  /-- Text that stands for itself. -/
  | literal (text : List Char)
  /-- A place for metadata. -/
  | token (kind : Token)
  /-- A group that may be left out. -/
  | optional (children : List Segment)
  deriving Repr

/-- Literal text with every percent sign doubled. -/
def writeLiteral (text : List Char) : List Char :=
  text.flatMap fun c => if c = '%' then ['%', '%'] else [c]

mutual

/-- The written form of a segment. -/
def Segment.write : Segment → List Char
  | .literal text => writeLiteral text
  | .token kind => ['%', kind.sigil]
  | .optional children => '{' :: (writeAll children ++ ['}'])

/-- The written form of segments in a row. -/
def writeAll : List Segment → List Char
  | [] => []
  | segment :: rest => segment.write ++ writeAll rest

end

mutual

/-- Whether the token occurs in the segment at any depth. -/
def Segment.uses (kind : Token) : Segment → Bool
  | .literal _ => false
  | .token k => k == kind
  | .optional children => uses kind children

/-- Whether the token occurs in the segments at any depth. -/
def uses (kind : Token) : List Segment → Bool
  | [] => false
  | segment :: rest => segment.uses kind || uses kind rest

end

end MediaShelf.Pattern
