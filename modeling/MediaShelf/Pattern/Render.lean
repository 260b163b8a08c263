import MediaShelf.Pattern.Segment
import MediaShelf.Text.Normalize
import MediaShelf.Text.Numeral

/-!
# Rendering patterns

A pattern and the metadata of a file give the relative path where the file belongs. An optional
group is rendered when every token directly inside it has a value; inner groups decide for
themselves.

## Main definitions

* `Context` — the metadata at hand
* `Context.value?` — the text of a token
* `render` — the relative path that segments stand for
-/

namespace MediaShelf.Pattern

/-- The metadata of a file, as far as it is known. -/
structure Context where
  showName : Option String := none
  season : Option UInt32 := none
  /-- Several numbers for a file with several episodes; none when unknown. -/
  episodes : List UInt32 := []
  title : Option String := none
  /-- The file extension; full stops in front of it do not count. -/
  extension : Option String := none
  year : Option UInt32 := none
  part : Option UInt32 := none
  id : Option String := none
  deriving DecidableEq, Repr

/-- What stands between the numbers of a file with several episodes. -/
def episodeSeparator : List Char := [' ', '&', ' ']

/-- The numbers with at least two digits each. -/
def writeEpisodes (episodes : List UInt32) : List Char :=
  Text.joinWith episodeSeparator (episodes.map fun n => Text.twoDigits n.toNat)

/-- The text of a token, if the context has a value for it. -/
def Context.value? (context : Context) : Token → Option (List Char)
  | .showName => context.showName.map fun name => Text.normalizeChars name.toList
  | .title => context.title.map fun title => Text.normalizeChars title.toList
  | .id => context.id.map fun id => Text.normalizeChars id.toList
  | .season => context.season.map fun n => Text.twoDigits n.toNat
  | .episode => if context.episodes.isEmpty then none else some (writeEpisodes context.episodes)
  | .extension => context.extension.map fun ext => Text.trimStartBy (· == '.') ext.toList
  | .year => context.year.map fun n => Text.decimal n.toNat
  | .part => context.part.map fun n => Text.decimal n.toNat

/-- Whether every token of the list that is not inside a group has a value. -/
def Context.resolves (context : Context) (children : List Segment) : Bool :=
  children.all fun
    | .token kind => (context.value? kind).isSome
    | _ => true

mutual

/-- The text of a segment. -/
def Segment.render (context : Context) : Segment → List Char
  | .literal text => text
  | .token kind => (context.value? kind).getD []
  | .optional children => if context.resolves children then render context children else []

/-- The text of segments in a row. -/
def render (context : Context) : List Segment → List Char
  | [] => []
  | segment :: rest => segment.render context ++ render context rest

end

end MediaShelf.Pattern
