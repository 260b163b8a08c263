import MediaShelf.Path.FileName
import MediaShelf.Text.Words

/-!
# Paths

A path keeps the text it was given, and that text is what is shown. It is compared by its
components, so repeated slashes, full stops in the middle and slashes at the end do not count.

## Main definitions

* `Component` — the parts of a path
* `Path` and `Path.components` — paths and their parts
* `Path.same`, `Path.compare`, `Path.startsWith` — comparison by components
* `Path.parent?`, `Path.name?`, `Path.join`, `Path.stripRoot?` — the usual operations
-/

namespace MediaShelf

/-- A part of a path. -/
inductive Path.Component where
  /-- The slash at the start of an absolute path. -/
  | root
  /-- A full stop at the start of a relative path. -/
  | here
  /-- Two full stops. -/
  | up
  /-- A name. -/
  | name (text : List Char)
  deriving DecidableEq, Repr

/-- A path with the text it was given. -/
structure Path where
  text : List Char
  deriving DecidableEq, Repr

namespace Path

/-- The path with the text. -/
def ofString (text : String) : Path := ⟨text.toList⟩

/-- The text of the path. -/
def toString (path : Path) : String := String.ofList path.text

/-- Whether the path starts at the root of the file system. -/
def isAbsolute (path : Path) : Bool := path.text.head? == some '/'

/-- The texts between slashes. -/
def pieces (path : Path) : List (List Char) := Text.splitBy (· == '/') path.text

/-- The component of a piece that stands behind others; empty pieces and full stops count for
nothing there. -/
def innerComponent? (piece : List Char) : Option Component :=
  if piece = [] ∨ piece = ['.'] then none
  else if piece = ['.', '.'] then some .up
  else some (.name piece)

/-- The component of the first piece of a relative path. -/
def firstComponent? (piece : List Char) : Option Component :=
  if piece = ['.'] then some .here else innerComponent? piece

/-- The pieces, each with the component it stands for. The first piece of an absolute path is
empty and stands for the root. -/
def parts (path : Path) : List (List Char × Option Component) :=
  match path.pieces with
  | [] => []
  | first :: rest =>
    (first, if path.isAbsolute then some .root else firstComponent? first) ::
      rest.map fun piece => (piece, innerComponent? piece)

/-- The parts of the path that count. -/
def components (path : Path) : List Component := path.parts.filterMap (·.2)

/-- Whether two paths have the same components. -/
def same (a b : Path) : Bool := a.components == b.components

/-- Whether the components of the path start with those of `base`. -/
def startsWith (path base : Path) : Bool := base.components.isPrefixOf path.components

/-- The text of pieces in a row; the root alone is a slash. -/
def ofPieces : List (List Char) → Path
  | [[]] => ⟨['/']⟩
  | pieces => ⟨Text.joinWith ['/'] pieces⟩

/-- The parts without those at the end that do not count. -/
def trimParts (parts : List (List Char × Option Component)) :
    List (List Char × Option Component) :=
  (parts.reverse.dropWhile (·.2.isNone)).reverse

/-- The path without its last component; there is none for the root and the empty path. -/
def parent? (path : Path) : Option Path :=
  match (trimParts path.parts).reverse with
  | [] => none
  | (_, some .root) :: _ => none
  | _ :: before => some (ofPieces ((trimParts before.reverse).map (·.1)))

/-- The last component, if it is a name. -/
def name? (path : Path) : Option (List Char) :=
  match path.components.getLast? with
  | some (.name text) => some text
  | _ => none

/-- The path `other` as seen from `path`. -/
def join (path other : Path) : Path :=
  if other.isAbsolute then other
  else if path.text.isEmpty || path.text.getLast? == some '/' then ⟨path.text ++ other.text⟩
  else ⟨path.text ++ '/' :: other.text⟩

/-- The path with a further component. -/
def push (path : Path) (name : List Char) : Path := path.join ⟨name⟩

/-- The path with another last component in place of its name. -/
def withName (path : Path) (name : List Char) : Path :=
  match path.name? with
  | some _ => (path.parent?.getD ⟨[]⟩).push name
  | none => path.push name

/-- The parts behind the first `n` that count. -/
def dropParts : Nat → List (List Char × Option Component) → List (List Char × Option Component)
  | 0, parts => parts
  | _ + 1, [] => []
  | n + 1, (_, none) :: parts => dropParts (n + 1) parts
  | n + 1, (_, some _) :: parts => dropParts n parts

/-- The rest of the path behind the components of `base`, if it starts with them. -/
def stripRoot? (path base : Path) : Option Path :=
  if path.startsWith base then
    match base.components.length with
    | 0 => some (ofPieces ((trimParts path.parts).map (·.1)))
    | n =>
      let rest := (dropParts n path.parts).dropWhile (·.2.isNone)
      some ⟨Text.joinWith ['/'] ((trimParts rest).map (·.1))⟩
  else none

/-- The names among the components. -/
def names (path : Path) : List (List Char) :=
  path.components.filterMap fun
    | .name text => some text
    | _ => none

/-- The stem of the last name. -/
def stem? (path : Path) : Option (List Char) := path.name?.map stem

/-- The extension of the last name. -/
def suffix? (path : Path) : Option (List Char) := path.name?.bind extension?

/-- The rank of a component among those of other kinds. -/
def Component.rank : Component → Nat
  | root => 0
  | here => 1
  | up => 2
  | name _ => 3

/-- Compares texts by code points, the order of their encoded bytes. -/
def compareText : List Char → List Char → Ordering
  | [], [] => .eq
  | [], _ :: _ => .lt
  | _ :: _, [] => .gt
  | a :: as, b :: bs => (Ord.compare a.toNat b.toNat).then (compareText as bs)

/-- Compares components by kind, names by their text. -/
def Component.compare : Component → Component → Ordering
  | name a, name b => compareText a b
  | a, b => Ord.compare a.rank b.rank

/-- Compares lists of components, the earlier ones first. -/
def compareComponents : List Component → List Component → Ordering
  | [], [] => .eq
  | [], _ :: _ => .lt
  | _ :: _, [] => .gt
  | a :: as, b :: bs => (a.compare b).then (compareComponents as bs)

/-- Compares paths component by component. -/
def compare (a b : Path) : Ordering := compareComponents a.components b.components

end Path

end MediaShelf
