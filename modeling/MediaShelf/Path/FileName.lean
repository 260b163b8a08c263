/-!
# Names of files

A file name is split at its last full stop into stem and extension. A name that starts with its
only full stop has no extension.

## Main definitions

* `splitExtension` — the stem and the extension of a name
-/

namespace MediaShelf.Path

/-- The stem of a file name and its extension, if it has one. -/
def splitExtension (name : List Char) : List Char × Option (List Char) :=
  let reversed := name.reverse
  let extension := (reversed.takeWhile (· != '.')).reverse
  match (reversed.dropWhile (· != '.')).drop 1 with
  | [] => (name, none)
  | before => if name = ['.', '.'] then (name, none) else (before.reverse, some extension)

/-- The name without its extension. -/
def stem (name : List Char) : List Char := (splitExtension name).1

/-- The extension of the name, without the full stop. -/
def extension? (name : List Char) : Option (List Char) := (splitExtension name).2

end MediaShelf.Path
