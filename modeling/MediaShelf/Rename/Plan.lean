import MediaShelf.Rename.Operation
import MediaShelf.Text.Numeral

/-!
# Planning renames

Every file is to go to the destination that its metadata give it. Where that name is taken, by
another file of the plan or by a file on disk, the smallest free number from two on is put behind
the name. Files that are in their place already are left out, and their places count as taken.

## Main definitions

* `withSuffix` — a path with a number behind its name
* `freeName` — the first of a path and its numbered variants that is free
* `aim` — the destination, moved over to the directory for copies if there is one
* `plan` — the operations for files and their destinations
-/

namespace MediaShelf.Rename

/-- A path whose name has a number in brackets in front of its extension. -/
def withSuffix (path : Path) (k : Nat) : Path :=
  let number := ' ' :: '(' :: Text.decimal k ++ [')']
  let extension := match path.suffix? with
    | some ext => '.' :: ext
    | none => []
  path.withName (path.stem?.getD [] ++ number ++ extension)

/-- A file and its destination. -/
structure Target where
  source : Path
  destination : Path
  deriving DecidableEq, Repr

/-- Where a target is to go. Copies go to `output` with the same path that their destination has
below `root`. -/
def aim (root : Path) (output : Option Path) (target : Target) : Except RenameError Target :=
  match output with
  | none => .ok target
  | some output =>
    match target.destination.stripRoot? root with
    | some relative => .ok { target with destination := output.join relative }
    | none => .error (.outsideRoot target.destination)

/-- Whether one of the paths is the given one, however it is written. -/
def isClaimed (claimed : List Path) (path : Path) : Bool := claimed.any (·.same path)

/-- Whether a file may go to a path: no other file of the plan goes there, and nothing is there
but the file itself. -/
def isFree (tree : FileTree) (claimed : List Path) (source path : Path) : Bool :=
  !isClaimed claimed path && (!tree.hasEntry path || path.same source)

/-- The path, or the first of its variants with a number below `limit` that is free. -/
def freeName (free : Path → Bool) (limit : Nat) (path : Path) : Path × Option Nat :=
  if free path then (path, none)
  else match (List.range' 2 (limit - 2)).find? fun k => free (withSuffix path k) with
    | some k => (withSuffix path k, some k)
    | none => (withSuffix path limit, some limit)

/-- A number that is never needed: there are fewer files that could stand in the way. -/
def suffixLimit (tree : FileTree) (claimed : List Path) : Nat :=
  tree.entries.length + claimed.length + 3

/-- The operations for targets in order, when the paths `claimed` are taken. -/
def planFrom (tree : FileTree) (claimed : List Path) : List Target → List Operation
  | [] => []
  | ⟨source, destination⟩ :: targets =>
    let (place, suffix) :=
      freeName (isFree tree claimed source) (suffixLimit tree claimed) destination
    let rest := planFrom tree (place :: claimed) targets
    -- a numbered file of an earlier run may be in its place already
    if place.same source then rest else ⟨source, place, suffix⟩ :: rest

/-- Whether a target is in its place. A copy is made even then. -/
def isSettled (output : Option Path) (target : Target) : Bool :=
  output.isNone && target.source.same target.destination

/-- The operations for targets. -/
def plan (tree : FileTree) (root : Path) (output : Option Path) (targets : List Target) :
    Except RenameError (List Operation) := do
  let aimed ← targets.mapM (aim root output)
  let (settled, pending) := aimed.partition (isSettled output)
  pure (planFrom tree (settled.map (·.destination)) pending)

end MediaShelf.Rename
