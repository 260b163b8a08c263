import MediaShelf.FileTree.Change

/-!
# Disks

A file tree in time. Every change goes through one door, which moves the clock on and keeps a
record, so that what was done can be done again elsewhere. At any time a change may fail although
the tree would allow it.

## Main definitions

* `Refusal` — a change that fails for reasons outside the tree
* `Disk` — a file tree with a clock and the changes made so far
* `Disk.perform` — makes a change
* `Disk.age?` — how long ago a file was changed
-/

namespace MediaShelf

/-- A change that fails for reasons outside the tree, such as rights or a full disk. -/
structure Refusal where
  cause : IoError
  /-- How much is done nevertheless: pieces of the path of a directory that are made, or steps of a
  copy, where the target is emptied first and then gets one byte after the other. -/
  made : Nat := 0
  deriving DecidableEq, Repr

/-- What is left at the time `now` of a change that is broken off: directories above the last that
was to be made, or the start of a copy. -/
def FileTree.applyPartly (tree : FileTree) (now made : Nat) : Change → FileTree
  | .makeDirectory path =>
    if path.text.contains '\x00' then tree
    else (tree.makeDirectories (tree.startOf path) (path.pieces.take made)).1
  | .copy source target =>
    match made with
    | 0 => tree
    | bytes + 1 => (tree.settle (tree.copyFile now source target (·.extract 0 bytes))).1
  | _ => tree

/-- A file tree in time. -/
structure Disk where
  tree : FileTree := {}
  /-- The clock, in nanoseconds. -/
  now : Nat := 0
  /-- The changes asked for so far, last first, and whether they were made. -/
  journal : List (Change × Bool) := []
  /-- The changes that fail for reasons outside the tree, by the time of the clock. -/
  refusal : Nat → Option Refusal := fun _ => none

namespace Disk

/-- Makes a change. The clock moves on, so that every later change has a later time. -/
def perform (change : Change) : StateM Disk (Except IoError Unit) := fun disk =>
  let (tree, result) := match disk.refusal disk.now with
    | none => disk.tree.apply disk.now change
    | some refusal =>
      (disk.tree.applyPartly disk.now refusal.made change, .error refusal.cause)
  (result, { disk with
    tree, now := disk.now + 1, journal := (change, result.isOk) :: disk.journal })

/-- The time since the last change of a file; none if that time lies in the future. -/
def age? (disk : Disk) (path : Path) : Option Nat :=
  match disk.tree.entryAt path with
  | .ok (_, .file _ modified) => if modified ≤ disk.now then some (disk.now - modified) else none
  | _ => none

end Disk

end MediaShelf
