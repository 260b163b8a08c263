import MediaShelf.FileTree.Basic

/-!
# Renames and copies

## Main definitions

* `Rename.Operation` — a file with the place where it goes
* `RenameError` — why a file stays where it is
-/

namespace MediaShelf

/-- A file that is to be moved or copied. -/
structure Rename.Operation where
  source : Path
  destination : Path
  /-- The number in the name of the destination, if the plain name was taken. -/
  suffix : Option Nat := none
  deriving DecidableEq, Repr

/-- Why a file is not moved or copied. -/
inductive RenameError where
  /-- The directory for the copies cannot be made. -/
  | disk (cause : IoError)
  | createDirectoryFailed (path : Path) (cause : IoError)
  | moveFailed (source destination : Path) (cause : IoError)
  | copyFailed (source destination : Path) (cause : IoError)
  /-- The destination is not below the root that copies are taken from. -/
  | outsideRoot (destination : Path)
  deriving DecidableEq, Repr

namespace RenameError

/-- The wording of an error without its cause. -/
def summary : RenameError → String
  | disk _ => "IO error"
  | createDirectoryFailed path _ => "Failed to create directory " ++ path.toString
  | moveFailed source destination _ =>
    "Failed to move " ++ source.toString ++ " to " ++ destination.toString
  | copyFailed source destination _ =>
    "Failed to copy " ++ source.toString ++ " to " ++ destination.toString
  | outsideRoot destination =>
    "Destination " ++ destination.toString ++ " is outside of the media directory"

/-- What the file system gave as the cause of an error. -/
def cause? : RenameError → Option IoError
  | disk cause | createDirectoryFailed _ cause | moveFailed _ _ cause | copyFailed _ _ cause =>
    some cause
  | outsideRoot _ => none

/-- The wording of an error. -/
def message (e : RenameError) : String :=
  match e.cause? with
  | some cause => e.summary ++ ": " ++ cause.message
  | none => e.summary

end RenameError

end MediaShelf
