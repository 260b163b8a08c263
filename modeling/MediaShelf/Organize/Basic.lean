import MediaShelf.Organize.Identify
import MediaShelf.Organize.Scan
import MediaShelf.Rename.Plan

/-!
# Organizing media directories

All files of a directory are found and then identified one after the other. A file that cannot be
identified never keeps the others from being seen to.

## Main definitions

* `identifyAll` — the outcomes for files in order
* `organize` — the outcomes for all files of a media directory
* `planRenames` — the operations for the files that were identified
-/

namespace MediaShelf

variable {m : Type → Type} [Monad m]

/-- Identifies files in order and tells of each. The first has the number `index` of `total`. -/
def identifyAll (resolver : Resolver m) (dir : MediaDirectory) (refresh : Bool)
    (tell : Event → m Unit) (total : Nat) : Nat → List Path → m (List FileOutcome)
  | _, [] => pure []
  | index, path :: paths => do
    tell (.processing index total path)
    let outcome ← identify resolver dir refresh path
    tell outcome.event
    pure (outcome :: (← identifyAll resolver dir refresh tell total (index + 1) paths))

/-- Finds and identifies all files of a media directory, and tells of each step. Nothing is
renamed. -/
def organize (resolver : Resolver m) (tree : FileTree) (dir : MediaDirectory) (refresh : Bool)
    (tell : Event → m Unit) : m (Except ScanError (List FileOutcome)) := do
  tell (.started dir.root dir.mode)
  tell .scanning
  match dir.scan tree with
  | .error e => pure (.error e)
  | .ok files =>
    tell (.found files.length)
    let outcomes ← identifyAll resolver dir refresh tell files.length 0 files
    let resolved := (outcomes.filter (·.isResolved)).length
    tell (.complete resolved (outcomes.length - resolved))
    pure (.ok outcomes)

/-- The files that were identified, with their destinations. -/
def targets (outcomes : List FileOutcome) : List Rename.Target :=
  outcomes.filterMap fun outcome =>
    match outcome.result with
    | .ok placement => some ⟨outcome.path, placement.destination⟩
    | .error _ => none

/-- The renames for the files that were identified, or the copies into `output`. -/
def planRenames (tree : FileTree) (dir : MediaDirectory) (output : Option Path)
    (outcomes : List FileOutcome) : Except RenameError (List Rename.Operation) :=
  Rename.plan tree dir.root output (targets outcomes)

end MediaShelf
