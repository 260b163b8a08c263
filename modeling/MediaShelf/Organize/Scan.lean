import MediaShelf.Config.MediaDirectory
import MediaShelf.FileTree.Basic
import MediaShelf.Organize.VideoSignature

/-!
# Finding media files

The files of a media directory are those at any depth below its root that have one of its
extensions or look like videos. What an ignore pattern occurs in is passed over, a directory with
all that is in it. What looks like a video is told from the start of the content, and a search can
be given another way to tell.

## Main definitions

* `ScanError` — why a directory cannot be searched
* `MediaDirectory.isMediaFile` — whether a file counts
* `MediaDirectory.scan` — the media files in the order of their paths
-/

namespace MediaShelf

/-- Why a directory cannot be searched. -/
inductive ScanError where
  | notADirectory (path : Path)
  | readFailed (path : Path) (cause : IoError)
  deriving DecidableEq, Repr

namespace ScanError

/-- The wording of an error without its cause. -/
def summary : ScanError → String
  | notADirectory path => "Path is not a directory: " ++ path.toString
  | readFailed path _ => "Failed to read directory " ++ path.toString

/-- The wording of an error. -/
def message : ScanError → String
  | notADirectory path => (notADirectory path).summary
  | readFailed path cause => (readFailed path cause).summary ++ ": " ++ cause.message

end ScanError

namespace MediaDirectory

/-- Whether a file has one of the extensions or starts like a video. -/
def isMediaFile (dir : MediaDirectory) (tree : FileTree) (path : Path)
    (looks : ByteArray → Bool := looksLikeVideo) : Bool :=
  tree.isFile path &&
    (dir.acceptsExtension path ||
      match tree.readBytes path with
      | .ok content => looks (signatureWindow content)
      | .error _ => false)

/-- The media files in an entry that is not ignored: those that `below` gives for a directory, or
the entry itself. -/
def filesAt (dir : MediaDirectory) (tree : FileTree) (looks : ByteArray → Bool)
    (below : Path → Except ScanError (List Path)) (entry : Path) : Except ScanError (List Path) :=
  if dir.isIgnored entry then pure []
  else if tree.isDirectory entry then below entry
  else pure (if dir.isMediaFile tree entry looks then [entry] else [])

/-- The media files below a path, down to a depth. -/
def filesBelow (dir : MediaDirectory) (tree : FileTree) (looks : ByteArray → Bool) :
    Nat → Path → Except ScanError (List Path)
  | 0, _ => .ok []
  | depth + 1, path => do
    if !tree.isDirectory path then throw (.notADirectory path)
    let names ← (tree.children path).mapError (.readFailed path)
    let found ← names.mapM fun name =>
      dir.filesAt tree looks (filesBelow dir tree looks depth) (path.push name)
    pure found.flatten

/-- The media files in the order of their paths. No path is longer than there are entries. -/
def scan (dir : MediaDirectory) (tree : FileTree) (looks : ByteArray → Bool := looksLikeVideo) :
    Except ScanError (List Path) := do
  let files ← dir.filesBelow tree looks (tree.entries.length + 1) dir.root
  pure (files.mergeSort fun a b => a.compare b != .gt)

end MediaDirectory

end MediaShelf
