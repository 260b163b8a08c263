import MediaShelf.Json.Reader
import MediaShelf.Json.Writer
import MediaShelf.Record.Codec
import MediaShelf.Store.Basic

/-!
# Folders of records

Records of one kind in a directory, each in a JSON file of its own. Records older than the time to
live count as missing, but stay where they are.

## Main definitions

* `storedName` — the file name that an identifier is kept under, without extension
* `RecordFolder` — a directory with the form of its records and their time to live
* `RecordFolder.open?`, `load`, `store`, `removePrefixed` — its operations
-/

namespace MediaShelf

/-- An identifier as a file name: in lower case, with everything but ASCII letters, digits and
hyphens replaced by underscores. -/
def storedName (identifier : List Char) : List Char :=
  (Text.lowercase identifier).map fun c => if c.isAlphanum || c == '-' then c else '_'

/-- What the names of records end with. -/
def recordSuffix : List Char := ['.', 'j', 's', 'o', 'n']

/-- A directory of records of one kind. -/
structure RecordFolder (α : Type) where
  path : Path
  /-- The time to live in seconds; without one, records stay good for ever. -/
  ttl : Option Nat
  codec : Codec α

namespace RecordFolder

variable {α : Type}

/-- Nanoseconds in a second. -/
def nanoseconds : Nat := 1000000000

/-- The folder named `name` below a directory, which is made if need be. -/
def make (base : Path) (name : String) (ttl : Option Nat) (codec : Codec α) :
    StateM Disk (Except CacheError (RecordFolder α)) := do
  let path := base.push (storedName name.toList)
  match ← Disk.perform (.makeDirectory path) with
  | .ok () => pure (.ok ⟨path, ttl, codec⟩)
  | .error cause => pure (.error (.directoryCreationFailed path cause))

/-- The file of an identifier. -/
def entryPath (folder : RecordFolder α) (identifier : String) : Path :=
  folder.path.push (storedName identifier.toList ++ recordSuffix)

/-- Whether a file is older than the time to live. -/
def isExpired (folder : RecordFolder α) (disk : Disk) (path : Path) : Bool :=
  match folder.ttl, disk.age? path with
  | some ttl, some age => age > ttl * nanoseconds
  | _, _ => false

/-- The record kept under an identifier, unless there is none or it is too old. -/
def load (folder : RecordFolder α) (disk : Disk) (identifier : String) :
    Except CacheError (Option α) :=
  let path := folder.entryPath identifier
  if !disk.tree.hasEntry path || folder.isExpired disk path then .ok none
  else match disk.tree.readText path with
    | .error cause => .error (.readFailed path cause)
    | .ok text =>
      match (Json.read? text).bind folder.codec.ofJson? with
      | some value => .ok (some value)
      | none => .error (.deserializationFailed path)

/-- Keeps a record under an identifier, in place of an earlier one. -/
def store (folder : RecordFolder α) (identifier : String) (value : α) :
    StateM Disk (Except CacheError Unit) := do
  let path := folder.entryPath identifier
  let text := Json.write (folder.codec.toJson value)
  match ← Disk.perform (.write path text.toUTF8) with
  | .ok () => pure (.ok ())
  | .error cause => pure (.error (.writeFailed path cause))

/-- Removes files one after another, up to the first that cannot be removed; gives their
number. -/
def removeAll : List Path → StateM Disk (Except CacheError Nat)
  | [] => pure (.ok 0)
  | path :: paths => do
    match ← Disk.perform (.removeFile path) with
    | .error cause => pure (.error (.removeFailed path cause))
    | .ok () => pure ((← removeAll paths).map (· + 1))

/-- Removes every record whose identifier starts with `start`, as far as stored names tell. -/
def removePrefixed (folder : RecordFolder α) (start : String) :
    StateM Disk (Except CacheError Nat) := do
  match (← get).tree.children folder.path with
  | .error cause => pure (.error (.readFailed folder.path cause))
  | .ok names =>
    let stored := storedName start.toList
    let doomed := names.filter fun name => stored.isPrefixOf name && recordSuffix.isSuffixOf name
    removeAll (doomed.map folder.path.push)

end RecordFolder

end MediaShelf
