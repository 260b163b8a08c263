import MediaShelf.Config.MediaDirectory
import MediaShelf.FileTree.Basic
import MediaShelf.Toml.Reader

/-!
# Configurations

## Main definitions

* `CacheSettings` — where records are kept on disk, and how long they are good
* `CacheSettings.ttl` — how long in seconds, if 64 bits can hold them
* `Breakdown` — what makes the program break off
* `Config` — the settings of the program
* `Config.load` — reads them from a file
* `Config.mediaDirFor` — the media directory that a path lies in
-/

namespace MediaShelf

/-- What makes the program break off where it is. No part of the program sees to it, unlike to an
error. -/
inductive Breakdown where
  /-- A product does not fit into 64 bits. -/
  | productTooLarge
  deriving DecidableEq, Repr

/-- The wording of a breakdown. -/
def Breakdown.message : Breakdown → String
  | productTooLarge => "attempt to multiply with overflow"

/-- Where records are kept on disk, and how long they are good. -/
structure CacheSettings where
  enabled : Bool := true
  /-- The directory of the records, if it is not the usual one. -/
  dir : Option Path := none
  /-- The hours after which a record is fetched again; without them it is good for ever. -/
  ttlHours : Option UInt64 := some 168
  deriving DecidableEq, Repr

namespace CacheSettings

/-- A product of words that must be a word itself. -/
def product (a b : UInt64) : Except Breakdown UInt64 :=
  if a.toNat * b.toNat < UInt64.size then .ok (a * b) else .error .productTooLarge

/-- The time to live in seconds, counted in 64 bits. The program breaks off if they do not fit. -/
def ttl (settings : CacheSettings) : Except Breakdown (Option Nat) :=
  match settings.ttlHours with
  | none => .ok none
  | some hours => do
    let minutes ← product hours 60
    let seconds ← product minutes 60
    pure (some seconds.toNat)

/-- A field that keeps its default unless it is given. -/
def given {α : Type} (decode : Json → Option α) (default : α) : Option Json → Option α
  | none => some default
  | some value => decode value

/-- Reads the settings; what is left out keeps its default. -/
def ofJson? (json : Json) : Option CacheSettings := do
  match ← Json.fields? ["enabled", "dir", "ttl_hours"] json 3 with
  | [enabled, dir, ttlHours] =>
    pure {
      enabled := ← given Json.toBool? true enabled
      dir := ← given (fun v => (Json.toString? v).map (some ∘ Path.ofString)) none dir
      ttlHours := ← given (fun v => (Json.toLongWord? v).map some) (some 168) ttlHours }
  | _ => none

end CacheSettings

/-- The settings of the program. -/
structure Config where
  /-- How much is told on the error stream. -/
  logLevel : String := "warn"
  cache : CacheSettings := {}
  mediaDirs : List MediaDirectory := []
  /-- The file that the settings were read from. -/
  file : Option Path := none

namespace Config

/-- What is wrong with a document: one of the checks of this library, or its form. -/
abbrev Reading := Except (Option ConfigError)

/-- A value that must have the right form. -/
def orMalformed {α : Type} : Option α → Reading α
  | some value => .ok value
  | none => .error none

/-- Reads a mode in a document that has no null: as a member of a table it has an array or a table
without members for content. -/
def readMode? (value : Json) : Option Mode :=
  (Json.variant? Json.isBare value).bind Mode.ofSpelling?

/-- Takes over a member of the document; others than the settings are passed over. -/
def takeMember (config : Config) : String × Json → Reading Config
  | ("log_level", value) => do
    pure { config with logLevel := ← orMalformed (Json.toString? value) }
  | ("cache", value) => do
    pure { config with cache := ← orMalformed (CacheSettings.ofJson? value) }
  | ("media_dirs", value) => do
    let items ← orMalformed (Json.toList? some value)
    pure { config with mediaDirs := ← items.mapM (MediaDirectory.ofJson · readMode?) }
  | _ => pure config

/-- The settings of a document. Its members are seen to in order, so the first fault counts. -/
def ofText (text : String) : Reading Config :=
  match Toml.read? text with
  | some (.object members) => members.foldlM takeMember {}
  | _ => .error none

/-- The name of the program's directories below the home directory. -/
def applicationName : List Char := "media-sleuth".toList

/-- The usual place of the file with the settings. -/
def defaultPath (home : Path) : Path :=
  [".config".toList, applicationName, "config.toml".toList].foldl Path.push home

/-- The usual place of records on disk. -/
def defaultCacheDir (home : Path) : Path :=
  [".cache".toList, applicationName].foldl Path.push home

/-- Reads a file with settings. -/
def ofFile (tree : FileTree) (path : Path) : Except ConfigError Config := do
  let text ← (tree.readText path).mapError (.readFailed path)
  let config ← (ofText text).mapError (.parseFailed path)
  pure { config with file := some path }

/-- Reads the settings. A file that is named must be there; without a name the usual place is
tried, and if nothing is there, all settings have their defaults. -/
def load (tree : FileTree) (home : Path) : Option Path → Except ConfigError Config
  | some path => ofFile tree path
  | none =>
    if tree.hasEntry (defaultPath home) then ofFile tree (defaultPath home) else .ok {}

/-- Whether a media directory holds a plain path. -/
def holds (tree : FileTree) (path : Path) (dir : MediaDirectory) : Bool :=
  path.startsWith (tree.canonical dir.root)

/-- The later of two directories, unless its root is written with fewer components. -/
def deeper : Option MediaDirectory → MediaDirectory → Option MediaDirectory
  | none, dir => some dir
  | some best, dir =>
    if best.root.components.length ≤ dir.root.components.length then some dir else some best

/-- The media directory that a path lies in: of several the one with the longest root. -/
def mediaDirFor (config : Config) (tree : FileTree) (path : Path) :
    Except ConfigError MediaDirectory :=
  let plain := tree.canonical path
  match (config.mediaDirs.filter (holds tree plain)).foldl deeper none with
  | some dir => .ok dir
  | none => .error (.unknownMediaDirectory plain)

end Config

end MediaShelf
