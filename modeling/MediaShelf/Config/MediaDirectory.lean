import MediaShelf.Config.Error
import MediaShelf.Json.Decode
import MediaShelf.Pattern.Basic
import MediaShelf.Record.Codec
import MediaShelf.Regex.Reader

/-!
# Media directories

A media directory is a tree of files that share one naming pattern.

## Main definitions

* `MediaDirectory` — a directory with its pattern, its sources and its expressions
* `MediaDirectory.Spec` — a directory as written, with `Spec.build` to check it
* `MediaDirectory.ofJson` — reads and checks a directory
* `MediaDirectory.acceptsExtension`, `MediaDirectory.isIgnored` — which files count
-/

namespace MediaShelf

/-- A directory of media files. -/
structure MediaDirectory where
  root : Path
  mode : Mode
  pattern : Pattern
  /-- The ids of the sources to search, in order. -/
  sources : List String
  /-- The extensions of media files, in lower case and without full stop. -/
  extensions : List String
  /-- Junk that is taken out of search terms. -/
  stripTokens : List Regex
  /-- Files whose path one of these occurs in are left alone. -/
  ignorePatterns : List Regex
  /-- Whether directories that become empty are removed. -/
  pruneEmptyDirs : Bool

namespace MediaDirectory

/-- The pattern of a directory that names none. -/
def defaultPattern : Mode → String
  | .tvShow => "%n/Season %s/%s %e - %t.%x"
  | .film => "%t\x7b (%y)\x7d\x7b Part %p\x7d.%x"

/-- The sources of a directory that names none. -/
def defaultSources : List String := ["tvmaze"]

/-- The extensions of a directory that names none. -/
def defaultExtensions : List String :=
  ["avi", "mkv", "mp4", "m4v", "mpg", "mpeg", "mov", "wmv", "ts"]

/-- The junk of a directory that names none: release formats, codecs, resolutions and whatever
stands in square brackets. -/
def defaultStripTokens : List String := [
  "(?i)\\b(?:dvdrip|dvd-rip|bdrip|brrip|bluray|web-?dl|webrip|hdtv|pdtv|dvdscr)\\b",
  "(?i)\\b(?:xvid|divx|x264|x265|h\\.?264|hevc|aac|ac3)\\b",
  "(?i)\\b(?:480p|576p|720p|1080p|2160p)\\b",
  "\\[[^\\]]*\\]"]

/-- A media directory as it is written down. -/
structure Spec where
  root : Path
  mode : Mode
  pattern : Option String := none
  sources : List String := defaultSources
  extensions : Option (List String) := none
  stripTokens : Option (List String) := none
  ignorePatterns : List String := []
  pruneEmptyDirs : Bool := false

/-- Compiles expressions; the first faulty one is reported. -/
def compileAll (sources : List String) : Except ConfigError (List Regex) :=
  sources.mapM fun source =>
    match Regex.compile? source with
    | some regex => .ok regex
    | none => .error (.invalidRegex source)

/-- An extension in lower case and without full stops in front. -/
def cleanExtension (ext : String) : String :=
  String.ofList (Text.lowercase (Text.trimStartBy (· == '.') ext.toList))

/-- The directory that is written down, if its pattern and expressions are sound and it has a
source. -/
def Spec.build (spec : Spec) : Except ConfigError MediaDirectory := do
  let source := spec.pattern.getD (defaultPattern spec.mode)
  let pattern ← match Pattern.compile source with
    | .ok pattern => .ok pattern
    | .error cause => .error (.invalidPattern source cause)
  if spec.sources.isEmpty then throw (.noSources spec.root)
  let stripTokens ← compileAll (spec.stripTokens.getD defaultStripTokens)
  let ignorePatterns ← compileAll spec.ignorePatterns
  pure {
    root := spec.root
    mode := spec.mode
    pattern
    sources := spec.sources
    extensions := (spec.extensions.getD defaultExtensions).map cleanExtension
    stripTokens
    ignorePatterns
    pruneEmptyDirs := spec.pruneEmptyDirs }

/-- Reads a directory as it is written down, with a reader for the mode. Fields that have a default
of their own can be left out, but cannot be null. -/
def Spec.ofJson? (readMode : Json → Option Mode) (json : Json) : Option Spec := do
  let fields ← Json.fields? ["root", "mode", "pattern", "sources", "extensions", "strip_tokens",
    "ignore_patterns", "prune_empty_dirs"] json 2
  let strings := Json.toList? Json.toString?
  match fields with
  | [root, mode, pattern, sources, extensions, stripTokens, ignorePatterns, pruneEmptyDirs] =>
    pure {
      root := Path.ofString (← Json.required? Json.toString? root)
      mode := ← Json.required? readMode mode
      pattern := ← Json.optional? Json.toString? pattern
      sources := ← Json.required? strings
        (sources.or (some (.array (defaultSources.map .string))))
      extensions := ← Json.optional? strings extensions
      stripTokens := ← Json.optional? strings stripTokens
      ignorePatterns := ← Json.required? strings (ignorePatterns.or (some (.array [])))
      pruneEmptyDirs := ← Json.required? Json.toBool? (pruneEmptyDirs.or (some (.bool false))) }
  | _ => none

/-- Reads and checks a directory. The error is told if the form is right. -/
def ofJson (json : Json) (readMode : Json → Option Mode := Mode.ofJson?) :
    Except (Option ConfigError) MediaDirectory :=
  match Spec.ofJson? readMode json with
  | none => .error none
  | some spec => spec.build.mapError some

/-- Whether the file has one of the extensions, in any letter case. -/
def acceptsExtension (dir : MediaDirectory) (path : Path) : Bool :=
  path.suffix?.any fun ext => dir.extensions.contains (String.ofList (Text.lowercase ext))

/-- Whether one of the ignore patterns occurs in the path. -/
def isIgnored (dir : MediaDirectory) (path : Path) : Bool :=
  dir.ignorePatterns.any (·.occursIn path.text)

/-- The path of a file relative to the root of the directory, or the path itself if the file is
somewhere else. -/
def relative (dir : MediaDirectory) (file : Path) : Path := (file.stripRoot? dir.root).getD file

end MediaDirectory

end MediaShelf
