import MediaShelf.Search.Outcome

/-!
# Searching the show of an episode file

The name of the show comes from the file name, or else from the nearest directory above the file
that is not the folder of a season.

## Main definitions

* `seasonFolder` — what folders of seasons are called
* `splitYear` — a show name without the year behind it
* `ShowQuery` and `showQuery?` — the query that a file gives
* `searchShow` — asks a resolver for the show of a file
-/

namespace MediaShelf.Search

open Pattern (Token ParsedEpisode)
open Regex (Node)

/-- The name of the folder of a season. -/
def seasonFolder : Node Token :=
  .seqs [.alts [.text "season".toList, .text "series".toList, .text "staffel".toList],
    .many false fun c => Text.isBlank c || ['.', '_', '-'].contains c,
    .plus Text.isDecimalDigit]

/-- Whether a directory is the folder of a season. -/
def isSeasonFolder (name : List Char) : Bool := (seasonFolder.matchWhole? name).isSome

/-- A name with a year behind it. -/
def trailingYear : Node Token :=
  .seqs [.group .title (.plus (· != '\n') true), .plus Text.isBlank,
    .group .year Pattern.centuryYear]

/-- The name and the year of a text that ends with a year. -/
def splitTrailingYear (term : List Char) : List Char × Option (List Char) :=
  match trailingYear.matchWhole? term with
  | none => (term, none)
  | some trace =>
    match Regex.Trace.group? .title trace with
    | none => (term, none)
    | some name => (name, Regex.Trace.group? .year trace)

/-- Takes a year off a show name, whether it stands in brackets or at the end. A name that is
nothing but a year is kept. -/
def splitYear (term : List Char) : List Char × Option (List Char) :=
  let bare := Pattern.stripDecorations term
  let name := Text.collapseBlanks bare.title
  if bare.year.isSome && !name.isEmpty then (name, bare.year) else splitTrailingYear term

/-- What is asked about an episode file. -/
structure ShowQuery where
  /-- The normalized name of the show. -/
  term : String
  /-- The year beside the name. -/
  year : Option String
  season : UInt32
  episodes : List UInt32
  deriving DecidableEq, Repr

/-- The name of the show in the file name. -/
def termOfFile? (dir : MediaDirectory) (parsed : ParsedEpisode) : Option (List Char) :=
  (parsed.term.map fun term => cleanTerm dir.stripTokens term.toList).filter (! ·.isEmpty)

/-- The name of the show in the directories above the file, nearest first. -/
def termOfFolders? (dir : MediaDirectory) (relative : Path) : Option (List Char) := do
  let folder ← relative.parent?
  ((folder.names.reverse.filter (! isSeasonFolder ·)).map (cleanTerm dir.stripTokens)).find?
    (! ·.isEmpty)

/-- The query for a file with the numbers that its name gives. -/
def showQuery? (dir : MediaDirectory) (file : Path) : Option (ShowQuery × ParsedEpisode) := do
  let relative := dir.relative file
  let parsed ← dir.pattern.parseEpisode (patternPath relative)
  let term ← (termOfFile? dir parsed).or (termOfFolders? dir relative)
  let (name, year) := splitYear term
  pure (⟨String.ofList name, year.map String.ofList, parsed.season, parsed.episodes⟩, parsed)

/-- Asks the resolver for the show that an episode file belongs to. -/
def searchShow {m : Type → Type} [Monad m] (dir : MediaDirectory) (file : Path)
    (resolve : ShowQuery → m (Except SourceError (Option SearchResult))) :
    m (Except SourceError (SearchOutcome ParsedEpisode)) :=
  ask (showQuery? dir file) resolve

end MediaShelf.Search
