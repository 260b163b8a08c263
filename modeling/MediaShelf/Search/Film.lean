import MediaShelf.Search.Outcome

/-!
# Searching films

Title, year and part come from the naming pattern, or else from the bare file name.

## Main definitions

* `bareYear` — a year within a release name
* `detailsOfName?` — what a release name tells
* `filmDetails?` — what a file tells
* `searchFilm` — asks a resolver for a film
-/

namespace MediaShelf.Search

open Pattern (Token FilmDetails)
open Regex (Node)

/-- A full stop, a blank or an underscore. -/
def nameBreak : Node Token := .one fun c => Text.isBlank c || c == '.' || c == '_'

/-- A year with more text behind it, as in `Heat.1995.DVDRip`. -/
def bareYear : Node Token := .seqs [nameBreak, .group .year Pattern.centuryYear, nameBreak]

/-- Cuts a title at its first bare year, since release information stands behind it. -/
def cutAtYear (title : List Char) : List Char × Option (List Char) :=
  match bareYear.find? title with
  | none => (title, none)
  | some found => (found.before, found.group? .year)

/-- What a release name tells: decorations are taken off first, and a bare year counts if there
was none in brackets. -/
def detailsOfName? (stripTokens : List Regex) (name : List Char) : Option FilmDetails :=
  let bare := Pattern.stripDecorations name
  let (title, year) := match bare.year with
    | some year => (bare.title, some year)
    | none => cutAtYear bare.title
  let term := cleanTerm stripTokens title
  if term.isEmpty then none
  else some ⟨String.ofList term, year.map String.ofList, bare.part⟩

/-- What a path that follows the pattern tells; its title is cleaned like a release name. -/
def detailsOfPattern? (dir : MediaDirectory) (file : Path) : Option FilmDetails := do
  let details ← dir.pattern.matchFilm (patternPath (dir.relative file))
  let refined ← detailsOfName? dir.stripTokens details.term.toList
  pure ⟨refined.term, details.year.or refined.year, details.part.or refined.part⟩

/-- What a film file tells, by the pattern or by its bare name. -/
def filmDetails? (dir : MediaDirectory) (file : Path) : Option FilmDetails :=
  (detailsOfPattern? dir file).or (file.stem?.bind (detailsOfName? dir.stripTokens))

/-- Asks the resolver for the film that a file holds. -/
def searchFilm {m : Type → Type} [Monad m] (dir : MediaDirectory) (file : Path)
    (resolve : FilmDetails → m (Except SourceError (Option SearchResult))) :
    m (Except SourceError (SearchOutcome FilmDetails)) :=
  ask ((filmDetails? dir file).map fun details => (details, details)) resolve

end MediaShelf.Search
