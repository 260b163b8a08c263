import MediaShelf.Organize.Outcome
import MediaShelf.Resolver
import MediaShelf.Search.Film
import MediaShelf.Search.Show

/-!
# Identifying files

The name of a file gives a query, the query an identity, and the metadata of that identity the
place where the file belongs. Whatever fails on the way is a reason to leave the file alone.

## Main definitions

* `identifyEpisode`, `identifyFilm` — what a file of either mode holds, and where it belongs
* `identify` — the outcome for a file
-/

namespace MediaShelf

variable {m : Type → Type} [Monad m]

/-- The answer to a look-up, with the reason to give when there is nothing. -/
def orSkip {α : Type} (reason : SkipReason) (lookup : m (Except SourceError (Option α))) :
    ExceptT SkipReason m α :=
  ExceptT.mk do
    match ← lookup with
    | .ok (some value) => pure (.ok value)
    | .ok none => pure (.error reason)
    | .error cause => pure (.error (.lookupFailed cause))

/-- What a search found, with the reasons to give when it found nothing. -/
def orSkipSearch {π : Type} (notFound unparsed : SkipReason)
    (search : m (Except SourceError (Search.SearchOutcome π))) :
    ExceptT SkipReason m (SearchResult × π) :=
  ExceptT.mk do
    match ← search with
    | .ok (.found result parsed) => pure (.ok (result, parsed))
    | .ok (.notFound _) => pure (.error notFound)
    | .ok .unparsed => pure (.error unparsed)
    | .error cause => pure (.error (.lookupFailed cause))

/-- The records of episodes, in order. -/
def findEpisodes (resolver : Resolver m) (series : Show) (season : SeasonKey) (refresh : Bool) :
    List UInt32 → ExceptT SkipReason m (List Episode)
  | [] => pure []
  | number :: numbers => do
    let episode ← orSkip (.episodeMissing series season.season number)
      (resolver.getEpisode ⟨season, false, number⟩ refresh)
    pure (episode :: (← findEpisodes resolver series season refresh numbers))

/-- The episode with further numbers, as far as it does not have them. -/
def Episode.widen (episode : Episode) (numbers : List UInt32) : Episode :=
  numbers.foldl
    (fun e n => if e.covers n then e else { e with episodeNumbers := e.episodeNumbers ++ [n] })
    episode

/-- The titles of distinct records, in the order in which they come up. -/
def joinTitles (episodes : List Episode) : String :=
  String.intercalate " & " (episodes.eraseDups.map (·.title))

/-- The extension of a file as text. -/
def extensionOf (path : Path) : Option String := path.suffix?.map String.ofList

/-- The metadata of a file with episodes of a show. -/
def episodeContext (path : Path) (series : Show) (parsed : Pattern.ParsedEpisode)
    (records : List Episode) : Pattern.Context where
  showName := some series.name
  season := some parsed.season
  episodes := parsed.episodes
  title := some (joinTitles records)
  extension := extensionOf path
  year := series.year
  id := some series.showId

/-- What a file of a directory of episodes holds, and where it belongs. A file with several numbers
needs a record for each of them; it is identified by the first, widened to all its numbers. -/
def identifyEpisode (resolver : Resolver m) (dir : MediaDirectory) (refresh : Bool) (path : Path) :
    ExceptT SkipReason m Placement := do
  let (result, parsed) ← orSkipSearch .noShow .noNumbers <|
    Search.searchShow dir path fun query =>
      resolver.searchMedia { term := query.term, year := query.year, mode := .tvShow } dir.sources
        refresh
  let series ← orSkip (.showMissing result) (resolver.getShow ⟨result.sourceId, result.id⟩ refresh)
  let season : SeasonKey := ⟨result.sourceId, series.showId, parsed.season⟩
  let records ← findEpisodes resolver series season refresh parsed.episodes
  match records with
  | [] => throw .noEpisode
  | first :: _ =>
    pure {
      identity := .episode series (first.widen parsed.episodes)
      destination := dir.pattern.destination dir.root (episodeContext path series parsed records) }

/-- The metadata of a file with a film. -/
def filmContext (path : Path) (film : Film) (part : Option UInt32) : Pattern.Context where
  title := some film.title
  extension := extensionOf path
  year := film.year
  part := part
  id := some film.filmId

/-- What a file of a directory of films holds, and where it belongs. -/
def identifyFilm (resolver : Resolver m) (dir : MediaDirectory) (refresh : Bool) (path : Path) :
    ExceptT SkipReason m Placement := do
  let (result, details) ← orSkipSearch .noFilm .noTitle <|
    Search.searchFilm dir path fun details =>
      resolver.searchMedia
        { term := details.term, year := details.year, mode := .film, part := details.part }
        dir.sources refresh
  let film ← orSkip (.filmMissing result) (resolver.getFilm ⟨result.sourceId, result.id⟩ refresh)
  let part := details.part.or result.part
  pure {
    identity := .film film
    part
    destination := dir.pattern.destination dir.root (filmContext path film part) }

/-- The outcome for a file. -/
def identify (resolver : Resolver m) (dir : MediaDirectory) (refresh : Bool) (path : Path) :
    m FileOutcome := do
  let placement := match dir.mode with
    | .tvShow => identifyEpisode resolver dir refresh path
    | .film => identifyFilm resolver dir refresh path
  pure ⟨path, ← placement.run⟩

end MediaShelf
