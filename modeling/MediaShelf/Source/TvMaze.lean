import MediaShelf.Html.PlainText
import MediaShelf.Json.Decode
import MediaShelf.Json.Float
import MediaShelf.Json.Reader
import MediaShelf.Source.Basic
import MediaShelf.Web.Request

/-!
# The catalog TVMaze

A catalog of shows that is asked over the web. It knows no films.

## Main definitions

* `ShowEntry`, `EpisodeEntry`, `Hit` — what the catalog answers with
* `seasonOf?` — a season from the list of all episodes of a show
* `pickHit?` — the best hit of a search
* `source` — the catalog as a source, given a way to send requests
-/

namespace MediaShelf.TvMaze

/-- The id of the catalog. -/
def id : String := "tvmaze"

/-- The address of the catalog. -/
def address : String := "https://api.tvmaze.com"

/-- A show as the catalog describes it. -/
structure ShowEntry where
  id : Nat
  name : String
  url : Option String
  /-- The date of the first broadcast, year first. -/
  premiered : Option String
  /-- Text with tags. -/
  summary : Option String
  genres : List String
  deriving DecidableEq, Repr

/-- An episode or special as the catalog describes it. -/
structure EpisodeEntry where
  url : Option String
  season : UInt32
  /-- Specials mostly have none. -/
  number : Option UInt32
  name : Option String
  /-- The kind of the entry; kinds of specials have that word in them. -/
  kind : Option String
  airDate : Option String
  /-- Text with tags. -/
  summary : Option String
  deriving DecidableEq, Repr

/-- A show that a search found. -/
structure Hit where
  /-- How well the show fits. -/
  score : Float
  found : ShowEntry

/-! ## Reading answers -/

/-- Reads a show. -/
def ShowEntry.ofJson? (json : Json) : Option ShowEntry := do
  match ← Json.fields? ["id", "name", "url", "premiered", "summary", "genres"] json 1 with
  | [id, name, url, premiered, summary, genres] =>
    pure {
      id := (← Json.required? Json.toLongWord? id).toNat
      name := ← Json.required? Json.toString? name
      url := ← Json.optional? Json.toString? url
      premiered := ← Json.optional? Json.toString? premiered
      summary := ← Json.optional? Json.toString? summary
      genres := ← Json.toList? Json.toString? (genres.getD (.array [])) }
  | _ => none

/-- Reads an episode. -/
def EpisodeEntry.ofJson? (json : Json) : Option EpisodeEntry := do
  let fields ← Json.fields? ["url", "season", "number", "name", "type", "airdate", "summary"] json
  match fields with
  | [url, season, number, name, kind, airDate, summary] =>
    pure {
      url := ← Json.optional? Json.toString? url
      season := ← Json.required? Json.toWord? season
      number := ← Json.optional? Json.toWord? number
      name := ← Json.optional? Json.toString? name
      kind := ← Json.optional? Json.toString? kind
      airDate := ← Json.optional? Json.toString? airDate
      summary := ← Json.optional? Json.toString? summary }
  | _ => none

/-- Reads a hit. -/
def Hit.ofJson? (json : Json) : Option Hit := do
  match ← Json.fields? ["score", "show"] json with
  | [score, found] =>
    pure ⟨← Json.required? Json.toFloat? score, ← Json.required? ShowEntry.ofJson? found⟩
  | _ => none

/-! ## Records -/

/-- A summary as plain text. -/
def plainSummary (summary : Option String) : String := (summary.map Html.plainText).getD ""

/-- The record of a show. -/
def ShowEntry.toShow (entry : ShowEntry) : Show where
  sourceId := TvMaze.id
  showId := toString entry.id
  name := entry.name
  url := entry.url
  summary := plainSummary entry.summary
  premiered := entry.premiered
  genres := entry.genres

/-- Whether the entry is a special: it has no number, or its kind says so. -/
def EpisodeEntry.isSpecial (entry : EpisodeEntry) : Bool :=
  entry.number.isNone || entry.kind.any fun kind =>
    (Text.behind? "special".toList kind.toList).isSome

/-- The record of an episode of a show under a number. -/
def EpisodeEntry.toEpisode (entry : EpisodeEntry) (showId : String) (number : UInt32) :
    Episode where
  sourceId := TvMaze.id
  showId := showId
  seasonNumber := entry.season
  episodeNumbers := [number]
  title := entry.name.getD "Unknown"
  summary := plainSummary entry.summary
  airDate := entry.airDate.filter (! ·.isEmpty)
  url := entry.url
  special := entry.isSpecial

/-- The regular episodes among entries, in the order of their numbers. -/
def regularEpisodes (showId : String) (entries : List EpisodeEntry) : List Episode :=
  let episodes := (entries.filter (! ·.isSpecial)).filterMap fun entry =>
    entry.number.map fun number => (number, entry.toEpisode showId number)
  (episodes.mergeSort fun a b => a.1 ≤ b.1).map (·.2)

/-- The specials among entries, numbered in order from one on. -/
def specialEpisodes (showId : String) (entries : List EpisodeEntry) : List Episode :=
  (entries.filter (·.isSpecial)).mapIdx fun i entry => entry.toEpisode showId (i + 1).toUInt32

/-- The season of a show from the list of all its episodes, unless none belongs to it. -/
def seasonOf? (showId : String) (number : UInt32) (entries : List EpisodeEntry) : Option Season :=
  let entries := entries.filter (·.season == number)
  if entries.isEmpty then none
  else some {
    sourceId := TvMaze.id
    showId
    seasonNumber := number
    episodes := regularEpisodes showId entries
    specials := specialEpisodes showId entries }

/-! ## Searching -/

/-- The place of a number in double precision in the order of all of them, where minus zero comes
before zero. -/
def scoreRank (score : Float) : Int :=
  let bits := score.toBits.toNat
  if bits < 0x8000000000000000 then bits else 0x7FFFFFFFFFFFFFFF - (bits : Int)

/-- Hits by falling score; those with equal scores keep their order. -/
def byScore (hits : List Hit) : List Hit :=
  hits.mergeSort fun a b => scoreRank b.score ≤ scoreRank a.score

/-- Whether the show of a hit was first broadcast in a year. -/
def Hit.isFrom (hit : Hit) (year : String) : Bool :=
  hit.found.premiered.any fun date => year.toList.isPrefixOf date.toList

/-- The best hit: with a year the best of that year, otherwise or if there is none the best of
all. -/
def pickHit? (hits : List Hit) (year : Option String) : Option ShowEntry :=
  let sorted := byScore hits
  ((year.bind fun year => sorted.find? (·.isFrom year)).or sorted.head?).map (·.found)

/-! ## Requests -/

/-- A way to send a request to an address: gives the response, or what went wrong. -/
abbrev Fetch (m : Type → Type) := String → m (Except String Web.Response)

/-- What a response says. That there is nothing is no failure. -/
def readResponse {α : Type} (decode : Json → Option α) (response : Web.Response) :
    Except SourceError (Option α) :=
  if response.status == 404 then .ok none
  else if !response.isSuccess then
    .error (.request
      ("HTTP " ++ toString response.status ++ " " ++ Web.reasonPhrase response.status))
  else match (Json.read? response.content).bind decode with
    | some value => .ok (some value)
    | none => .error (.parse "error decoding response body")

variable {m : Type → Type} [Monad m]

/-- Asks the catalog and reads the answer. -/
def ask {α : Type} (fetch : Fetch m) (base : String) (decode : Json → Option α) (path : String)
    (query : List (String × String)) : m (Except SourceError (Option α)) := do
  let root := String.ofList (Text.trimEndBy (· == '/') base.toList)
  match ← fetch (root ++ Web.requestTarget path query) with
  | .error cause => pure (.error (.request cause))
  | .ok response => pure (readResponse decode response)

/-- The result of a search that led to a show. -/
def ShowEntry.toResult (entry : ShowEntry) (query : Query) : SearchResult where
  id := toString entry.id
  sourceId := TvMaze.id
  url := entry.url
  part := query.part
  mode := .tvShow

/-- The catalog at an address as a source. -/
def source (fetch : Fetch m) (base : String) : Source m where
  sourceId := TvMaze.id
  getShow id := do
    let answer ← ask fetch base ShowEntry.ofJson? ("/shows/" ++ id) []
    pure (answer.map (·.map ShowEntry.toShow))
  getSeason id season := do
    let answer ← ask fetch base (Json.toList? EpisodeEntry.ofJson?)
      ("/shows/" ++ id ++ "/episodes") [("specials", "1")]
    pure (answer.map (·.bind (seasonOf? id season)))
  getFilm _ := pure (.ok none)
  searchMedia query :=
    match query.mode with
    | .film => pure (.ok none)
    | .tvShow => do
      let answer ← ask fetch base (Json.toList? Hit.ofJson?) "/search/shows" [("q", query.term)]
      pure (answer.map fun hits =>
        (pickHit? (hits.getD []) query.year).map (·.toResult query))

end MediaShelf.TvMaze
