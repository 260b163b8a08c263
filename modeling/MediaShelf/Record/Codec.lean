import MediaShelf.Json.Decode
import MediaShelf.Record.Basic

/-!
# Records as JSON

The written form of records: objects with the fields in a fixed order.

## Main definitions

* `toJson` and `ofJson?` for each kind of record
* `Codec` — a kind of record with its written form
-/

namespace MediaShelf

open Json

/-- The spelling of a mode. -/
def Mode.spelling : Mode → String
  | .tvShow => "tv_show"
  | .film => "film"

/-- The mode with the spelling. -/
def Mode.ofSpelling? (text : String) : Option Mode :=
  if text = "tv_show" then some .tvShow else if text = "film" then some .film else none

/-- The written form of a mode. -/
def Mode.toJson (mode : Mode) : Json := .string mode.spelling

/-- Reads a mode. As a member of an object it has null for content. -/
def Mode.ofJson? (json : Json) : Option Mode := (variant? isNull json).bind ofSpelling?

/-- The written form of a show. -/
def Show.toJson (record : Show) : Json := .object [
  ("source_id", .string record.sourceId), ("show_id", .string record.showId),
  ("name", .string record.name), ("url", ofString? record.url),
  ("summary", .string record.summary), ("premiered", ofString? record.premiered),
  ("genres", .array (record.genres.map .string))]

/-- Reads a show. -/
def Show.ofJson? (json : Json) : Option Show := do
  let fields ← fields?
    ["source_id", "show_id", "name", "url", "summary", "premiered", "genres"] json
  match fields with
  | [sourceId, showId, name, url, summary, premiered, genres] =>
    pure {
      sourceId := ← required? toString? sourceId
      showId := ← required? toString? showId
      name := ← required? toString? name
      url := ← optional? toString? url
      summary := ← required? toString? summary
      premiered := ← optional? toString? premiered
      genres := ← required? (toList? toString?) genres }
  | _ => none

/-- The written form of an episode. -/
def Episode.toJson (episode : Episode) : Json := .object [
  ("source_id", .string episode.sourceId), ("show_id", .string episode.showId),
  ("season_number", ofNat episode.seasonNumber.toNat),
  ("episode_numbers", .array (episode.episodeNumbers.map fun n => ofNat n.toNat)),
  ("title", .string episode.title), ("summary", .string episode.summary),
  ("air_date", ofString? episode.airDate), ("url", ofString? episode.url),
  ("special", .bool episode.special)]

/-- Reads an episode. -/
def Episode.ofJson? (json : Json) : Option Episode := do
  let fields ← fields? ["source_id", "show_id", "season_number", "episode_numbers", "title",
    "summary", "air_date", "url", "special"] json
  match fields with
  | [sourceId, showId, seasonNumber, episodeNumbers, title, summary, airDate, url, special] =>
    pure {
      sourceId := ← required? toString? sourceId
      showId := ← required? toString? showId
      seasonNumber := ← required? toWord? seasonNumber
      episodeNumbers := ← required? (toList? toWord?) episodeNumbers
      title := ← required? toString? title
      summary := ← required? toString? summary
      airDate := ← optional? toString? airDate
      url := ← optional? toString? url
      special := ← required? toBool? special }
  | _ => none

/-- The written form of a season. -/
def Season.toJson (season : Season) : Json := .object [
  ("source_id", .string season.sourceId), ("show_id", .string season.showId),
  ("season_number", ofNat season.seasonNumber.toNat), ("url", ofString? season.url),
  ("episodes", .array (season.episodes.map (·.toJson))),
  ("specials", .array (season.specials.map (·.toJson)))]

/-- Reads a season. -/
def Season.ofJson? (json : Json) : Option Season := do
  let fields ← fields?
    ["source_id", "show_id", "season_number", "url", "episodes", "specials"] json
  match fields with
  | [sourceId, showId, seasonNumber, url, episodes, specials] =>
    pure {
      sourceId := ← required? toString? sourceId
      showId := ← required? toString? showId
      seasonNumber := ← required? toWord? seasonNumber
      url := ← optional? toString? url
      episodes := ← required? (toList? Episode.ofJson?) episodes
      specials := ← required? (toList? Episode.ofJson?) specials }
  | _ => none

/-- The written form of a film. -/
def Film.toJson (film : Film) : Json := .object [
  ("source_id", .string film.sourceId), ("film_id", .string film.filmId),
  ("title", .string film.title), ("year", ofWord? film.year),
  ("summary", .string film.summary), ("url", ofString? film.url)]

/-- Reads a film. -/
def Film.ofJson? (json : Json) : Option Film := do
  let fields ← fields? ["source_id", "film_id", "title", "year", "summary", "url"] json
  match fields with
  | [sourceId, filmId, title, year, summary, url] =>
    pure {
      sourceId := ← required? toString? sourceId
      filmId := ← required? toString? filmId
      title := ← required? toString? title
      year := ← optional? toWord? year
      summary := ← required? toString? summary
      url := ← optional? toString? url }
  | _ => none

/-- The written form of a query. -/
def Query.toJson (query : Query) : Json := .object [
  ("term", .string query.term), ("year", ofString? query.year), ("mode", query.mode.toJson),
  ("part", ofWord? query.part)]

/-- Reads a query. -/
def Query.ofJson? (json : Json) : Option Query := do
  let fields ← fields? ["term", "year", "mode", "part"] json
  match fields with
  | [term, year, mode, part] =>
    pure {
      term := ← required? toString? term
      year := ← optional? toString? year
      mode := ← required? Mode.ofJson? mode
      part := ← optional? toWord? part }
  | _ => none

/-- The written form of a search result. -/
def SearchResult.toJson (result : SearchResult) : Json := .object [
  ("id", .string result.id), ("source_id", .string result.sourceId),
  ("url", ofString? result.url), ("part", ofWord? result.part), ("mode", result.mode.toJson)]

/-- Reads a search result. -/
def SearchResult.ofJson? (json : Json) : Option SearchResult := do
  let fields ← fields? ["id", "source_id", "url", "part", "mode"] json
  match fields with
  | [id, sourceId, url, part, mode] =>
    pure {
      id := ← required? toString? id
      sourceId := ← required? toString? sourceId
      url := ← optional? toString? url
      part := ← optional? toWord? part
      mode := ← required? Mode.ofJson? mode }
  | _ => none

/-- A kind of record with its written form. -/
structure Codec (α : Type) where
  toJson : α → Json
  ofJson? : Json → Option α

/-- The written form of each kind of record. -/
def Show.codec : Codec Show := ⟨Show.toJson, Show.ofJson?⟩

@[inherit_doc Show.codec]
def Season.codec : Codec Season := ⟨Season.toJson, Season.ofJson?⟩

@[inherit_doc Show.codec]
def Episode.codec : Codec Episode := ⟨Episode.toJson, Episode.ofJson?⟩

@[inherit_doc Show.codec]
def Film.codec : Codec Film := ⟨Film.toJson, Film.ofJson?⟩

@[inherit_doc Show.codec]
def SearchResult.codec : Codec SearchResult := ⟨SearchResult.toJson, SearchResult.ofJson?⟩

end MediaShelf
