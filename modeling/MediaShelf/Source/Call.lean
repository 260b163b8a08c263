import MediaShelf.Source.Basic

/-!
# Calls of sources

## Main definitions

* `Source.Call`, `Source.Answer` — what a source may be asked, and what comes back
* `Source.around` — a source with something done around each call
* `Source.Answers`, `Source.ofAnswers` — a source that gives the same answer to the same call
-/

namespace MediaShelf.Source

/-- What a source may be asked. -/
inductive Call where
  | getShow (id : String)
  | getSeason (id : String) (season : UInt32)
  | getFilm (id : String)
  | searchMedia (query : Query)
  deriving DecidableEq, Repr

/-- What comes back from a call of a source. -/
inductive Answer where
  | show (answer : Except SourceError (Option Show))
  | season (answer : Except SourceError (Option Season))
  | film (answer : Except SourceError (Option Film))
  | search (answer : Except SourceError (Option SearchResult))

variable {m : Type → Type}

/-- The source with each call put into the hands of `wrap`, which may or may not make it. -/
def around (wrap : {α : Type} → Call → m (Except SourceError α) → m (Except SourceError α))
    (source : Source m) : Source m where
  sourceId := source.sourceId
  getShow id := wrap (.getShow id) (source.getShow id)
  getSeason id season := wrap (.getSeason id season) (source.getSeason id season)
  getFilm id := wrap (.getFilm id) (source.getFilm id)
  searchMedia query := wrap (.searchMedia query) (source.searchMedia query)

/-- A catalog as a table of answers. -/
structure Answers where
  getShow : String → Except SourceError (Option Show)
  getSeason : String → UInt32 → Except SourceError (Option Season)
  getFilm : String → Except SourceError (Option Film)
  searchMedia : Query → Except SourceError (Option SearchResult)

/-- A source that gives the same answer whenever it is asked the same. -/
def ofAnswers [Monad m] (id : String) (answers : Answers) : Source m where
  sourceId := id
  getShow key := pure (answers.getShow key)
  getSeason key season := pure (answers.getSeason key season)
  getFilm key := pure (answers.getFilm key)
  searchMedia query := pure (answers.searchMedia query)

end MediaShelf.Source
