import MediaShelf.Config.MediaDirectory
import MediaShelf.Source.Error
import MediaShelf.Text.Separators

/-!
# Outcomes of searches

A file name gives a query, a resolver answers it. A file that gives no query is an ordinary
outcome and no failure.

## Main definitions

* `SearchOutcome` — what became of a search
* `ask` — hands a query to a resolver and reports what happened
* `cleanTerm` — a search term without junk
* `patternPath` — a path as patterns see it
-/

namespace MediaShelf.Search

/-- What became of the search for a file; `π` is what its name tells. -/
inductive SearchOutcome (π : Type) where
  /-- The resolver knows what the file is. -/
  | found (result : SearchResult) (parsed : π)
  /-- No source knows it. -/
  | notFound (parsed : π)
  /-- The name gives no query. -/
  | unparsed
  deriving DecidableEq, Repr

namespace SearchOutcome

variable {π : Type}

/-- Whether the resolver knows what the file is. -/
def isFound : SearchOutcome π → Bool
  | found _ _ => true
  | _ => false

/-- The outcome for an answer of the resolver. -/
def ofAnswer (parsed : π) : Option SearchResult → SearchOutcome π
  | some result => found result parsed
  | none => notFound parsed

end SearchOutcome

/-- Asks the resolver once if there is a query, and never otherwise. -/
def ask {m : Type → Type} [Monad m] {ρ π : Type} (query? : Option (ρ × π))
    (resolve : ρ → m (Except SourceError (Option SearchResult))) :
    m (Except SourceError (SearchOutcome π)) :=
  match query? with
  | none => pure (.ok .unparsed)
  | some (query, parsed) => do
    pure ((← resolve query).map (SearchOutcome.ofAnswer parsed))

/-- A raw term without junk, with separators cleaned up, normalized. -/
def cleanTerm (stripTokens : List Regex) (raw : List Char) : List Char :=
  Text.normalizeChars (Text.cleanSeparators
    (stripTokens.foldl (fun term token => token.replaceAll [' '] term) raw))

/-- The names of a path with slashes between them. -/
def patternPath (path : Path) : String := String.ofList (Text.joinWith ['/'] path.names)

end MediaShelf.Search
