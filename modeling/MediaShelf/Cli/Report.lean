import MediaShelf.Organize.Outcome
import MediaShelf.Pattern.Basic
import MediaShelf.Rename.Operation

/-!
# What the program says

## Main definitions

* `reportEvent` — a step of organizing a directory
* `reportPlan` — the operations that are planned
* `reportEpisode`, `reportFilm` — what a name was read as
-/

namespace MediaShelf.Cli

open Pattern (Heuristic MatchedBy ParsedEpisode FilmDetails)

/-- A number in decimal. -/
def showNat (n : Nat) : String := String.ofList (Text.decimal n)

/-- How a mode is called in sentences. -/
def modeTitle : Mode → String
  | .tvShow => "TV show"
  | .film => "film"

/-- The line for a step. -/
def reportEvent : Event → String
  | .started root mode =>
    "MediaSleuth reporting: Organizing " ++ modeTitle mode ++ " directory " ++
      root.toString ++ "..."
  | .scanning => "\nScanning for media files..."
  | .found 0 => "No media files found."
  | .found count => "Found " ++ showNat count ++ " media file(s)\n"
  | .processing index total path =>
    "[" ++ showNat (index + 1) ++ "/" ++ showNat total ++ "] Identifying: " ++ path.toString
  | .identified _ destination => "  -> " ++ destination.toString
  | .skipped _ reason => "  Skipped: " ++ reason.message
  | .complete resolved skipped =>
    "\nIdentification complete! Resolved " ++ showNat resolved ++ " file(s), skipped " ++
      showNat skipped ++ "."

/-- The lines for an operation; its source is shown as seen from the root. -/
def reportOperation (root : Path) (op : Rename.Operation) : List String :=
  let note := match op.suffix with
    | some suffix => " (duplicate #" ++ showNat suffix ++ ")"
    | none => ""
  ["  " ++ ((op.source.stripRoot? root).getD op.source).toString,
    "    -> " ++ op.destination.toString ++ note]

/-- The lines for a plan. -/
def reportPlan (root : Path) (ops : List Rename.Operation) : List String :=
  "\n=== Planned Operations ===\n" :: ops.flatMap (reportOperation root) ++ [""]

/-- How a heuristic is called. -/
def heuristicName : Heuristic → String
  | .seasonEpisode => "SeasonEpisode"
  | .seasonDotEpisode => "SeasonDotEpisode"
  | .crossSeparated => "CrossSeparated"
  | .fourDigits => "FourDigits"
  | .threeDigits => "ThreeDigits"
  | .leadingSingleDigit => "LeadingSingleDigit"
  | .leadingNumber => "LeadingNumber"
  | .phrase => "Phrase"

/-- How numbers were found. -/
def matchName : MatchedBy → String
  | .pattern => "Pattern"
  | .heuristic h => "Heuristic(" ++ heuristicName h ++ ")"

/-- The lines for season and episodes. -/
def reportEpisode : Option ParsedEpisode → List String
  | none => ["No season or episode found."]
  | some parsed => [
    "Season:     " ++ showNumber parsed.season,
    "Episodes:   " ++ String.intercalate ", " (parsed.episodes.map showNumber),
    "Matched by: " ++ matchName parsed.matchedBy,
    "Term:       " ++ parsed.term.getD "-"]

/-- The lines for a film. -/
def reportFilm : Option FilmDetails → List String
  | none => ["File name does not match the pattern."]
  | some details => [
    "Title: " ++ details.term,
    "Year:  " ++ details.year.getD "-",
    "Part:  " ++ (details.part.map showNumber).getD "-"]

end MediaShelf.Cli
