import MediaShelf.Path.Basic
import MediaShelf.Record.Basic
import MediaShelf.Source.Error
import MediaShelf.Text.Numeral

/-!
# Outcomes for files

## Main definitions

* `Identity` — what a file holds
* `Placement` — what a file holds and where it belongs
* `SkipReason` — why a file is left alone
* `FileOutcome` — what became of a file
* `Event` — what is told while files are identified
-/

namespace MediaShelf

/-- What a file holds. -/
inductive Identity where
  /-- An episode, which has all the numbers that the file name has. -/
  | episode (series : Show) (episode : Episode)
  | film (film : Film)
  deriving DecidableEq, Repr

/-- What a file holds and where it belongs. -/
structure Placement where
  identity : Identity
  /-- The number of the part, for a film in several files. -/
  part : Option UInt32 := none
  destination : Path
  deriving DecidableEq, Repr

/-- Why a file is left alone. -/
inductive SkipReason where
  | noShow
  | noNumbers
  | showMissing (result : SearchResult)
  | episodeMissing (series : Show) (season number : UInt32)
  /-- The name was read, but gives no number of an episode. -/
  | noEpisode
  | noFilm
  | noTitle
  | filmMissing (result : SearchResult)
  | lookupFailed (cause : SourceError)
  deriving DecidableEq, Repr

/-- A number in decimal. -/
def showNumber (n : UInt32) : String := String.ofList (Text.decimal n.toNat)

/-- The wording of a reason. -/
def SkipReason.message : SkipReason → String
  | noShow => "no matching show found"
  | noNumbers => "no season and episode in file name"
  | showMissing result => "show " ++ result.id ++ " not available from " ++ result.sourceId
  | episodeMissing series season number =>
    series.name ++ " has no episode " ++ showNumber number ++ " in season " ++ showNumber season
  | noEpisode => "no episode numbers in file name"
  | noFilm => "no matching film found"
  | noTitle => "no title in file name"
  | filmMissing result => "film " ++ result.id ++ " not available from " ++ result.sourceId
  | lookupFailed cause => cause.message

/-- What became of a file. -/
structure FileOutcome where
  path : Path
  result : Except SkipReason Placement

namespace FileOutcome

/-- Whether the file was identified. -/
def isResolved (outcome : FileOutcome) : Bool := outcome.result.isOk

end FileOutcome

/-- What is told while files are identified. -/
inductive Event where
  | started (root : Path) (mode : Mode)
  | scanning
  | found (count : Nat)
  | processing (index total : Nat) (path : Path)
  | identified (path destination : Path)
  | skipped (path : Path) (reason : SkipReason)
  | complete (resolved skipped : Nat)
  deriving DecidableEq, Repr

/-- The event that an outcome is told by. -/
def FileOutcome.event (outcome : FileOutcome) : Event :=
  match outcome.result with
  | .ok placement => .identified outcome.path placement.destination
  | .error reason => .skipped outcome.path reason

end MediaShelf
