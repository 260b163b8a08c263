/-!
# Failures of sources

## Main definitions

* `SourceError` — why a source could not answer, with `SourceError.message`
-/

namespace MediaShelf

/-- Why a source could not answer. -/
inductive SourceError where
  /-- The request itself failed. -/
  | request (cause : String)
  /-- The response was not of the expected form. -/
  | parse (cause : String)
  /-- The response makes no sense. -/
  | invalid (cause : String)
  deriving DecidableEq, Repr

/-- The wording of an error. -/
def SourceError.message : SourceError → String
  | request cause => "Request failed: " ++ cause
  | parse cause => "Failed to parse API response: " ++ cause
  | invalid cause => "API returned invalid data: " ++ cause

end MediaShelf
