import MediaShelf.Pattern.Segment
import MediaShelf.Text.Numeral

/-!
# Reading naming patterns

A pattern is read from left to right and the first offence decides what is wrong with it. Places
are counted in bytes.

## Main definitions

* `SyntaxError` — what can be wrong with a pattern, with `SyntaxError.message`
* `Draft` — the segments read so far, inside the groups that are still open
* `compileSegments` — the segments of a written pattern
-/

namespace MediaShelf.Pattern

/-- What can be wrong with a written pattern. Places are byte offsets. -/
inductive SyntaxError where
  /-- There is nothing to read. -/
  | empty
  /-- A closing brace without an open group. -/
  | unmatchedClose (place : Nat)
  /-- The text ends inside the group opened at `place`. -/
  | unclosedOptional (place : Nat)
  /-- A percent sign in front of a character that names no token. -/
  | unknownToken (sigil : Char) (place : Nat)
  /-- A percent sign at the end of the text. -/
  | danglingPercent (place : Nat)
  /-- Groups are nested too deeply for matching. -/
  | tooDeep
  deriving DecidableEq, Repr

/-- The wording of an error. -/
def SyntaxError.message : SyntaxError → String
  | empty => "Pattern is empty"
  | unmatchedClose place => "Unmatched '\x7d' at position " ++ String.ofList (Text.decimal place)
  | unclosedOptional place => "Unclosed '\x7b' at position " ++ String.ofList (Text.decimal place)
  | unknownToken sigil place =>
    "Unknown token '%" ++ String.singleton sigil ++ "' at position " ++
      String.ofList (Text.decimal place)
  | danglingPercent place =>
    "Dangling '%' at position " ++ String.ofList (Text.decimal place)
  | tooDeep => "Failed to build matcher for pattern"

/-- What has been read of a pattern. -/
structure Draft where
  /-- The open groups, innermost first: where each was opened and what stands before it. -/
  opened : List (Nat × List Segment)
  /-- The finished segments of the innermost group. -/
  done : List Segment
  /-- The literal text being read. -/
  literal : List Char

namespace Draft

/-- Nothing read yet. -/
def start : Draft := ⟨[], [], []⟩

/-- The segments of the innermost group, its pending literal included. -/
def segments (draft : Draft) : List Segment :=
  if draft.literal.isEmpty then draft.done else draft.done ++ [.literal draft.literal]

/-- Adds a character of literal text. -/
def addChar (draft : Draft) (c : Char) : Draft :=
  { draft with literal := draft.literal ++ [c] }

/-- Adds a token. -/
def addToken (draft : Draft) (kind : Token) : Draft :=
  ⟨draft.opened, draft.segments ++ [.token kind], []⟩

/-- Opens a group. -/
def openGroup (draft : Draft) (place : Nat) : Draft :=
  ⟨(place, draft.segments) :: draft.opened, [], []⟩

/-- Closes the innermost group, if one is open. -/
def closeGroup? (draft : Draft) : Option Draft :=
  match draft.opened with
  | [] => none
  | (_, before) :: outer => some ⟨outer, before ++ [.optional draft.segments], []⟩

/-- The segments of a draft whose groups are all closed. -/
def finish (draft : Draft) : Except SyntaxError (List Segment) :=
  match draft.opened with
  | (place, _) :: _ => .error (.unclosedOptional place)
  | [] => .ok draft.segments

end Draft

/-- Reads the rest of a pattern, which starts at the byte offset `place`. -/
def compileFrom (place : Nat) (draft : Draft) : List Char → Except SyntaxError (List Segment)
  | [] => draft.finish
  | ['%'] => .error (.danglingPercent place)
  | '%' :: sigil :: rest =>
    let next := place + 1 + sigil.utf8Size
    if sigil = '%' then compileFrom next (draft.addChar '%') rest
    else match Token.ofSigil? sigil with
      | none => .error (.unknownToken sigil place)
      | some kind => compileFrom next (draft.addToken kind) rest
  | '{' :: rest => compileFrom (place + 1) (draft.openGroup place) rest
  | '}' :: rest =>
    match draft.closeGroup? with
    | none => .error (.unmatchedClose place)
    | some draft => compileFrom (place + 1) draft rest
  | c :: rest => compileFrom (place + c.utf8Size) (draft.addChar c) rest

/-- The segments of a written pattern. -/
def compileSegments (pattern : List Char) : Except SyntaxError (List Segment) :=
  if pattern.isEmpty then .error .empty else compileFrom 0 .start pattern

end MediaShelf.Pattern
