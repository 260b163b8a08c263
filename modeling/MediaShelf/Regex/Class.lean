import MediaShelf.Regex.Node
import MediaShelf.Text.Blank

/-!
# Flags, escapes and character classes of written expressions

The parts of the written form of expressions that stand for one character or one assertion.

## Main definitions

* `Flags` — the switches that change the meaning of what follows them
* `Atom` — what an escape stands for
* `readEscape?` — an escape after its backslash
* `readClass?` — a class after its opening bracket
-/

namespace MediaShelf.Regex

/-- The switches of an expression. -/
structure Flags where
  /-- Letters match in any case. -/
  ignoreCase : Bool := false
  /-- Line breaks count as ends of the text. -/
  multiLine : Bool := false
  /-- A full stop matches line breaks too. -/
  dotAll : Bool := false
  /-- Repetitions are lazy unless marked. -/
  swapGreed : Bool := false
  /-- Classes take in all scripts. -/
  unicode : Bool := true
  /-- Blanks and comments are passed over. -/
  verbose : Bool := false
  /-- A carriage return is part of a line break. -/
  crlf : Bool := false
  deriving DecidableEq, Repr

/-- A set of characters. -/
abbrev CharSet := Char → Bool

/-- What an escape or a single character stands for. -/
inductive Atom where
  | char (c : Char)
  | set (accepts : CharSet)
  | look (holds : Assertion)

/-- The set together with the characters that differ from its members in case alone. -/
def closeCase (accepts : CharSet) : CharSet := fun c =>
  accepts c || (Text.caseVariants c).any accepts

/-- Passes over blanks and comments where they do not count. -/
def skipSpace (flags : Flags) (text : List Char) : List Char :=
  if flags.verbose then skipVerbose false text else text
where
  /-- Passes over blanks, and from a number sign to the end of its line. -/
  skipVerbose (inComment : Bool) : List Char → List Char
    | [] => []
    | c :: rest =>
      if inComment then skipVerbose (c != '\n') rest
      else if Text.isBlank c then skipVerbose false rest
      else if c == '#' then skipVerbose true rest
      else c :: rest

/-- The set of a class letter: digits, blanks or word characters. -/
def perlSet? (flags : Flags) (c : Char) : Option CharSet :=
  let base : Option CharSet :=
    match c.toLower with
    | 'd' => some (if flags.unicode then Text.isDecimalDigit else Char.isDigit)
    | 's' =>
      some (if flags.unicode then Text.isBlank else fun c => c.toNat < 128 && Text.isBlank c)
    | 'w' =>
      some (if flags.unicode then Text.isWordChar else fun c => c.isAlphanum || c == '_')
    | _ => none
  base.map fun accepts => if c.isUpper then fun c => !accepts c else accepts

/-- The value of hexadecimal digits. -/
def hexNumber? (digits : List Char) : Option Nat :=
  digits.foldl (fun n c => do
    let n ← n
    if c.isDigit then some (n * 16 + (c.toNat - 48))
    else if 'a' ≤ c ∧ c ≤ 'f' then some (n * 16 + (c.toNat - 87))
    else if 'A' ≤ c ∧ c ≤ 'F' then some (n * 16 + (c.toNat - 55))
    else none) (some 0)

/-- The character with the code point. -/
def charOfCode? (n : Nat) : Option Char := if n.isValidChar then some (Char.ofNat n) else none

/-- A character given by its code point, after the letter of its escape. Without braces there are
exactly `size` digits. -/
def readCodePoint? (size : Nat) : List Char → Option (Char × List Char)
  | '{' :: rest =>
    let digits := rest.takeWhile (· != '}')
    match rest.dropWhile (· != '}') with
    | '}' :: rest =>
      if digits.isEmpty then none
      else ((hexNumber? digits).bind charOfCode?).map fun c => (c, rest)
    | _ => none
  | text =>
    if text.length < size then none
    else ((hexNumber? (text.take size)).bind charOfCode?).map fun c => (c, text.drop size)

/-- Whether a word ends or starts here, in the sense of the flags. -/
def wordEdge (flags : Flags) : Assertion := fun before after =>
  let isWord := fun c : Option Char =>
    c.any fun c => if flags.unicode then Text.isWordChar c else c.isAlphanum || c == '_'
  isWord before != isWord after

/-- Whether a word starts here. -/
def wordStart (flags : Flags) : Assertion := fun before after =>
  wordEdge flags before after && wordEdge flags none after

/-- Whether a word ends here. -/
def wordEnd (flags : Flags) : Assertion := fun before after =>
  wordEdge flags before after && wordEdge flags before none

/-- The assertions about words that stand in braces behind the letter B. -/
def namedEdges (flags : Flags) : List (List Char × Assertion) := [
  ("start".toList, wordStart flags), ("end".toList, wordEnd flags),
  ("start-half".toList, fun before _ => !wordEdge flags before none),
  ("end-half".toList, fun _ after => !wordEdge flags none after)]

/-- A word edge after the letter B of its escape. -/
def readWordEdge? (flags : Flags) : List Char → Option (Atom × List Char)
  | '{' :: rest =>
    let isNameChar := fun c : Char => c.isAlpha || c == '-'
    let name := (rest.dropWhile Text.isBlank).takeWhile isNameChar
    let behind := ((rest.dropWhile Text.isBlank).dropWhile isNameChar).dropWhile Text.isBlank
    if name.isEmpty then some (.look (wordEdge flags), '{' :: rest)
    else match behind, (namedEdges flags).lookup name with
      | '}' :: rest, some holds => some (.look holds, rest)
      | _, _ => none
  | text => some (.look (wordEdge flags), text)

/-- An escape after its backslash. -/
def readEscape? (flags : Flags) : List Char → Option (Atom × List Char)
  | [] => none
  | 'x' :: rest => (readCodePoint? 2 rest).map fun (c, rest) => (.char c, rest)
  | 'u' :: rest => (readCodePoint? 4 rest).map fun (c, rest) => (.char c, rest)
  | 'U' :: rest => (readCodePoint? 8 rest).map fun (c, rest) => (.char c, rest)
  | 'a' :: rest => some (.char '\x07', rest)
  | 'f' :: rest => some (.char '\x0c', rest)
  | 't' :: rest => some (.char '\t', rest)
  | 'n' :: rest => some (.char '\n', rest)
  | 'r' :: rest => some (.char '\r', rest)
  | 'v' :: rest => some (.char '\x0b', rest)
  | 'A' :: rest => some (.look atStart, rest)
  | 'z' :: rest => some (.look atEnd, rest)
  | 'b' :: rest => readWordEdge? flags rest
  | 'B' :: rest => some (.look fun before after => !wordEdge flags before after, rest)
  | '<' :: rest => some (.look (wordStart flags), rest)
  | '>' :: rest => some (.look (wordEnd flags), rest)
  | c :: rest =>
    match perlSet? flags c with
    | some accepts => some (.set accepts, rest)
    | none =>
      if c.toNat < 128 && !c.isAlphanum then some (.char c, rest) else none

/-- The named classes of ASCII characters. -/
def asciiClass? (name : String) : Option CharSet :=
  match name with
  | "alnum" => some Char.isAlphanum
  | "alpha" => some Char.isAlpha
  | "ascii" => some fun c => c.toNat < 128
  | "blank" => some fun c => c == '\t' || c == ' '
  | "cntrl" => some fun c => c.toNat < 32 || c.toNat == 127
  | "digit" => some Char.isDigit
  | "graph" => some fun c => 33 ≤ c.toNat && c.toNat ≤ 126
  | "lower" => some Char.isLower
  | "print" => some fun c => 32 ≤ c.toNat && c.toNat ≤ 126
  | "punct" => some fun c => 33 ≤ c.toNat && c.toNat ≤ 126 && !c.isAlphanum
  | "space" => some fun c => c == ' ' || (9 ≤ c.toNat && c.toNat ≤ 13)
  | "upper" => some Char.isUpper
  | "word" => some fun c => c.isAlphanum || c == '_'
  | "xdigit" => some fun c => c.isDigit || ('a' ≤ c && c ≤ 'f') || ('A' ≤ c && c ≤ 'F')
  | _ => none

/-- A named class after its opening bracket, such as the rest of `[:alpha:]`. -/
def readAsciiClass? : List Char → Option (CharSet × List Char)
  | ':' :: rest =>
    let (isNegated, rest) := match rest with
      | '^' :: rest => (true, rest)
      | _ => (false, rest)
    let name := rest.takeWhile Char.isAlpha
    match rest.dropWhile Char.isAlpha with
    | ':' :: ']' :: rest =>
      (asciiClass? (String.ofList name)).map fun accepts =>
        (if isNegated then fun c => !accepts c else accepts, rest)
    | _ => none
  | _ => none

/-- One character or escape of a class. -/
def readClassAtom? (flags : Flags) : List Char → Option (Atom × List Char)
  | [] => none
  | '\\' :: rest => readEscape? flags rest
  | c :: rest => some (.char c, rest)

/-- The set of an atom that stands alone in a class; assertions cannot. -/
def Atom.set? : Atom → Option CharSet
  | char c => some (· == c)
  | set accepts => some accepts
  | look _ => none

/-- A character, an escape or a range of a class. A hyphen forms a range unless a closing bracket
or another hyphen follows it. -/
def readClassItem? (flags : Flags) (text : List Char) : Option (CharSet × List Char) := do
  let (atom, rest) ← readClassAtom? flags text
  match skipSpace flags rest with
  | '-' :: behind =>
    match skipSpace flags behind with
    -- the hyphen ends the class or starts a difference, so it is left for later
    | ']' :: _ | '-' :: _ => pure (← atom.set?, rest)
    | upper => do
      let (last, rest) ← readClassAtom? flags upper
      match atom, last with
      | .char low, .char high =>
        if low ≤ high then pure (fun c => low ≤ c && c ≤ high, rest) else none
      | _, _ => none
  | _ => pure (← atom.set?, rest)

/-- The operations between the sets of a class. -/
inductive SetOp where
  | union
  | intersection
  | difference
  | symmetricDifference
  deriving DecidableEq, Repr

/-- Both sets combined. -/
def SetOp.combine (op : SetOp) (a b : CharSet) : CharSet := fun c =>
  match op with
  | union => a c || b c
  | intersection => a c && b c
  | difference => a c && !b c
  | symmetricDifference => a c != b c

/-- A class being read. -/
structure ClassDraft where
  /-- What stands in front of the last operation. -/
  left : CharSet
  /-- The last operation. -/
  op : SetOp
  /-- The items behind it. -/
  items : CharSet

namespace ClassDraft

/-- A class without items. -/
def start : ClassDraft := ⟨fun _ => false, .union, fun _ => false⟩

/-- Adds an item. -/
def add (draft : ClassDraft) (accepts : CharSet) : ClassDraft :=
  { draft with items := SetOp.union.combine draft.items accepts }

/-- The set read so far, in the sense of the flags. -/
def close (draft : ClassDraft) (flags : Flags) : CharSet :=
  let fold := fun accepts => if flags.ignoreCase then closeCase accepts else accepts
  draft.op.combine (fold draft.left) (fold draft.items)

/-- Starts the right side of an operation. -/
def operate (draft : ClassDraft) (flags : Flags) (op : SetOp) : ClassDraft :=
  ⟨draft.close flags, op, fun _ => false⟩

end ClassDraft

/-- Hyphens at the start of a class stand for themselves. -/
def takeHyphens (flags : Flags) (draft : ClassDraft) (isFirst : Bool) :
    List Char → ClassDraft × List Char × Bool
  | '-' :: rest => takeHyphens flags (draft.add (· == '-')) false rest
  | text => (draft, skipSpace flags text, isFirst)

mutual

/-- A class after its opening bracket. The length of the text bounds the depth. -/
def readClass? (flags : Flags) : Nat → List Char → Option (CharSet × List Char)
  | 0, _ => none
  | fuel + 1, text =>
    let (isNegated, text) := match skipSpace flags text with
      | '^' :: rest => (true, skipSpace flags rest)
      | rest => (false, rest)
    let (draft, text, isFirst) := takeHyphens flags .start true text
    -- a closing bracket in the very first place stands for itself
    let (draft, text) := match isFirst, text with
      | true, ']' :: rest => (draft.add (· == ']'), rest)
      | _, _ => (draft, text)
    (readClassItems? flags fuel draft text).map fun (accepts, rest) =>
      (if isNegated then fun c => !accepts c else accepts, rest)

/-- The rest of a class up to its closing bracket. -/
def readClassItems? (flags : Flags) : Nat → ClassDraft → List Char → Option (CharSet × List Char)
  | 0, _, _ => none
  | fuel + 1, draft, text =>
    match skipSpace flags text with
    | [] => none
    | ']' :: rest => some (draft.close flags, rest)
    | '[' :: rest =>
      match readAsciiClass? rest with
      | some (accepts, rest) => readClassItems? flags fuel (draft.add accepts) rest
      | none =>
        (readClass? flags fuel rest).bind fun (accepts, rest) =>
          readClassItems? flags fuel (draft.add accepts) rest
    | '&' :: '&' :: rest => readClassItems? flags fuel (draft.operate flags .intersection) rest
    | '-' :: '-' :: rest => readClassItems? flags fuel (draft.operate flags .difference) rest
    | '~' :: '~' :: rest =>
      readClassItems? flags fuel (draft.operate flags .symmetricDifference) rest
    | text =>
      (readClassItem? flags text).bind fun (accepts, rest) =>
        readClassItems? flags fuel (draft.add accepts) rest

end

end MediaShelf.Regex
