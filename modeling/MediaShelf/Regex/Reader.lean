import MediaShelf.Regex.Class
import MediaShelf.Regex.Find
import MediaShelf.Text.Numeral

/-!
# Written expressions

Expressions as users write them: classes, groups, alternatives, repetitions, assertions and
switches. Groups only hold parts together here, since nobody asks for their texts.

## Main definitions

* `Branches` — the items of a group read so far
* `readFlags?`, `readGroupHead?` — what stands behind the opening parenthesis of a group
* `readRange?` — the bounds of a counted repetition
* `readGroup?` — the content of a group
* `Regex` and `Regex.compile?` — an expression with its written form
-/

namespace MediaShelf.Regex

/-- An expression without groups to ask for. -/
abbrev Plain := Node Empty

/-- The items of a group read so far, last first. -/
structure Branches where
  /-- The finished alternatives. -/
  finished : List Plain
  /-- The items of the current alternative; those that are switches cannot be repeated. -/
  items : List (Bool × Plain)

namespace Branches

/-- A group without items. -/
def start : Branches := ⟨[], []⟩

/-- Adds an item that can be repeated. -/
def add (branches : Branches) (node : Plain) : Branches :=
  { branches with items := (true, node) :: branches.items }

/-- Notes that switches were set. -/
def addSwitch (branches : Branches) : Branches :=
  { branches with items := (false, .empty) :: branches.items }

/-- The current alternative. -/
def current (branches : Branches) : Plain := .seqs (branches.items.reverse.map (·.2))

/-- Starts another alternative. -/
def next (branches : Branches) : Branches := ⟨branches.current :: branches.finished, []⟩

/-- The whole group. -/
def close (branches : Branches) : Plain := .alts (branches.finished.reverse ++ [branches.current])

/-- Repeats the last item, if there is one that can be repeated. -/
def repeatLast? (branches : Branches) (repeated : Plain → Option Plain) : Option Branches :=
  match branches.items with
  | (true, node) :: items => (repeated node).map fun node =>
    ⟨branches.finished, (true, node) :: items⟩
  | _ => none

end Branches

/-- How many nodes the expression has. -/
def Node.size {α : Type} : Node α → Nat
  | empty | one _ | many _ _ | look _ => 1
  | seq a b | alt a b => a.size + b.size + 1
  | star _ body | group _ body => body.size + 1

/-- Expressions beyond this size are refused. -/
def sizeLimit : Nat := 400000

/-- Groups nested deeper than this are refused. -/
def depthLimit : Nat := 250

/-- Any number of rounds of the node. -/
def Node.rounds {α : Type} (isLazy : Bool) : Node α → Node α
  | one accepts => many isLazy accepts
  | node => star isLazy node

/-- From `low` to `high` rounds of the node, without upper bound if there is no `high`. Too many
rounds are refused. -/
def Node.counted? {α : Type} (isLazy : Bool) (low : Nat) (high : Option Nat) (node : Node α) :
    Option (Node α) :=
  if (high.getD low + 1) * node.size > sizeLimit then none
  else match high with
    | none => if low = 0 then some (node.rounds isLazy)
      else some (seq (times low node) (node.rounds isLazy))
    | some high =>
      if low = high then some (times low node)
      else some (seq (times low node) (upTo isLazy (high - low) node))

/-- A question mark right behind a repetition makes it lazy. -/
def readLazy (flags : Flags) (text : List Char) : Bool × List Char :=
  match text with
  | '?' :: rest => (!flags.swapGreed, rest)
  | rest => (flags.swapGreed, rest)

/-- A decimal number of at most 32 bits with blanks around it. -/
def readCount? (text : List Char) : Option (Nat × List Char) :=
  let text := text.dropWhile Text.isBlank
  (Text.readDigits? (text.takeWhile Char.isDigit)).bind fun n =>
    if n < 4294967296 then some (n, (text.dropWhile Char.isDigit).dropWhile Text.isBlank) else none

/-- The bounds of a repetition after the opening brace. -/
def readRange? (flags : Flags) (text : List Char) : Option ((Nat × Option Nat) × List Char) := do
  let (low, rest) ← readCount? (skipSpace flags text)
  match rest with
  | '}' :: rest => pure ((low, some low), rest)
  | ',' :: rest =>
    match skipSpace flags rest with
    | '}' :: rest => pure ((low, none), rest)
    | rest =>
      let (high, rest) ← readCount? rest
      match rest with
      | '}' :: rest => if low ≤ high then pure ((low, some high), rest) else none
      | _ => none
  | _ => none

/-- The switch of a letter, turned on or off. -/
def Flags.set? (flags : Flags) (isOn : Bool) : Char → Option Flags
  | 'i' => some { flags with ignoreCase := isOn }
  | 'm' => some { flags with multiLine := isOn }
  | 's' => some { flags with dotAll := isOn }
  | 'U' => some { flags with swapGreed := isOn }
  | 'u' => some { flags with unicode := isOn }
  | 'x' => some { flags with verbose := isOn }
  | 'R' => some { flags with crlf := isOn }
  | _ => none

/-- What a list of switches has shown so far. -/
structure SwitchDraft where
  flags : Flags
  isOn : Bool := true
  seen : List Char := []

/-- Switches up to the colon or parenthesis that ends them, with that character. No switch stands
twice, and at most one hyphen, not at the end, turns those behind it off. -/
def readFlags? (draft : SwitchDraft) : List Char → Option (SwitchDraft × Char × List Char)
  | [] => none
  | c :: rest =>
    if c == ':' || c == ')' then
      if draft.seen.head? == some '-' then none else some (draft, c, rest)
    else if draft.seen.contains c then none
    else if c == '-' then readFlags? { draft with isOn := false, seen := c :: draft.seen } rest
    else match draft.flags.set? draft.isOn c with
      | none => none
      | some flags => readFlags? ⟨flags, draft.isOn, c :: draft.seen⟩ rest

/-- The name of a group up to its closing angle bracket. -/
def readName? (text : List Char) : Option (List Char × List Char) :=
  let name := text.takeWhile (· != '>')
  let isStart := fun c : Char => c == '_' || (c.toNat < 128 && c.isAlpha) ||
    (128 ≤ c.toNat && Text.isWordChar c)
  let isRest := fun c : Char => isStart c || c.isDigit || c == '.' || c == '[' || c == ']'
  match name, text.dropWhile (· != '>') with
  | c :: more, '>' :: rest => if isStart c && more.all isRest then some (name, rest) else none
  | _, _ => none

/-- What stands behind an opening parenthesis. -/
inductive GroupHead where
  /-- Switches for the rest of the surrounding group. -/
  | switches (flags : Flags)
  /-- A group, in whose content the flags hold, maybe with a name. -/
  | content (flags : Flags) (name : Option (List Char))

/-- Reads what stands between an opening parenthesis and the content of its group. -/
def readGroupHead? (flags : Flags) (text : List Char) : Option (GroupHead × List Char) :=
  match skipSpace flags text with
  -- nothing can be asserted about more than the neighbouring characters
  | '?' :: '=' :: _ | '?' :: '!' :: _ | '?' :: '<' :: '=' :: _ | '?' :: '<' :: '!' :: _ => none
  | '?' :: 'P' :: '<' :: rest | '?' :: '<' :: rest =>
    (readName? rest).map fun (name, rest) => (.content flags (some name), rest)
  | '?' :: rest =>
    match readFlags? { flags } rest with
    | some (draft, ':', rest) => some (.content draft.flags none, rest)
    | some (draft, _, rest) =>
      if draft.seen.isEmpty then none else some (.switches draft.flags, rest)
    | none => none
  | rest => some (.content flags none, rest)

/-- The characters that a full stop matches. -/
def dotSet (flags : Flags) : CharSet := fun c =>
  flags.dotAll || (c != '\n' && !(flags.crlf && c == '\r'))

/-- What a caret asserts. -/
def lineStart (flags : Flags) : Assertion := fun before after =>
  before.isNone || (flags.multiLine &&
    (before == some '\n' || (flags.crlf && before == some '\r' && after != some '\n')))

/-- What a dollar sign asserts. -/
def lineEnd (flags : Flags) : Assertion := fun before after =>
  after.isNone || (flags.multiLine &&
    if flags.crlf then after == some '\r' || (after == some '\n' && before != some '\r')
    else after == some '\n')

/-- The expression of an atom in the sense of the flags. -/
def Atom.node (flags : Flags) : Atom → Plain
  | char c => .one (if flags.ignoreCase then Text.sameLetter c else (· == c))
  | set accepts => .one accepts
  | look holds => .look holds

/-- An atom outside classes. -/
def readAtom? (flags : Flags) : List Char → Option (Atom × List Char)
  | [] => none
  | '\\' :: rest => readEscape? flags rest
  | '.' :: rest => some (.set (dotSet flags), rest)
  | '^' :: rest => some (.look (lineStart flags), rest)
  | '$' :: rest => some (.look (lineEnd flags), rest)
  | c :: rest => some (.char c, rest)

/-- The content of a group from `text` on, up to its closing parenthesis or the end of the text,
inside `depth` groups. Gives the names met so far as well, as no two groups may share one. Every
step takes a character, so the length of the text is fuel enough. -/
def readGroup? (depth : Nat) (names : List (List Char)) :
    Nat → Flags → Branches → List Char → Option (Plain × List (List Char) × List Char)
  | 0, _, _, _ => none
  | fuel + 1, flags, branches, text =>
    match skipSpace flags text with
    | [] => some (branches.close, names, [])
    | ')' :: rest => some (branches.close, names, ')' :: rest)
    | '|' :: rest => readGroup? depth names fuel flags branches.next rest
    | '(' :: rest =>
      match readGroupHead? flags rest with
      | none => none
      | some (.switches flags, rest) => readGroup? depth names fuel flags branches.addSwitch rest
      | some (.content inner name, rest) =>
        if depth ≥ depthLimit || name.any names.contains then none
        else
          -- switches that were set inside do not hold outside
          match readGroup? (depth + 1) (name.toList ++ names) fuel inner .start rest with
          | some (node, names, ')' :: rest) =>
            readGroup? depth names fuel flags (branches.add node) rest
          | _ => none
    | '[' :: rest =>
      (readClass? flags rest.length rest).bind fun (accepts, rest) =>
        readGroup? depth names fuel flags (branches.add (.one accepts)) rest
    | '?' :: rest =>
      let (isLazy, rest) := readLazy flags rest
      (branches.repeatLast? fun node => some (node.opt isLazy)).bind fun branches =>
        readGroup? depth names fuel flags branches rest
    | '*' :: rest =>
      let (isLazy, rest) := readLazy flags rest
      (branches.repeatLast? fun node => some (node.rounds isLazy)).bind fun branches =>
        readGroup? depth names fuel flags branches rest
    | '+' :: rest =>
      let (isLazy, rest) := readLazy flags rest
      (branches.repeatLast? fun node => some (.seq node (node.rounds isLazy))).bind
        fun branches => readGroup? depth names fuel flags branches rest
    | '{' :: rest =>
      (readRange? flags rest).bind fun ((low, high), rest) =>
        let (isLazy, rest) := readLazy flags (skipSpace flags rest)
        (branches.repeatLast? fun node => node.counted? isLazy low high).bind fun branches =>
          readGroup? depth names fuel flags branches rest
    | text =>
      (readAtom? flags text).bind fun (atom, rest) =>
        readGroup? depth names fuel flags (branches.add (atom.node flags)) rest

end Regex

/-- An expression with its written form. -/
structure Regex where
  source : String
  node : Regex.Plain

namespace Regex

/-- Reads a written expression. -/
def compile? (source : String) : Option Regex :=
  let text := source.toList
  match readGroup? 0 [] (text.length + 1) {} .start text with
  | some (node, _, []) => some ⟨source, node⟩
  | _ => none

/-- Whether the expression matches anywhere in the text. -/
def occursIn (regex : Regex) (text : List Char) : Bool := regex.node.occursIn text

/-- The text with every match of the expression replaced. -/
def replaceAll (regex : Regex) (replacement text : List Char) : List Char :=
  regex.node.replaceAll replacement text

end Regex

end MediaShelf
