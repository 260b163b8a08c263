/-!
# Tables of characters

Classes of characters are given by code point ranges, and letter-case maps by runs: stretches of
characters that are all moved by the same distance.

## Main definitions

* `CharTable` — a list of inclusive code point ranges; `CharTable.contains` is membership
* `CaseRun` — every `step`-th character from `first` to `last`, mapped to `target` onwards
* `CaseRun.map?` — the image of a character under the first run that holds it
-/

namespace MediaShelf.Text

/-- Inclusive ranges of code points. -/
abbrev CharTable := List (Nat × Nat)

/-- Whether some range of the table holds the character. -/
def CharTable.contains (table : CharTable) (c : Char) : Bool :=
  table.any fun range => range.1 ≤ c.toNat && c.toNat ≤ range.2

/-- The characters `first`, `first + step`, … up to `last`, mapped to `target`,
`target + step`, and so on. -/
structure CaseRun where
  first : Nat
  last : Nat
  step : Nat
  target : Nat

namespace CaseRun

/-- Whether the run maps the character. -/
def covers (run : CaseRun) (c : Char) : Bool :=
  run.first ≤ c.toNat && c.toNat ≤ run.last && (c.toNat - run.first) % run.step == 0

/-- The image of a character that the run covers. -/
def image (run : CaseRun) (c : Char) : Char :=
  Char.ofNat (run.target + (c.toNat - run.first))

/-- The image of a character under the first run of the list that covers it. -/
def map? (runs : List CaseRun) (c : Char) : Option Char :=
  (runs.find? (·.covers c)).map (·.image c)

end CaseRun

end MediaShelf.Text
