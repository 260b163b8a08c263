import MediaShelf.Proofs.Pattern.Cross

/-!
# The scan behind a hit

What stands in front of a hit and what stands behind its number are cut out of the name, and with
each further marker the scan goes on behind the number of that marker. Expressions look beyond their
numbers, and letters may take more than one byte, so neither the end of a match nor a count of
characters tells where to cut. The places are offsets in bytes: each of them lies within the text
and between two of its characters, right behind the digits of the number. So every round of the scan
takes at least a byte, and the scan ends by itself.

## Main definitions

* `HasNumber` — a match goes through the digits of an episode
* `CutBehind` — a text is cut right behind the digits of an episode
* `Hit.IsCutFrom` — the texts around a hit are cut out of a name
* `Scan` — a scan up to the end, in which every round cuts off a marker

## Main results

* `cutBehind_of_nextEpisode?` — what one round does
* `scan_trailingEpisodes`, `Scan.length_le` — what the whole scan does, and how long it can be
* `isCutFrom_of_hit?` — where the name is cut
* `isCutFrom_and_scan_of_hit?` — both together, for the hits that a scan follows
-/

namespace MediaShelf.Pattern

open Regex (Node Trace Found)
open Text (AsciiDigits Numeral)

variable {name text lead number front rest : List Char} {season episode : UInt32}
  {episodes : List UInt32} {node : Node Token} {found : Found Token} {hit : Hit}

/-! ### Places between characters -/

/-- There is a place between two texts that are put together. -/
theorem exists_splits (h : text = front ++ rest) :
    ∃ place : (String.ofList text).Pos,
      place.Splits (String.ofList front) (String.ofList rest) := by
  have happend : String.ofList text = String.ofList front ++ String.ofList rest := by
    rw [h, String.ofList_append]
  have hvalid : (String.ofList front).rawEndPos.IsValid (String.ofList text) :=
    String.Pos.Raw.isValid_iff_exists_append.mpr ⟨_, _, happend, rfl⟩
  exact ⟨⟨_, hvalid⟩, happend, rfl⟩

/-- The text is cut at a place behind its start, right behind a numeral of the episode. -/
def CutBehind (text : List Char) (episode : UInt32) (rest : List Char) : Prop :=
  ∃ (stop : (String.ofList text).Pos) (lead number : List Char), 0 < stop.offset.byteIdx ∧
    Numeral number episode ∧ stop.Splits (String.ofList (lead ++ number)) (String.ofList rest)

/-- The texts in front of the hit and behind it are cut out of the name at two places in a row, the
second of them right behind a numeral of the episode. -/
def Hit.IsCutFrom (name : List Char) (hit : Hit) : Prop :=
  ∃ (start stop : (String.ofList name).Pos) (lead number : List Char), start < stop ∧
    Numeral number hit.episode ∧
    start.Splits (String.ofList hit.before) (String.ofList (lead ++ number ++ hit.rest)) ∧
    stop.Splits (String.ofList (hit.before ++ (lead ++ number))) (String.ofList hit.rest)

/-- What ends in a numeral is not empty. -/
theorem append_ne_nil_of_numeral (h : Numeral number episode) : lead ++ number ≠ [] :=
  List.append_ne_nil_of_right_ne_nil lead h.digits.1

theorem cutBehind_of_append (hnumber : Numeral number episode) (h : text = lead ++ number ++ rest) :
    CutBehind text episode rest := by
  obtain ⟨stop, hstop⟩ := exists_splits h
  refine ⟨stop, lead, number, ?_, hnumber, hstop⟩
  rw [hstop.offset_eq_rawEndPos, Nat.pos_iff_ne_zero]
  -- only the empty text takes no bytes, and the digits are in front of the place
  intro hzero
  have hempty := String.utf8ByteSize_eq_zero_iff.mp hzero
  exact append_ne_nil_of_numeral hnumber (String.ofList_eq_empty_iff.mp hempty)

theorem isCutFrom_of_append (hnumber : Numeral number hit.episode)
    (h : name = hit.before ++ (lead ++ number ++ hit.rest)) : hit.IsCutFrom name := by
  have hbehind : name = hit.before ++ (lead ++ number) ++ hit.rest :=
    h.trans (List.append_assoc _ _ _).symm
  -- one text is split at two places, and what is between them is not empty
  obtain ⟨start, hstart⟩ := exists_splits h
  obtain ⟨stop, hstop⟩ := exists_splits hbehind
  refine ⟨start, stop, lead, number, ?_, hnumber, hstart, hstop⟩
  refine (hstart.lt_iff_exists_eq_append hstop).mpr ⟨String.ofList (lead ++ number), ?_, ?_⟩
  · simpa using append_ne_nil_of_numeral hnumber
  · exact ⟨String.ofList_append, String.ofList_append⟩

/-! ### Numbers of matches -/

/-- The match goes through the digits of an episode. It may go on with what it only had to look
at. -/
def HasNumber (trace : Trace Token) : Prop :=
  ∃ lead number, AsciiDigits number ∧ Trace.group? .episode trace = some number ∧
    Trace.text trace = lead ++ number ++ Trace.after .episode trace

/-- Every match of the expression goes through the digits of an episode. -/
def FindsNumber (node : Node Token) : Prop :=
  ∀ ⦃before after trace⦄, node.Reads before after trace → HasNumber trace

theorem hasNumber_numberTrace {back : List Char} (h : AsciiDigits number) :
    HasNumber (numberTrace lead number back) :=
  ⟨lead, number, h, group?_numberTrace, by simp⟩

theorem hasNumber_numbersTrace {digits middle back : List Char} (h : AsciiDigits number) :
    HasNumber (numbersTrace lead digits middle number back) := by
  refine ⟨lead ++ (digits ++ middle), number, h, ?_, ?_⟩
  · simp [numbersTrace]
  · simp [numbersTrace]

theorem findsNumber_trailingEpisodeNode : FindsNumber trailingEpisodeNode := by
  intro before after trace h
  obtain ⟨e, digits, -, hdigits, rfl⟩ := reads_trailingEpisodeNode.mp h
  exact hasNumber_numberTrace hdigits

theorem findsNumber_trailingNumberNode : FindsNumber trailingNumberNode := by
  intro before after trace h
  obtain ⟨c, digits, edge, -, hdigits, -, -, rfl⟩ := reads_trailingNumberNode.mp h
  exact hasNumber_numberTrace hdigits

theorem findsNumber_pair : FindsNumber (seasonEpisodeNode .empty) := by
  intro before after trace h
  obtain ⟨s, digits, e, digits', -, -, -, hdigits, rfl⟩ := reads_pair.mp h
  exact hasNumber_numbersTrace hdigits

theorem findsNumber_spacedPair (accepts : Char → Bool) :
    FindsNumber (seasonEpisodeNode (.one accepts)) := by
  rintro before after _ ⟨_, _, ⟨s, -, rfl⟩, ⟨_, _, ⟨_, hseason, rfl⟩,
    ⟨_, _, ⟨c, -, rfl⟩, hback, rfl⟩, rfl⟩, rfl⟩
  obtain ⟨digits, -, rfl⟩ := reads_asciiDigits.mp hseason
  obtain ⟨e, digits', -, hdigits, rfl⟩ := reads_trailingEpisodeNode.mp hback
  -- the separator is read apart from the letter E, and both stand between the numbers
  have htrace : numbersTrace [s] digits [c, e] digits' [] =
      [.char s] ++ (groupTrace .season digits ++ ([.char c] ++ numberTrace [e] digits' [])) := by
    simp [numbersTrace, numberTrace]
  exact htrace ▸ hasNumber_numbersTrace hdigits

theorem findsNumber_joinedPair : FindsNumber (.seq joiner (seasonEpisodeNode .empty)) := by
  intro before after trace h
  obtain ⟨front, s, digits, e, digits', -, -, -, -, hdigits, rfl⟩ := reads_joinedPair.mp h
  exact hasNumber_numbersTrace hdigits

theorem findsNumber_joinedCross : FindsNumber (.seq joiner crossNode) := by
  intro before after trace h
  obtain ⟨front, digits, x, digits', edge, -, -, -, -, hdigits, -, -, rfl⟩ :=
    reads_joinedCross.mp h
  exact hasNumber_numbersTrace hdigits

theorem findsNumber_guardedCross : FindsNumber (.seq crossGuard crossNode) := by
  intro before after trace h
  obtain ⟨guard, digits, x, digits', edge, -, -, -, -, hdigits, -, -, rfl⟩ :=
    reads_guardedCross.mp h
  exact hasNumber_numbersTrace hdigits

/-! ### One round -/

/-- A number that is read at the start of a text is cut off with what is in front of it. -/
theorem cutBehind_of_numberAtStart? (hnode : FindsNumber node)
    (h : numberAtStart? node text = some (episode, rest)) : CutBehind text episode rest := by
  obtain ⟨found, hfound, h⟩ := Option.bind_eq_some_iff.mp h
  obtain ⟨digits, hdigits, h⟩ := Option.bind_eq_some_iff.mp h
  obtain ⟨n, hread, h⟩ := Option.bind_eq_some_iff.mp h
  cases h
  obtain ⟨-, htext, hreads⟩ := Node.findAtStart?_eq_some hfound
  obtain ⟨lead, number, hnumber, hgroup, hcut⟩ := hnode hreads
  obtain rfl := Option.some.inj (hgroup.symm.trans hdigits)
  have happend : text = lead ++ number ++ found.behind .episode := by
    rw [htext, hcut, Found.behind, List.append_assoc]
  exact cutBehind_of_append (Text.numeral_of_readWord? hnumber hread) happend

/-- What a hit is read of. -/
theorem exists_numeral_of_ofFound? (hfound : HasNumber found.trace)
    (h : Hit.ofFound? found = some hit) :
    ∃ lead number, Numeral number hit.episode ∧ hit.before = found.before ∧
      Trace.text found.trace ++ found.rest = lead ++ number ++ hit.rest := by
  obtain ⟨digits, -, h⟩ := Option.bind_eq_some_iff.mp h
  obtain ⟨n, -, h⟩ := Option.bind_eq_some_iff.mp h
  obtain ⟨digits', hdigits', h⟩ := Option.bind_eq_some_iff.mp h
  obtain ⟨m, hread, h⟩ := Option.bind_eq_some_iff.mp h
  cases h
  obtain ⟨lead, number, hnumber, hgroup, hcut⟩ := hfound
  obtain rfl := Option.some.inj (hgroup.symm.trans hdigits')
  refine ⟨lead, number, Text.numeral_of_readWord? hnumber hread, rfl, ?_⟩
  rw [hcut, Found.behind, List.append_assoc]

theorem cutBehind_of_hitAtStart? (hnode : FindsNumber node)
    (h : hitAtStart? node text = some hit) : CutBehind text hit.episode hit.rest := by
  obtain ⟨found, hfound, hhit⟩ := Option.bind_eq_some_iff.mp h
  obtain ⟨-, htext, hreads⟩ := Node.findAtStart?_eq_some hfound
  obtain ⟨lead, number, hnumber, -, hcut⟩ := exists_numeral_of_ofFound? (hnode hreads) hhit
  exact cutBehind_of_append hnumber (htext.trans hcut)

/-- Each form of markers is cut off right behind its number. -/
theorem cutBehind_of_nextEpisode? (h : nextEpisode? season text = some (episode, rest)) :
    CutBehind text episode rest := by
  rw [nextEpisode?] at h
  -- a letter and a bare number are read as numbers, the two forms of pairs as hits
  split at h
  · next next hletter =>
    obtain rfl := Option.some.inj h
    exact cutBehind_of_numberAtStart? findsNumber_trailingEpisodeNode hletter
  · split at h
    · next hit hpair =>
      split at h
      · cases h
        rcases Option.or_eq_some_iff.mp hpair with hpair | ⟨-, hcross⟩
        · exact cutBehind_of_hitAtStart? findsNumber_joinedPair hpair
        · exact cutBehind_of_hitAtStart? findsNumber_joinedCross hcross
      · cases h
    · exact cutBehind_of_numberAtStart? findsNumber_trailingNumberNode h

/-! ### The whole scan -/

/-- The scan of a text up to where no marker begins. Every round cuts off a marker. -/
inductive Scan (season : UInt32) : List Char → List UInt32 → Prop
  | nil {text : List Char} : nextEpisode? season text = none → Scan season text []
  | cons {text rest : List Char} {episode : UInt32} {episodes : List UInt32} :
      nextEpisode? season text = some (episode, rest) → CutBehind text episode rest →
      Scan season rest episodes → Scan season text (episode :: episodes)

theorem CutBehind.utf8ByteSize_lt (h : CutBehind text episode rest) :
    (String.ofList rest).utf8ByteSize < (String.ofList text).utf8ByteSize := by
  obtain ⟨stop, lead, number, hpos, -, hstop⟩ := h
  rw [hstop.offset_eq_rawEndPos] at hpos
  rw [hstop.eq_append, String.utf8ByteSize_append]
  exact Nat.lt_add_of_pos_left hpos

theorem CutBehind.length_lt (h : CutBehind text episode rest) : rest.length < text.length := by
  obtain ⟨stop, lead, number, -, hnumber, hstop⟩ := h
  have happend : text = lead ++ number ++ rest := by
    have heq := hstop.eq_append
    rwa [← String.ofList_append, String.ofList_inj] at heq
  have hne : lead ++ number ≠ [] := append_ne_nil_of_numeral hnumber
  have hpos := List.length_pos_iff.mpr hne
  rw [happend, List.length_append]
  omega

/-- With as many rounds as characters the scan comes to its end. -/
theorem scan_trailingEpisodesWithin {rounds : Nat} (h : text.length ≤ rounds) :
    Scan season text (trailingEpisodesWithin season rounds text) := by
  induction rounds generalizing text with
  | zero =>
    obtain rfl := List.length_eq_zero_iff.mp (Nat.le_zero.mp h)
    exact .nil (nextEpisode?_of_isOver (by simp [IsOver]))
  | succ rounds ih =>
    rw [trailingEpisodesWithin]
    split
    · next hnone => exact .nil hnone
    · next episode rest hnext =>
      have hcut := cutBehind_of_nextEpisode? hnext
      -- the rest is shorter, so the rounds that are left are enough for it
      have hlength := hcut.length_lt
      exact .cons hnext hcut (ih (by omega))

theorem scan_trailingEpisodes : Scan season text (trailingEpisodes season text) :=
  scan_trailingEpisodesWithin (Nat.le_refl _)

/-- Each round takes at least a byte. -/
theorem Scan.length_le (h : Scan season text episodes) :
    episodes.length ≤ (String.ofList text).utf8ByteSize := by
  induction h with
  | nil => exact Nat.zero_le _
  | cons _ hcut _ ih => exact Nat.lt_of_le_of_lt ih hcut.utf8ByteSize_lt

/-! ### The hit in front of the scan -/

theorem isCutFrom_of_find? (hnode : FindsNumber node)
    (h : (node.find? name).bind Hit.ofFound? = some hit) : hit.IsCutFrom name := by
  obtain ⟨found, hfound, hhit⟩ := Option.bind_eq_some_iff.mp h
  obtain ⟨htext, hreads⟩ := Node.find?_eq_some hfound
  obtain ⟨lead, number, hnumber, hbefore, hcut⟩ := exists_numeral_of_ofFound? (hnode hreads) hhit
  have happend : name = hit.before ++ (lead ++ number ++ hit.rest) := by
    rw [htext, List.append_assoc, hcut, hbefore]
  exact isCutFrom_of_append hnumber happend

theorem isCutFrom_of_hit? {h : Heuristic} (hscans : h.scansTrailing)
    (hhit : h.hit? name = some hit) :
    hit.IsCutFrom name := by
  cases h with
  | seasonEpisode => exact isCutFrom_of_find? findsNumber_pair hhit
  | seasonDotEpisode => exact isCutFrom_of_find? (findsNumber_spacedPair _) hhit
  | crossSeparated => exact isCutFrom_of_find? findsNumber_guardedCross hhit
  | fourDigits | threeDigits | leadingSingleDigit | leadingNumber | phrase => cases hscans

/-- The texts in front of a hit and behind it are cut out of the name at places within it and
between two characters, whatever letters it has. The scan behind the hit cuts at such places as
well, takes at least a byte in each round and comes to its end: no marker begins where it stops. -/
theorem isCutFrom_and_scan_of_hit? {h : Heuristic} (hscans : h.scansTrailing)
    (hhit : h.hit? name = some hit) :
    hit.IsCutFrom name ∧ Scan hit.season hit.rest (trailingEpisodes hit.season hit.rest) ∧
      (trailingEpisodes hit.season hit.rest).length ≤ (String.ofList hit.rest).utf8ByteSize :=
  ⟨isCutFrom_of_hit? hscans hhit, scan_trailingEpisodes, scan_trailingEpisodes.length_le⟩

/-- Letters of more than one byte stand in front of the hit and behind the last marker. -/
theorem isCutFrom_and_scan_wideLetters :
    Heuristic.seasonEpisode.hit? "Amélie É.s1E02+03s01e4é".toList =
        some ⟨1, 2, "Amélie É.".toList, "+03s01e4é".toList⟩ ∧
      trailingEpisodes 1 "+03s01e4é".toList = [3, 4] ∧
      Hit.IsCutFrom "Amélie É.s1E02+03s01e4é".toList
        ⟨1, 2, "Amélie É.".toList, "+03s01e4é".toList⟩ ∧
      Scan 1 "+03s01e4é".toList [3, 4] := by
  have hhit : Heuristic.seasonEpisode.hit? "Amélie É.s1E02+03s01e4é".toList =
      some ⟨1, 2, "Amélie É.".toList, "+03s01e4é".toList⟩ := by decide +kernel
  have hscan : trailingEpisodes 1 "+03s01e4é".toList = [3, 4] := by decide +kernel
  obtain ⟨hcut, hends, -⟩ := isCutFrom_and_scan_of_hit? (h := .seasonEpisode) rfl hhit
  exact ⟨hhit, hscan, hcut, hscan ▸ hends⟩

end MediaShelf.Pattern
