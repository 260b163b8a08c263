import MediaShelf.Pattern.Heuristic
import MediaShelf.Proofs.Pattern.Token
import MediaShelf.Proofs.Regex.Greedy
import MediaShelf.Proofs.Text.CaseFold
import MediaShelf.Proofs.Text.Numeral
import MediaShelf.Proofs.Text.Split

/-!
# Markers of episodes

Behind a season and its first episode a name may go on with markers of further episodes. The forms
of markers overlap: one is often the beginning of another. But every marker begins with a character
that goes on with no number, and the digits of a number end where no digit follows, so there is one
way only to read a marker.

## Main definitions

* `IsPair` — a season and an episode with letters, as in `S01E02`
* `Marks` — the texts that mark an episode of a season
* `numbersTrace` — the trace of a season and an episode with what stands around them

## Main results

* `reads_pair`, `reads_joinedPair`, `reads_joinedCross`, … — what the expressions of markers match
* `nextEpisode?_of_marks` — a marker is read as its episode, and all of it
* `nextEpisode?_of_isOver` — where no marker begins, none is read
-/

namespace MediaShelf.Pattern

open Regex (Node Trace Found)
open Text (sameLetter AsciiDigits Numeral)

/-! ### Texts of markers -/

/-- The text is the letter S, a season, the letter E and an episode. -/
inductive IsPair (season episode : List Char) : List Char → Prop
  | mk {s e : Char} : sameLetter 's' s → sameLetter 'e' e →
      IsPair season episode (s :: (season ++ e :: episode))

/-- The punctuation that may join a marker to what is in front of it. -/
def joins (c : Char) : Bool := ['-', '+', ',', '.'].contains c

/-- The text is a character that joins, or nothing. -/
def IsJoiner (text : List Char) : Prop := text.length ≤ 1 ∧ ∀ c ∈ text, joins c

instance {text : List Char} : Decidable (IsJoiner text) :=
  decidable_of_iff (text.length ≤ 1 ∧ text.all joins) (by simp [IsJoiner])

/-- The text marks an episode of the season. -/
inductive Marks (season : UInt32) : List Char → UInt32 → Prop
  /-- As in `E02`. -/
  | letter {e : Char} {digits : List Char} {episode : UInt32} : sameLetter 'e' e →
      Numeral digits episode → Marks season (e :: digits) episode
  /-- As in `S01E02`, or with a joiner in front. -/
  | pair {front seasonDigits digits text : List Char} {episode : UInt32} : IsJoiner front →
      IsPair seasonDigits digits text → Numeral seasonDigits season → Numeral digits episode →
      Marks season (front ++ text) episode
  /-- As in `.1x02`. -/
  | cross {c x : Char} {seasonDigits digits : List Char} {episode : UInt32} :
      joins c → Numeral seasonDigits season → seasonDigits.length ≤ 2 → sameLetter 'x' x →
      Numeral digits episode → digits.length ≤ 3 →
      Marks season (c :: (seasonDigits ++ x :: digits)) episode
  /-- As in `+02`. -/
  | number {c : Char} {digits : List Char} {episode : UInt32} : ['+', ',', '.'].contains c →
      Numeral digits episode → digits.length = 2 → Marks season (c :: digits) episode

/-- The text goes on with no marker: it is empty, or starts with a character that no marker starts
with and no number goes on with. -/
def IsOver (text : List Char) : Prop :=
  ∀ c ∈ text.head?, c.isDigit = false ∧ joins c = false ∧ sameLetter 'e' c = false ∧
    sameLetter 's' c = false ∧ sameLetter 'x' c = false

instance {text : List Char} : Decidable (IsOver text) :=
  decidable_of_iff (text.head?.all fun c => !c.isDigit && !joins c && !sameLetter 'e' c &&
    !sameLetter 's' c && !sameLetter 'x' c) (by simp [IsOver, and_assoc, Option.all_eq_true])

/-- The text goes on with no digit and no letter X, so a number in front of it ends there. -/
def EndsNumber (text : List Char) : Prop :=
  ∀ c ∈ text.head?, c.isDigit = false ∧ sameLetter 'x' c = false

/-! ### Traces of numbers -/

/-- The trace of an episode with what stands around it. -/
def numberTrace (front episode back : List Char) : Trace Token :=
  front.map .char ++ (groupTrace .episode episode ++ back.map .char)

/-- The trace of a season and an episode with what stands around them. -/
def numbersTrace (front season middle episode back : List Char) : Trace Token :=
  front.map .char ++ (groupTrace .season season ++ numberTrace middle episode back)

section Traces

variable {front season middle episode back rest text before : List Char} {n m : UInt32}
  {node : Node Token} {found : Found Token}

@[simp] theorem text_numberTrace :
    Trace.text (numberTrace front episode back) = front ++ (episode ++ back) := by
  simp [numberTrace]

@[simp] theorem text_numbersTrace : Trace.text (numbersTrace front season middle episode back) =
    front ++ (season ++ (middle ++ (episode ++ back))) := by
  simp [numbersTrace]

@[simp] theorem group?_numberTrace :
    Trace.group? .episode (numberTrace front episode back) = some episode := by
  simp [numberTrace]

@[simp] theorem after_numberTrace :
    Trace.after .episode (numberTrace front episode back) = back := by
  simp [numberTrace]

/-- What a match with a season and an episode says. -/
theorem ofFound?_numbersTrace (hseason : Numeral season n) (hepisode : Numeral episode m) :
    Hit.ofFound? ⟨before, numbersTrace front season middle episode back, rest⟩ =
      some ⟨n, m, before, back ++ rest⟩ := by
  simp [Hit.ofFound?, Found.group?, Found.behind, numbersTrace, hseason.readWord?,
    hepisode.readWord?]

theorem hitAtStart?_of_preferred?
    (h : node.preferred? [] (Trace.text (numbersTrace front season middle episode back) ++ rest) =
      some (numbersTrace front season middle episode back))
    (hseason : Numeral season n) (hepisode : Numeral episode m) :
    hitAtStart? node (Trace.text (numbersTrace front season middle episode back) ++ rest) =
      some ⟨n, m, [], back ++ rest⟩ := by
  rw [hitAtStart?, Node.findAtStart?_eq_preferred?, h, Option.map_some, Option.bind_some,
    List.drop_left, ofFound?_numbersTrace hseason hepisode]

theorem numberAtStart?_of_preferred?
    (h : node.preferred? [] (Trace.text (numberTrace front episode back) ++ rest) =
      some (numberTrace front episode back)) (hepisode : Numeral episode n) :
    numberAtStart? node (Trace.text (numberTrace front episode back) ++ rest) =
      some (n, back ++ rest) := by
  rw [numberAtStart?, Node.findAtStart?_eq_preferred?, h]
  simp only [Option.map_some, List.drop_left, Found.group?, group?_numberTrace, Found.behind,
    after_numberTrace, Option.bind_eq_bind, Option.bind_some, hepisode.readWord?]
  rfl

theorem hitAtStart?_eq_none (h : node.preferred? [] text = none) :
    hitAtStart? node text = none := by
  rw [hitAtStart?, Node.findAtStart?_eq_preferred?, h]
  rfl

theorem numberAtStart?_eq_none (h : node.preferred? [] text = none) :
    numberAtStart? node text = none := by
  rw [numberAtStart?, Node.findAtStart?_eq_preferred?, h]
  rfl

end Traces

/-! ### Expressions of markers -/

section Reads

variable {before : Option Char} {after : List Char} {trace : Trace Token}

theorem reads_asciiDigits : (Node.plus Char.isDigit : Node Token).Reads before after trace ↔
    ∃ text, AsciiDigits text ∧ trace = text.map .char := by
  rw [Node.reads_plus]
  simp only [AsciiDigits, and_assoc]

theorem reads_digitsUpTo {n : Nat} : (digitsUpTo n).Reads before after trace ↔
    ∃ text, AsciiDigits text ∧ text.length ≤ n + 1 ∧ trace = text.map .char := by
  refine Node.reads_one_upTo.trans (exists_congr fun text => ?_)
  rw [AsciiDigits, and_assoc]
  exact and_congr_right fun _ => and_left_comm

/-- The text is a character that is no digit, or the end of the text stands in its place. -/
def IsEdge (edge after : List Char) : Prop :=
  (∃ c : Char, c.isDigit = false ∧ edge = [c]) ∨ edge = [] ∧ after = []

theorem IsEdge.isDigit_head? {edge : List Char} (h : IsEdge edge after) :
    ∀ c ∈ (edge ++ after).head?, c.isDigit = false := by
  rcases h with ⟨c, hc, rfl⟩ | ⟨rfl, rfl⟩
  · rintro _ ⟨⟩
    exact hc
  · simp

/-- Every text that does not start with a digit starts with an edge. -/
theorem exists_isEdge {rest : List Char} (h : ∀ c ∈ rest.head?, c.isDigit = false) :
    ∃ edge after, rest = edge ++ after ∧ IsEdge edge after := by
  cases rest with
  | nil => exact ⟨[], [], rfl, .inr ⟨rfl, rfl⟩⟩
  | cons c rest => exact ⟨[c], rest, rfl, .inl ⟨c, h c rfl, rfl⟩⟩

theorem reads_digitBoundary : (digitBoundary Regex.atEnd).Reads before after trace ↔
    ∃ edge, IsEdge edge after ∧ trace = edge.map .char := by
  constructor
  · rintro (⟨c, hc, rfl⟩ | ⟨hend, rfl⟩)
    · exact ⟨[c], .inl ⟨c, by simpa using hc, rfl⟩, rfl⟩
    · exact ⟨[], .inr ⟨rfl, by simpa [Regex.atEnd] using hend⟩, rfl⟩
  · rintro ⟨_, ⟨c, hc, rfl⟩ | ⟨rfl, rfl⟩, rfl⟩
    · exact .inl ⟨c, by simpa using hc, rfl⟩
    · exact .inr ⟨rfl, rfl⟩

theorem reads_joiner : joiner.Reads before after trace ↔
    ∃ front, IsJoiner front ∧ trace = front.map .char := by
  constructor
  · rintro (⟨c, hc, rfl⟩ | rfl)
    · exact ⟨[c], ⟨by simp, fun d hd => by rwa [List.mem_singleton.mp hd]⟩, rfl⟩
    · exact ⟨[], ⟨by simp, by simp⟩, rfl⟩
  · rintro ⟨front, ⟨hlength, hfront⟩, rfl⟩
    match front, hlength with
    | [], _ => exact .inr rfl
    | [c], _ => exact .inl ⟨c, hfront c List.mem_cons_self, rfl⟩

theorem reads_trailingEpisodeNode : trailingEpisodeNode.Reads before after trace ↔
    ∃ e episode, sameLetter 'e' e ∧ AsciiDigits episode ∧ trace = numberTrace [e] episode [] := by
  constructor
  · rintro ⟨_, _, ⟨e, he, rfl⟩, ⟨_, hepisode, rfl⟩, rfl⟩
    obtain ⟨episode, hdigits, rfl⟩ := reads_asciiDigits.mp hepisode
    exact ⟨e, episode, he, hdigits, by simp [numberTrace, groupTrace]⟩
  · rintro ⟨e, episode, he, hdigits, rfl⟩
    exact ⟨[.char e], groupTrace .episode episode, ⟨e, he, rfl⟩,
      ⟨_, reads_asciiDigits.mpr ⟨episode, hdigits, rfl⟩, rfl⟩, by simp [numberTrace]⟩

theorem reads_pair : (seasonEpisodeNode .empty).Reads before after trace ↔
    ∃ s season e episode, sameLetter 's' s ∧ AsciiDigits season ∧ sameLetter 'e' e ∧
      AsciiDigits episode ∧ trace = numbersTrace [s] season [e] episode [] := by
  constructor
  · rintro ⟨_, _, ⟨s, hs, rfl⟩, ⟨_, _, ⟨_, hseason, rfl⟩, ⟨_, _, rfl, hback, rfl⟩, rfl⟩, rfl⟩
    obtain ⟨season, hdigits, rfl⟩ := reads_asciiDigits.mp hseason
    obtain ⟨e, episode, he, hepisode, rfl⟩ := reads_trailingEpisodeNode.mp hback
    exact ⟨s, season, e, episode, hs, hdigits, he, hepisode, by simp [numbersTrace, groupTrace]⟩
  · rintro ⟨s, season, e, episode, hs, hseason, he, hepisode, rfl⟩
    refine ⟨[.char s], groupTrace .season season ++ numberTrace [e] episode [], ⟨s, hs, rfl⟩,
      ⟨groupTrace .season season, _, ⟨_, reads_asciiDigits.mpr ⟨season, hseason, rfl⟩, rfl⟩,
        ⟨[], _, rfl, ?_, rfl⟩, rfl⟩, by simp [numbersTrace]⟩
    exact reads_trailingEpisodeNode.mpr ⟨e, episode, he, hepisode, rfl⟩

theorem reads_joinedPair :
    (Node.seq joiner (seasonEpisodeNode .empty)).Reads before after trace ↔
    ∃ front s season e episode, IsJoiner front ∧ sameLetter 's' s ∧ AsciiDigits season ∧
      sameLetter 'e' e ∧ AsciiDigits episode ∧
      trace = numbersTrace (front ++ [s]) season [e] episode [] := by
  constructor
  · rintro ⟨_, _, hjoiner, hpair, rfl⟩
    obtain ⟨front, hfront, rfl⟩ := reads_joiner.mp hjoiner
    obtain ⟨s, season, e, episode, hs, hseason, he, hepisode, rfl⟩ := reads_pair.mp hpair
    exact ⟨front, s, season, e, episode, hfront, hs, hseason, he, hepisode,
      by simp [numbersTrace]⟩
  · rintro ⟨front, s, season, e, episode, hfront, hs, hseason, he, hepisode, rfl⟩
    exact ⟨_, _, reads_joiner.mpr ⟨front, hfront, rfl⟩,
      reads_pair.mpr ⟨s, season, e, episode, hs, hseason, he, hepisode, rfl⟩,
      by simp [numbersTrace]⟩

theorem reads_cross : crossNode.Reads before after trace ↔
    ∃ season x episode edge, AsciiDigits season ∧ season.length ≤ 2 ∧ sameLetter 'x' x ∧
      AsciiDigits episode ∧ episode.length ≤ 3 ∧ IsEdge edge after ∧
      trace = numbersTrace [] season [x] episode edge := by
  constructor
  · rintro ⟨_, _, ⟨_, hseason, rfl⟩, ⟨_, _, ⟨x, hx, rfl⟩, ⟨_, _, ⟨_, hepisode, rfl⟩, hback, rfl⟩,
      rfl⟩, rfl⟩
    obtain ⟨season, hdigits, hshort, rfl⟩ := reads_digitsUpTo.mp hseason
    obtain ⟨episode, hdigits', hshort', rfl⟩ := reads_digitsUpTo.mp hepisode
    obtain ⟨edge, hedge, rfl⟩ := reads_digitBoundary.mp hback
    exact ⟨season, x, episode, edge, hdigits, hshort, hx, hdigits', hshort', hedge,
      by simp [numbersTrace, numberTrace, groupTrace]⟩
  · rintro ⟨season, x, episode, edge, hseason, hshort, hx, hepisode, hshort', hedge, rfl⟩
    refine ⟨groupTrace .season season, .char x :: (groupTrace .episode episode ++ edge.map .char),
      ⟨_, reads_digitsUpTo.mpr ⟨season, hseason, hshort, rfl⟩, rfl⟩,
      ⟨[.char x], groupTrace .episode episode ++ edge.map .char, ⟨x, hx, rfl⟩,
        ⟨groupTrace .episode episode, edge.map .char,
          ⟨_, reads_digitsUpTo.mpr ⟨episode, hepisode, hshort', rfl⟩, rfl⟩,
          reads_digitBoundary.mpr ⟨edge, hedge, rfl⟩, rfl⟩, rfl⟩,
      by simp [numbersTrace, numberTrace]⟩

theorem reads_joinedCross : (Node.seq joiner crossNode).Reads before after trace ↔
    ∃ front season x episode edge, IsJoiner front ∧ AsciiDigits season ∧ season.length ≤ 2 ∧
      sameLetter 'x' x ∧ AsciiDigits episode ∧ episode.length ≤ 3 ∧ IsEdge edge after ∧
      trace = numbersTrace front season [x] episode edge := by
  constructor
  · rintro ⟨_, _, hjoiner, hcross, rfl⟩
    obtain ⟨front, hfront, rfl⟩ := reads_joiner.mp hjoiner
    obtain ⟨season, x, episode, edge, hseason, hshort, hx, hepisode, hshort', hedge, rfl⟩ :=
      reads_cross.mp hcross
    exact ⟨front, season, x, episode, edge, hfront, hseason, hshort, hx, hepisode, hshort', hedge,
      by simp [numbersTrace]⟩
  · rintro ⟨front, season, x, episode, edge, hfront, hseason, hshort, hx, hepisode, hshort', hedge,
      rfl⟩
    exact ⟨_, _, reads_joiner.mpr ⟨front, hfront, rfl⟩,
      reads_cross.mpr
        ⟨season, x, episode, edge, hseason, hshort, hx, hepisode, hshort', hedge, rfl⟩,
      by simp [numbersTrace]⟩

theorem reads_trailingNumberNode : trailingNumberNode.Reads before after trace ↔
    ∃ c episode edge, ['+', ',', '.'].contains c ∧ AsciiDigits episode ∧ episode.length = 2 ∧
      IsEdge edge after ∧ trace = numberTrace [c] episode edge := by
  constructor
  · rintro ⟨_, _, ⟨c, hc, rfl⟩, ⟨_, _, ⟨_, hepisode, rfl⟩, hback, rfl⟩, rfl⟩
    obtain ⟨episode, ⟨hlength, hdigits⟩, rfl⟩ := (reads_times (n := 2)).mp hepisode
    obtain ⟨edge, hedge, rfl⟩ := reads_digitBoundary.mp hback
    have hne : episode ≠ [] := by
      rintro rfl
      cases hlength
    exact ⟨c, episode, edge, hc, ⟨hne, hdigits⟩, hlength, hedge,
      by simp [numberTrace, groupTrace]⟩
  · rintro ⟨c, episode, edge, hc, hepisode, hlength, hedge, rfl⟩
    exact ⟨[.char c], groupTrace .episode episode ++ edge.map .char, ⟨c, hc, rfl⟩,
      ⟨groupTrace .episode episode, edge.map .char,
        ⟨_, (reads_times (n := 2)).mpr ⟨episode, ⟨hlength, hepisode.2⟩, rfl⟩, rfl⟩,
        reads_digitBoundary.mpr ⟨edge, hedge, rfl⟩, rfl⟩, by simp [numberTrace]⟩

end Reads

/-! ### Characters of markers -/

section Chars

variable {c : Char}

/-- What is so of the first character of a text. -/
theorem forall_head?_cons {p : Char → Prop} (hc : p c) (text : List Char) :
    ∀ d ∈ (c :: text).head?, p d := by
  rintro _ ⟨⟩
  exact hc

theorem of_joins (h : joins c) : c.isDigit = false ∧ sameLetter 'e' c = false ∧
    sameLetter 's' c = false ∧ sameLetter 'x' c = false := by
  simp only [joins, List.contains_eq_mem, decide_eq_true_eq, List.mem_cons, List.not_mem_nil,
    or_false] at h
  rcases h with rfl | rfl | rfl | rfl <;> decide

theorem joins_of_contains (h : ['+', ',', '.'].contains c) : joins c :=
  List.contains_iff_mem.mpr (List.mem_cons_of_mem _ (List.contains_iff_mem.mp h))

theorem isJoiner_nil : IsJoiner [] := by simp [IsJoiner]

theorem isJoiner_singleton (h : joins c) : IsJoiner [c] := by simp [IsJoiner, h]

theorem not_joins (h : c.isDigit ∨ sameLetter 's' c) : joins c = false := by
  by_contra hjoins
  rw [Bool.not_eq_false] at hjoins
  obtain ⟨hdigit, -, hs, -⟩ := of_joins hjoins
  simp [hdigit, hs] at h

/-- A character stands for one of the letters of markers at most. -/
theorem not_sameLetter {letter other : Char} (h : sameLetter letter c)
    (hne : sameLetter letter other = false) : sameLetter other c = false := by
  by_contra hother
  rw [Bool.not_eq_false] at hother
  rw [Text.sameLetter_of_both h hother] at hne
  cases hne

end Chars

/-! ### One way to read -/

section Unique

variable {season season' episode episode' edge edge' rest rest' : List Char} {m m' : Char}

theorem IsEdge.unique (h : IsEdge edge rest) (h' : IsEdge edge' rest')
    (heq : edge ++ rest = edge' ++ rest') : edge = edge' := by
  rcases h with ⟨c, -, rfl⟩ | ⟨rfl, rfl⟩ <;> rcases h' with ⟨c', -, rfl⟩ | ⟨rfl, rfl⟩
  · rw [(List.cons.inj heq).1]
  · cases heq
  · cases heq
  · rfl

/-- A season and an episode with a character between them can be read in one way. -/
theorem numbers_unique (hseason : AsciiDigits season) (hseason' : AsciiDigits season')
    (hm : m.isDigit = false) (hm' : m'.isDigit = false) (hepisode : AsciiDigits episode)
    (hepisode' : AsciiDigits episode') (hrest : ∀ c ∈ rest.head?, c.isDigit = false)
    (hrest' : ∀ c ∈ rest'.head?, c.isDigit = false)
    (h : season ++ m :: (episode ++ rest) = season' ++ m' :: (episode' ++ rest')) :
    season = season' ∧ m = m' ∧ episode = episode' ∧ rest = rest' := by
  obtain ⟨rfl, hback⟩ := Text.run_unique hseason.2 hseason'.2 (forall_head?_cons hm _)
    (forall_head?_cons hm' _) h
  obtain ⟨rfl, htail⟩ := List.cons.inj hback
  obtain ⟨rfl, rfl⟩ := Text.run_unique hepisode.2 hepisode'.2 hrest hrest' htail
  exact ⟨rfl, rfl, rfl, rfl⟩

end Unique

/-! ### Where a marker begins -/

section Begins

variable {front season digits edge rest : List Char} {e s x c : Char}

theorem preferred?_trailingEpisodeNode (he : sameLetter 'e' e) (hdigits : AsciiDigits digits)
    (hrest : ∀ c ∈ rest.head?, c.isDigit = false) :
    trailingEpisodeNode.preferred? [] (Trace.text (numberTrace [e] digits []) ++ rest) =
      some (numberTrace [e] digits []) := by
  refine Node.preferred?_of_unique (reads_trailingEpisodeNode.mpr ⟨e, digits, he, hdigits, rfl⟩)
    fun _ behind htext hreads hother => ?_
  obtain ⟨e', digits', -, hdigits', rfl⟩ := reads_trailingEpisodeNode.mp hreads
  -- the digits of any match end where those of this one do
  have hstop := Node.preferred?_stops [.letter 'e'] hother
  have heq : e :: (digits ++ rest) = e' :: (digits' ++ behind) := by simpa using htext
  obtain ⟨rfl, hback⟩ := List.cons.inj heq
  obtain ⟨rfl, -⟩ := Text.run_unique hdigits.2 hdigits'.2 hrest hstop hback
  rfl

theorem preferred?_pair (before : List Char) (hs : sameLetter 's' s) (hseason : AsciiDigits season)
    (he : sameLetter 'e' e) (hdigits : AsciiDigits digits)
    (hrest : ∀ c ∈ rest.head?, c.isDigit = false) :
    (seasonEpisodeNode .empty).preferred? before
      (Trace.text (numbersTrace [s] season [e] digits []) ++ rest) =
        some (numbersTrace [s] season [e] digits []) := by
  refine Node.preferred?_of_unique
    (reads_pair.mpr ⟨s, season, e, digits, hs, hseason, he, hdigits, rfl⟩)
    fun _ behind htext hreads hother => ?_
  obtain ⟨s', season', e', digits', -, hseason', he', hdigits', rfl⟩ := reads_pair.mp hreads
  have hstop := Node.preferred?_stops
    [.letter 's', seasonGroup (.plus Char.isDigit), .empty, .letter 'e'] hother
  have heq : s :: (season ++ e :: (digits ++ rest)) =
      s' :: (season' ++ e' :: (digits' ++ behind)) := by
    simpa using htext
  obtain ⟨rfl, hback⟩ := List.cons.inj heq
  obtain ⟨rfl, rfl, rfl, -⟩ := numbers_unique hseason hseason'
    (Text.isDigit_of_sameLetter (by decide) he) (Text.isDigit_of_sameLetter (by decide) he')
    hdigits hdigits' hrest hstop hback
  rfl

theorem preferred?_joinedPair (hfront : IsJoiner front) (hs : sameLetter 's' s)
    (hseason : AsciiDigits season) (he : sameLetter 'e' e) (hdigits : AsciiDigits digits)
    (hrest : ∀ c ∈ rest.head?, c.isDigit = false) :
    (Node.seq joiner (seasonEpisodeNode .empty)).preferred? []
      (Trace.text (numbersTrace (front ++ [s]) season [e] digits []) ++ rest) =
        some (numbersTrace (front ++ [s]) season [e] digits []) := by
  refine Node.preferred?_of_unique
    (reads_joinedPair.mpr ⟨front, s, season, e, digits, hfront, hs, hseason, he, hdigits, rfl⟩)
    fun _ behind htext hreads hother => ?_
  obtain ⟨front', s', season', e', digits', hfront', hs', hseason', he', hdigits', rfl⟩ :=
    reads_joinedPair.mp hreads
  have hstop := Node.preferred?_stops
    [joiner, .letter 's', seasonGroup (.plus Char.isDigit), .empty, .letter 'e'] hother
  have heq : front ++ s :: (season ++ e :: (digits ++ rest)) =
      front' ++ s' :: (season' ++ e' :: (digits' ++ behind)) := by simpa using htext
  -- no letter S joins, so the joiner ends in front of the first one
  obtain ⟨rfl, hpair⟩ := Text.run_unique hfront.2 hfront'.2
    (forall_head?_cons (not_joins (.inr hs)) _) (forall_head?_cons (not_joins (.inr hs')) _) heq
  obtain ⟨rfl, hback⟩ := List.cons.inj hpair
  obtain ⟨rfl, rfl, rfl, -⟩ := numbers_unique hseason hseason'
    (Text.isDigit_of_sameLetter (by decide) he) (Text.isDigit_of_sameLetter (by decide) he')
    hdigits hdigits' hrest hstop hback
  rfl

theorem isDigit_head?_append (hseason : AsciiDigits season) (rest : List Char) :
    ∀ c ∈ (season ++ rest).head?, c.isDigit := by
  intro c hc
  rw [List.head?_append_of_ne_nil season hseason.1] at hc
  exact hseason.2 c (List.mem_of_mem_head? hc)

theorem not_joins_head?_append (hseason : AsciiDigits season) (rest : List Char) :
    ∀ c ∈ (season ++ rest).head?, joins c = false :=
  fun c hc => not_joins (.inl (isDigit_head?_append hseason rest c hc))

theorem preferred?_joinedCross (hfront : IsJoiner front) (hseason : AsciiDigits season)
    (hshort : season.length ≤ 2) (hx : sameLetter 'x' x) (hdigits : AsciiDigits digits)
    (hshort' : digits.length ≤ 3) (hedge : IsEdge edge rest) :
    (Node.seq joiner crossNode).preferred? []
      (Trace.text (numbersTrace front season [x] digits edge) ++ rest) =
        some (numbersTrace front season [x] digits edge) := by
  -- the boundary keeps the digits from ending early, so greed plays no part here
  refine Node.preferred?_of_unique (reads_joinedCross.mpr
    ⟨front, season, x, digits, edge, hfront, hseason, hshort, hx, hdigits, hshort', hedge, rfl⟩)
    fun _ behind htext hreads _ => ?_
  obtain ⟨front', season', x', digits', edge', hfront', hseason', -, hx', hdigits', -, hedge',
    rfl⟩ := reads_joinedCross.mp hreads
  have heq : front ++ (season ++ x :: (digits ++ (edge ++ rest))) =
      front' ++ (season' ++ x' :: (digits' ++ (edge' ++ behind))) := by simpa using htext
  obtain ⟨rfl, hcross⟩ := Text.run_unique hfront.2 hfront'.2
    (not_joins_head?_append hseason _) (not_joins_head?_append hseason' _) heq
  obtain ⟨rfl, rfl, rfl, hback⟩ := numbers_unique hseason hseason'
    (Text.isDigit_of_sameLetter (by decide) hx) (Text.isDigit_of_sameLetter (by decide) hx')
    hdigits hdigits' hedge.isDigit_head? hedge'.isDigit_head? hcross
  rw [hedge.unique hedge' hback]

theorem preferred?_trailingNumberNode (hc : ['+', ',', '.'].contains c)
    (hdigits : AsciiDigits digits) (hlength : digits.length = 2) (hedge : IsEdge edge rest) :
    trailingNumberNode.preferred? [] (Trace.text (numberTrace [c] digits edge) ++ rest) =
      some (numberTrace [c] digits edge) := by
  refine Node.preferred?_of_unique
    (reads_trailingNumberNode.mpr ⟨c, digits, edge, hc, hdigits, hlength, hedge, rfl⟩)
    fun _ behind htext hreads _ => ?_
  obtain ⟨c', digits', edge', -, hdigits', -, hedge', rfl⟩ := reads_trailingNumberNode.mp hreads
  have heq : c :: (digits ++ (edge ++ rest)) = c' :: (digits' ++ (edge' ++ behind)) := by
    simpa using htext
  obtain ⟨rfl, hnumber⟩ := List.cons.inj heq
  obtain ⟨rfl, hback⟩ := Text.run_unique hdigits.2 hdigits'.2 hedge.isDigit_head?
    hedge'.isDigit_head? hnumber
  rw [hedge.unique hedge' hback]

end Begins

/-! ### Where no marker begins -/

section Fails

variable {text front digits rest : List Char}

theorem trailingEpisodeNode_eq_none (h : ∀ c ∈ text.head?, sameLetter 'e' c = false) :
    trailingEpisodeNode.preferred? [] text = none := by
  refine Node.preferred?_eq_none fun _ behind htext hreads => ?_
  obtain ⟨e, digits, he, -, rfl⟩ := reads_trailingEpisodeNode.mp hreads
  rw [htext] at h
  rw [h e (by simp)] at he
  cases he

theorem joinedPair_eq_none (hfront : IsJoiner front)
    (h : ∀ c ∈ rest.head?, joins c = false ∧ sameLetter 's' c = false) :
    (Node.seq joiner (seasonEpisodeNode .empty)).preferred? [] (front ++ rest) = none := by
  refine Node.preferred?_eq_none fun _ behind htext hreads => ?_
  obtain ⟨front', s, season, e, digits, hfront', hs, -, -, -, rfl⟩ := reads_joinedPair.mp hreads
  have heq : front ++ rest = front' ++ s :: (season ++ e :: (digits ++ behind)) := by
    simpa using htext
  obtain ⟨-, rfl⟩ := Text.run_unique hfront.2 hfront'.2 (fun c hc => (h c hc).1)
    (forall_head?_cons (not_joins (.inr hs)) _) heq
  rw [(h s rfl).2] at hs
  cases hs

/-- A number is no season with the letter S. -/
theorem joinedPair_eq_none_of_digits {c : Char} (hc : joins c) (hdigits : AsciiDigits digits)
    (rest : List Char) :
    (Node.seq joiner (seasonEpisodeNode .empty)).preferred? [] (c :: (digits ++ rest)) = none := by
  refine @joinedPair_eq_none [c] (digits ++ rest) (isJoiner_singleton hc) fun d hd => ?_
  have hdigit := isDigit_head?_append hdigits rest d hd
  exact ⟨not_joins (.inl hdigit), Text.not_sameLetter_of_isDigit (by decide) hdigit⟩

theorem joinedCross_eq_none (hfront : IsJoiner front) (hdigits : ∀ c ∈ digits, c.isDigit)
    (hjoins : ∀ c ∈ (digits ++ rest).head?, joins c = false) (hrest : EndsNumber rest) :
    (Node.seq joiner crossNode).preferred? [] (front ++ (digits ++ rest)) = none := by
  refine Node.preferred?_eq_none fun _ behind htext hreads => ?_
  obtain ⟨front', season, x, episode, edge, hfront', hseason, -, hx, -, -, -, rfl⟩ :=
    reads_joinedCross.mp hreads
  have heq : front ++ (digits ++ rest) =
      front' ++ (season ++ x :: (episode ++ (edge ++ behind))) := by simpa using htext
  obtain ⟨-, hback⟩ := Text.run_unique hfront.2 hfront'.2 hjoins
    (not_joins_head?_append hseason _) heq
  obtain ⟨-, rfl⟩ := Text.run_unique hdigits hseason.2 (fun c hc => (hrest c hc).1)
    (forall_head?_cons (Text.isDigit_of_sameLetter (by decide) hx) _) hback
  rw [(hrest x rfl).2] at hx
  cases hx

theorem trailingNumberNode_eq_none (h : ∀ c ∈ text.head?, joins c = false) :
    trailingNumberNode.preferred? [] text = none := by
  refine Node.preferred?_eq_none fun _ behind htext hreads => ?_
  obtain ⟨c, digits, edge, hc, -, -, -, rfl⟩ := reads_trailingNumberNode.mp hreads
  rw [htext] at h
  have hjoins := h c (by simp)
  rw [joins_of_contains hc] at hjoins
  cases hjoins

end Fails

/-! ### Reading a marker -/

section Next

variable {season episode : UInt32} {text front rest : List Char}

/-- No marker but that of the letter E alone starts with that letter. -/
theorem not_sameLetter_head?_append (hfront : IsJoiner front)
    (h : ∀ c ∈ rest.head?, sameLetter 'e' c = false) :
    ∀ c ∈ (front ++ rest).head?, sameLetter 'e' c = false := by
  cases front with
  | nil => exact h
  | cons d front => exact forall_head?_cons (of_joins (hfront.2 d List.mem_cons_self)).2.1 _

/-- A number in front of a marker ends there. -/
theorem Marks.endsNumber (h : Marks season text episode) (rest : List Char) :
    EndsNumber (text ++ rest) := by
  have hjoins {c : Char} (hc : joins c) (text : List Char) : EndsNumber (c :: text) :=
    forall_head?_cons ⟨(of_joins hc).1, (of_joins hc).2.2.2⟩ text
  have hletter {letter c : Char} (hdigit : letter.isDigit = false)
      (hx : sameLetter letter 'x' = false) (hc : sameLetter letter c) (text : List Char) :
      EndsNumber (c :: text) :=
    forall_head?_cons ⟨Text.isDigit_of_sameLetter hdigit hc, not_sameLetter hc hx⟩ text
  cases h with
  | letter he => exact hletter (by decide) (by decide) he _
  | cross hc => exact hjoins hc _
  | number hc => exact hjoins (joins_of_contains hc) _
  | @pair front _ _ _ _ hfront hpair =>
    obtain ⟨hs, -⟩ := hpair
    cases front with
    | nil => exact hletter (by decide) (by decide) hs _
    | cons d front => exact hjoins (hfront.2 d List.mem_cons_self) _

/-! The expressions of the forms are tried one after the other. Those in front of the form that a
marker has fail at its first characters. -/

variable {digits seasonDigits : List Char} {c e s x : Char}

theorem nextEpisode?_letter (he : sameLetter 'e' e) (hepisode : Numeral digits episode)
    (hrest : EndsNumber rest) :
    nextEpisode? season (e :: digits ++ rest) = some (episode, rest) := by
  have hnumber : numberAtStart? trailingEpisodeNode (e :: digits ++ rest) =
      some (episode, rest) := by
    simpa using numberAtStart?_of_preferred?
      (preferred?_trailingEpisodeNode he hepisode.digits fun c hc => (hrest c hc).1) hepisode
  rw [nextEpisode?, hnumber]

theorem nextEpisode?_pair (hfront : IsJoiner front) (hs : sameLetter 's' s)
    (he : sameLetter 'e' e) (hseason : Numeral seasonDigits season)
    (hepisode : Numeral digits episode) (hrest : EndsNumber rest) :
    nextEpisode? season (front ++ (s :: (seasonDigits ++ e :: digits) ++ rest)) =
      some (episode, rest) := by
  have hletter : numberAtStart? trailingEpisodeNode
      (front ++ (s :: (seasonDigits ++ e :: digits) ++ rest)) = none :=
    numberAtStart?_eq_none (trailingEpisodeNode_eq_none (not_sameLetter_head?_append hfront
      (forall_head?_cons (not_sameLetter hs (by decide)) _)))
  have hhit : hitAtStart? (.seq joiner (seasonEpisodeNode .empty))
      (front ++ (s :: (seasonDigits ++ e :: digits) ++ rest)) =
        some ⟨season, episode, [], rest⟩ := by
    simpa using hitAtStart?_of_preferred? (preferred?_joinedPair hfront hs hseason.digits he
      hepisode.digits fun c hc => (hrest c hc).1) hseason hepisode
  rw [nextEpisode?, hletter, trailingPair?, hhit, Option.some_or]
  exact if_pos rfl

theorem nextEpisode?_cross (hc : joins c) (hseason : Numeral seasonDigits season)
    (hshort : seasonDigits.length ≤ 2) (hx : sameLetter 'x' x) (hepisode : Numeral digits episode)
    (hshort' : digits.length ≤ 3) (hrest : EndsNumber rest) :
    nextEpisode? season (c :: (seasonDigits ++ (x :: digits ++ rest))) = some (episode, rest) := by
  have hletter : numberAtStart? trailingEpisodeNode
      (c :: (seasonDigits ++ (x :: digits ++ rest))) = none :=
    numberAtStart?_eq_none (trailingEpisodeNode_eq_none (forall_head?_cons (of_joins hc).2.1 _))
  have hpair : hitAtStart? (.seq joiner (seasonEpisodeNode .empty))
      (c :: (seasonDigits ++ (x :: digits ++ rest))) = none :=
    hitAtStart?_eq_none (joinedPair_eq_none_of_digits hc hseason.digits _)
  have hhit : hitAtStart? (.seq joiner crossNode) (c :: (seasonDigits ++ (x :: digits ++ rest))) =
      some ⟨season, episode, [], rest⟩ := by
    obtain ⟨edge, after, rfl, hedge⟩ := exists_isEdge fun c hc => (hrest c hc).1
    simpa using hitAtStart?_of_preferred? (preferred?_joinedCross (isJoiner_singleton hc)
      hseason.digits hshort hx hepisode.digits hshort' hedge) hseason hepisode
  rw [nextEpisode?, hletter, trailingPair?, hpair, Option.none_or, hhit]
  exact if_pos rfl

theorem nextEpisode?_number (hc : ['+', ',', '.'].contains c) (hepisode : Numeral digits episode)
    (hlength : digits.length = 2) (hrest : EndsNumber rest) :
    nextEpisode? season (c :: (digits ++ rest)) = some (episode, rest) := by
  have hjoins := joins_of_contains hc
  have hletter : numberAtStart? trailingEpisodeNode (c :: (digits ++ rest)) = none :=
    numberAtStart?_eq_none (trailingEpisodeNode_eq_none
      (forall_head?_cons (of_joins hjoins).2.1 _))
  have hpair : hitAtStart? (.seq joiner (seasonEpisodeNode .empty)) (c :: (digits ++ rest)) =
      none :=
    hitAtStart?_eq_none (joinedPair_eq_none_of_digits hjoins hepisode.digits _)
  have hcross : hitAtStart? (.seq joiner crossNode) (c :: (digits ++ rest)) = none :=
    hitAtStart?_eq_none (@joinedCross_eq_none [c] digits rest (isJoiner_singleton hjoins)
      hepisode.digits.2 (not_joins_head?_append hepisode.digits _) hrest)
  have hnumber : numberAtStart? trailingNumberNode (c :: (digits ++ rest)) =
      some (episode, rest) := by
    obtain ⟨edge, after, rfl, hedge⟩ := exists_isEdge fun c hc => (hrest c hc).1
    simpa using numberAtStart?_of_preferred?
      (preferred?_trailingNumberNode hc hepisode.digits hlength hedge) hepisode
  rw [nextEpisode?, hletter, trailingPair?, hpair, hcross]
  exact hnumber

/-- A marker is read as its episode, and all of it, if the last number ends behind it. -/
theorem nextEpisode?_of_marks (h : Marks season text episode) (hrest : EndsNumber rest) :
    nextEpisode? season (text ++ rest) = some (episode, rest) := by
  cases h with
  | letter he hepisode => exact nextEpisode?_letter he hepisode hrest
  | pair hfront hpair hseason hepisode =>
    obtain ⟨hs, he⟩ := hpair
    rw [List.append_assoc]
    exact nextEpisode?_pair hfront hs he hseason hepisode hrest
  | cross hc hseason hshort hx hepisode hshort' =>
    rw [List.cons_append, List.append_assoc]
    exact nextEpisode?_cross hc hseason hshort hx hepisode hshort' hrest
  | number hc hepisode hlength => exact nextEpisode?_number hc hepisode hlength hrest

/-- Where no marker begins, none is read. -/
theorem nextEpisode?_of_isOver (h : IsOver text) : nextEpisode? season text = none := by
  have hletter : numberAtStart? trailingEpisodeNode text = none :=
    numberAtStart?_eq_none (trailingEpisodeNode_eq_none fun c hc => (h c hc).2.2.1)
  have hpair : hitAtStart? (.seq joiner (seasonEpisodeNode .empty)) text = none :=
    hitAtStart?_eq_none (joinedPair_eq_none isJoiner_nil
      fun c hc => ⟨(h c hc).2.1, (h c hc).2.2.2.1⟩)
  have hcross : hitAtStart? (.seq joiner crossNode) text = none :=
    hitAtStart?_eq_none (@joinedCross_eq_none [] [] text isJoiner_nil (by simp)
      (fun c hc => (h c hc).2.1) fun c hc => ⟨(h c hc).1, (h c hc).2.2.2.2⟩)
  have hnumber : numberAtStart? trailingNumberNode text = none :=
    numberAtStart?_eq_none (trailingNumberNode_eq_none fun c hc => (h c hc).2.1)
  rw [nextEpisode?, hletter, trailingPair?, hpair, hcross]
  exact hnumber

end Next

end MediaShelf.Pattern
