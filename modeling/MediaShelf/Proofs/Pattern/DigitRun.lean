import MediaShelf.Pattern.Heuristic
import MediaShelf.Proofs.Sorting
import MediaShelf.Proofs.Text.Numeral
import MediaShelf.Proofs.Text.Split

/-!
# Runs of digits that stand alone

Numbers without any letters are told from other numbers in a name by what stands around them. Which
of them decides depends on all of them together.

## Main definitions

* `DigitRun.IsIn`, `DigitRun.StandsAlone` — longest runs of digits in a name, and those among them
  that have delimiters around them
* `DigitRun.IsFourDigits`, `DigitRun.IsThreeDigits` — runs that may be read as season and episode
* `DigitRun.IsFirst` — the first of the runs that count
* `DigitRun.recognised` — what is read of a run
* `Heuristic.LooksFor` — a heuristic that looks for runs that stand alone

## Main results

* `DigitRun.mem_digitRunsAfter` — the runs that are found are the longest runs of the name
* `DigitRun.isPlausible_iff` — when a run is plausible beside the others
* `Heuristic.LooksFor.exists_isFirst` — such a heuristic reads the first of the runs that count
* `recognise?_digitRun` — the run that decides
-/

namespace MediaShelf.Pattern

variable {name before text : List Char} {run other : DigitRun}

namespace DigitRun

/-! ### The runs of a name -/

/-- A longest run of digits in a name. -/
structure IsIn (name : List Char) (run : DigitRun) : Prop where
  text : run.before ++ (run.digits ++ run.rest) = name
  digits : Text.AsciiDigits run.digits
  notBefore : ∀ c ∈ run.before.getLast?, c.isDigit = false
  notBehind : ∀ c ∈ run.rest.head?, c.isDigit = false

/-- Two runs in the same place are the same. -/
theorem IsIn.eq_of_length (h : run.IsIn name) (hother : other.IsIn name)
    (hlength : run.before.length = other.before.length) : run = other := by
  obtain ⟨hbefore, hbehind⟩ := List.append_inj (h.text.trans hother.text.symm) hlength
  obtain ⟨hdigits, hrest⟩ := Text.run_unique h.digits.2 hother.digits.2 h.notBehind
    hother.notBehind hbehind
  cases run
  cases other
  simp_all

/-- The run that starts between two texts, if there is one. -/
theorem isIn_at_iff :
    run.IsIn (before.reverse ++ text) ∧ run.before.length = before.length ↔
      ((∃ c ∈ text.head?, c.isDigit) ∧ ∀ c ∈ before.head?, c.isDigit = false) ∧
        run = ⟨before.reverse, text.takeWhile Char.isDigit, text.dropWhile Char.isDigit⟩ := by
  constructor
  · rintro ⟨h, hlength⟩
    obtain ⟨hbefore, rfl⟩ := List.append_inj h.text (by rw [hlength, List.length_reverse])
    obtain ⟨c, digits, hdigits⟩ := List.exists_cons_of_ne_nil h.digits.1
    have hc : c.isDigit := h.digits.2 c (by simp [hdigits])
    have hnotBefore := h.notBefore
    rw [hbefore, List.getLast?_reverse] at hnotBefore
    refine ⟨⟨⟨c, by simp [hdigits], hc⟩, hnotBefore⟩, ?_⟩
    rw [Text.takeWhile_append_of_head h.digits.2 h.notBehind,
      Text.dropWhile_append_of_head h.digits.2 h.notBehind, ← hbefore]
  · rintro ⟨⟨⟨c, hfirst, hc⟩, hbefore⟩, rfl⟩
    obtain ⟨rest, rfl⟩ := List.head?_eq_some_iff.mp hfirst
    refine ⟨⟨by simp, ⟨?_, List.all_eq_true.mp List.all_takeWhile⟩, ?_, ?_⟩, by simp⟩
    · simp [hc]
    · simpa using hbefore
    · intro d hd
      have hnot := List.head?_dropWhile_not Char.isDigit (c :: rest)
      rw [hd] at hnot
      simpa using hnot

/-- The runs that are found in a text behind others are those that start there. -/
theorem mem_digitRunsAfter :
    run ∈ digitRunsAfter before text ↔
      run.IsIn (before.reverse ++ text) ∧ before.length ≤ run.before.length := by
  induction text generalizing before with
  | nil =>
    constructor
    · intro h
      cases h
    · rintro ⟨h, hle⟩
      have hlength := congrArg List.length h.text
      have hpos := List.length_pos_iff.mpr h.digits.1
      simp only [List.length_append, List.length_reverse, List.append_nil] at hlength
      omega
  | cons c rest ih =>
    have hlater : run ∈ digitRunsAfter (c :: before) rest ↔
        run.IsIn (before.reverse ++ c :: rest) ∧ before.length < run.before.length := by
      have h := @ih (c :: before)
      rw [List.reverse_cons, List.append_assoc] at h
      exact h
    have hhere : run.IsIn (before.reverse ++ c :: rest) ∧ run.before.length = before.length ↔ _ :=
      isIn_at_iff
    have hstarts : (c.isDigit && !before.head?.any Char.isDigit) = true ↔
        (∃ d ∈ (c :: rest).head?, d.isDigit) ∧ ∀ d ∈ before.head?, d.isDigit = false := by
      cases before <;> simp
    -- a run starts here or further on
    rw [Nat.le_iff_lt_or_eq, and_or_left, ← hlater, eq_comm (a := before.length), hhere,
      digitRunsAfter, ← hstarts]
    split
    · next h => simp [h, or_comm]
    · next h => simp [h]

/-- Runs are found in the order in which they stand in the name. -/
theorem pairwise_digitRunsAfter (before text : List Char) :
    (digitRunsAfter before text).Pairwise fun a b => a.before.length < b.before.length := by
  induction text generalizing before with
  | nil => exact .nil
  | cons c rest ih =>
    rw [digitRunsAfter]
    split
    · refine List.pairwise_cons.mpr ⟨fun run hrun => ?_, ih (c :: before)⟩
      have hlater : before.length < run.before.length := (mem_digitRunsAfter.mp hrun).2
      simpa using hlater
    · exact ih (c :: before)

/-! ### Runs that stand alone -/

/-- The run has delimiters around it, or an end of the name. So it is a longest run. -/
structure StandsAlone (name : List Char) (run : DigitRun) : Prop where
  text : run.before ++ (run.digits ++ run.rest) = name
  digits : Text.AsciiDigits run.digits
  before : ∀ c ∈ run.before.getLast?, c ∈ ['.', ' ', '-', '_']
  behind : ∀ c ∈ run.rest.head?, c ∈ ['.', ' ', '-', '_']

theorem isDelimiter_iff {c : Char} : isDelimiter c ↔ c ∈ ['.', ' ', '-', '_'] := by
  simp [isDelimiter, or_assoc]

theorem isDigit_of_isDelimiter {c : Char} (h : c ∈ ['.', ' ', '-', '_']) : c.isDigit = false := by
  simp only [List.mem_cons, List.not_mem_nil, or_false] at h
  rcases h with rfl | rfl | rfl | rfl <;> rfl

theorem StandsAlone.isIn (h : run.StandsAlone name) : run.IsIn name :=
  ⟨h.text, h.digits, fun c hc => isDigit_of_isDelimiter (h.before c hc),
    fun c hc => isDigit_of_isDelimiter (h.behind c hc)⟩

/-- The runs of a name that stand alone, in their order. -/
def standing (name : List Char) : List DigitRun :=
  (digitRunsAfter [] name).filter standsAlone

theorem mem_standing : run ∈ standing name ↔ run.StandsAlone name := by
  have halone : run.standsAlone ↔ (∀ c ∈ run.before.getLast?, c ∈ ['.', ' ', '-', '_']) ∧
      ∀ c ∈ run.rest.head?, c ∈ ['.', ' ', '-', '_'] := by
    simp only [standsAlone, Bool.and_eq_true, Option.all_eq_true, isDelimiter_iff]
    rfl
  rw [standing, List.mem_filter, mem_digitRunsAfter, halone]
  constructor
  · rintro ⟨⟨h, -⟩, hbefore, hbehind⟩
    exact ⟨h.text, h.digits, hbefore, hbehind⟩
  · intro h
    exact ⟨⟨h.isIn, Nat.zero_le _⟩, h.before, h.behind⟩

theorem pairwise_standing (name : List Char) :
    (standing name).Pairwise fun a b => a.before.length < b.before.length :=
  (pairwise_digitRunsAfter [] name).filter _

/-! ### Runs that may decide -/

/-- The digits could be a year. -/
def IsYearLike (run : DigitRun) : Prop := ['1', '9'] <+: run.digits ∨ ['2', '0'] <+: run.digits

/-- Another run of three or four digits stands alone in the name. -/
def HasAlternative (name : List Char) (run : DigitRun) : Prop :=
  ∃ other : DigitRun, other.StandsAlone name ∧ other ≠ run ∧
    (other.digits.length = 3 ∨ other.digits.length = 4)

/-- Four digits that may be read as season and episode: the episode is not `00`, and they are no
year beside another run. -/
structure IsFourDigits (name : List Char) (run : DigitRun) : Prop
    extends run.StandsAlone name where
  four : run.digits.length = 4
  notZero : ¬['0', '0'] <:+ run.digits
  notYear : ¬(run.IsYearLike ∧ run.HasAlternative name)

/-- Three digits that may be read so: the episode is not `00`. -/
structure IsThreeDigits (name : List Char) (run : DigitRun) : Prop
    extends run.StandsAlone name where
  three : run.digits.length = 3
  notZero : ¬['0', '0'] <:+ run.digits

theorem hasAlternative_iff (h : run.StandsAlone name) :
    ((standing name).any fun other => other.before.length != run.before.length &&
      3 ≤ other.digits.length && other.digits.length ≤ 4) ↔ run.HasAlternative name := by
  simp only [List.any_eq_true, Bool.and_eq_true, bne_iff_ne, decide_eq_true_eq, HasAlternative,
    mem_standing, and_assoc]
  refine exists_congr fun other => and_congr_right fun hother => and_congr ?_ (by omega)
  -- there is one run only in a place
  exact not_congr ⟨hother.isIn.eq_of_length h.isIn, fun heq => heq ▸ rfl⟩

/-- Whether a run is plausible beside those of a name. -/
theorem isPlausible_iff (h : run.StandsAlone name) :
    run.isPlausible (standing name) ↔
      ¬['0', '0'] <:+ run.digits ∧
        ¬(run.digits.length = 4 ∧ run.IsYearLike ∧ run.HasAlternative name) := by
  have hyear : run.looksLikeYear ↔ run.IsYearLike := by simp [looksLikeYear, IsYearLike]
  simp only [isPlausible, Bool.and_eq_true, Bool.not_eq_true', ← Bool.not_eq_true, beq_iff_eq,
    List.isSuffixOf_iff_suffix, hyear, hasAlternative_iff h, and_assoc]

/-- Whether a run has a size and is plausible beside those of a name. -/
def fits (name : List Char) (size : Nat) (run : DigitRun) : Bool :=
  run.digits.length == size && run.isPlausible (standing name)

/-- The hit is read of the run that a search of the runs that stand alone finds. -/
theorem digitRunHit?_eq (name : List Char) (size : Nat) :
    digitRunHit? name size = ((standing name).find? (fits name size)).bind (·.hit?) := by
  rw [digitRunHit?, List.find?_filter]
  congr 2
  funext run
  rw [Bool.eq_iff_iff]
  simp [fits, standing]

theorem isFourDigits_iff : run.IsFourDigits name ↔ run.StandsAlone name ∧ run.fits name 4 := by
  rw [fits, Bool.and_eq_true, beq_iff_eq]
  constructor
  · intro h
    exact ⟨h.toStandsAlone, h.four,
      (isPlausible_iff h.toStandsAlone).mpr ⟨h.notZero, fun hyear => h.notYear hyear.2⟩⟩
  · rintro ⟨halone, hfour, hplausible⟩
    obtain ⟨hzero, hyear⟩ := (isPlausible_iff halone).mp hplausible
    exact ⟨halone, hfour, hzero, fun h => hyear ⟨hfour, h⟩⟩

theorem isThreeDigits_iff : run.IsThreeDigits name ↔ run.StandsAlone name ∧ run.fits name 3 := by
  rw [fits, Bool.and_eq_true, beq_iff_eq]
  constructor
  · intro h
    have hsize : run.digits.length ≠ 4 := by rw [h.three]; decide
    exact ⟨h.toStandsAlone, h.three,
      (isPlausible_iff h.toStandsAlone).mpr ⟨h.notZero, fun hyear => hsize hyear.1⟩⟩
  · rintro ⟨halone, hthree, hplausible⟩
    exact ⟨halone, hthree, ((isPlausible_iff halone).mp hplausible).1⟩

/-- What is read of a run after a heuristic: the first digits, as many as it says, are the season,
the others the episode, and the text in front of the run is the term. -/
def recognised (h : Heuristic) (seasonDigits : Nat) (run : DigitRun) : Recognised where
  heuristic := h
  season := (Nat.ofDigitChars 10 (run.digits.take seasonDigits) 0).toUInt32
  episodes := [(Nat.ofDigitChars 10 (run.digits.drop seasonDigits) 0).toUInt32]
  term := if (Text.cleanSeparators run.before).isEmpty then none
    else some (Text.cleanSeparators run.before)

/-- The first of the runs that count. -/
def IsFirst (counts : DigitRun → Prop) (run : DigitRun) : Prop :=
  counts run ∧ ∀ other, counts other → run.before.length ≤ other.before.length

/-- Up to nine digits of which the last two are the episode are read as such. -/
theorem hit?_of_length {size : Nat} (hdigits : Text.AsciiDigits run.digits) (hpos : 0 < size)
    (hsize : size ≤ 7) (hlength : run.digits.length = size + 2) :
    run.hit? = some ⟨(Nat.ofDigitChars 10 (run.digits.take size) 0).toUInt32,
      (Nat.ofDigitChars 10 (run.digits.drop size) 0).toUInt32, run.before, run.rest⟩ := by
  have hseason : Text.AsciiDigits (run.digits.take size) := by
    refine ⟨?_, fun c hc => hdigits.2 c (List.mem_of_mem_take hc)⟩
    rw [← List.length_pos_iff, List.length_take]
    omega
  have hepisode : Text.AsciiDigits (run.digits.drop size) := by
    refine ⟨?_, fun c hc => hdigits.2 c (List.mem_of_mem_drop hc)⟩
    rw [← List.length_pos_iff, List.length_drop]
    omega
  have hread := (Text.numeral_of_length_le hseason (by rw [List.length_take]; omega)).readWord?
  have hreadBehind :=
    (Text.numeral_of_length_le hepisode (by rw [List.length_drop]; omega)).readWord?
  rw [hit?, hlength, Nat.add_sub_cancel, hread, hreadBehind]
  rfl

end DigitRun

/-! ### The heuristics -/

open DigitRun

namespace Heuristic

variable {h : Heuristic} {size : Nat} {counts : DigitRun → Prop} {found : Recognised}

/-- A heuristic that looks for runs that stand alone, have two digits more than the season and are
plausible. -/
structure LooksFor (h : Heuristic) (name : List Char) (size : Nat) (counts : DigitRun → Prop) :
    Prop where
  hit?_eq : h.hit? name = digitRunHit? name (size + 2)
  scansTrailing_eq : h.scansTrailing = false
  digits : 0 < size ∧ size ≤ 7
  counts_iff : ∀ run, counts run ↔ run.StandsAlone name ∧ run.fits name (size + 2)

theorem looksFor_fourDigits (name : List Char) :
    fourDigits.LooksFor name 2 (IsFourDigits name) :=
  ⟨rfl, rfl, by decide, fun _ => isFourDigits_iff⟩

theorem looksFor_threeDigits (name : List Char) :
    threeDigits.LooksFor name 1 (IsThreeDigits name) :=
  ⟨rfl, rfl, by decide, fun _ => isThreeDigits_iff⟩

namespace LooksFor

/-- If there are runs that count, the first of them is read. -/
theorem exists_isFirst (hlooks : h.LooksFor name size counts) (hsome : ∃ run, counts run) :
    ∃ run, IsFirst counts run ∧ h.recognise? name = some (run.recognised h size) := by
  have hcounts : ∀ run, counts run ↔ run ∈ standing name ∧ run.fits name (size + 2) := by
    intro run
    rw [hlooks.counts_iff, mem_standing]
  simp only [IsFirst, hcounts] at hsome ⊢
  obtain ⟨run, hfind⟩ := Option.isSome_iff_exists.mp (List.find?_isSome.mpr hsome)
  obtain ⟨hrun, hleast⟩ := (find?_eq_some_iff_of_ascending (pairwise_standing name)).mp hfind
  refine ⟨run, ⟨hrun, fun other hother => hleast other hother.1 hother.2⟩, ?_⟩
  have halone := mem_standing.mp hrun.1
  have hlength : run.digits.length = size + 2 :=
    beq_iff_eq.mp (Bool.and_eq_true_iff.mp hrun.2).1
  rw [recognise?, hlooks.hit?_eq, digitRunHit?_eq, hfind, Option.bind_some,
    hit?_of_length halone.digits hlooks.digits.1 hlooks.digits.2 hlength, Option.map_some,
    hlooks.scansTrailing_eq]
  rfl

/-- If there are none, nothing is recognised. -/
theorem recognise?_eq_none (hlooks : h.LooksFor name size counts) (hnone : ∀ run, ¬counts run) :
    h.recognise? name = none := by
  have hfind : (standing name).find? (fits name (size + 2)) = none := by
    refine List.find?_eq_none.mpr fun run hmem hfits => ?_
    exact hnone run ((hlooks.counts_iff run).mpr ⟨mem_standing.mp hmem, hfits⟩)
  rw [recognise?, hlooks.hit?_eq, digitRunHit?_eq, hfind]
  rfl

/-- What is recognised is read of a run that stands alone. -/
theorem standsAlone_of_recognise? (hlooks : h.LooksFor name size counts)
    (hfound : h.recognise? name = some found) :
    ∃ run : DigitRun, run.StandsAlone name ∧ found = run.recognised h size := by
  by_cases hsome : ∃ run, counts run
  · obtain ⟨run, hfirst, hrun⟩ := hlooks.exists_isFirst hsome
    exact ⟨run, ((hlooks.counts_iff run).mp hfirst.1).1, Option.some.inj (hfound.symm.trans hrun)⟩
  · rw [hlooks.recognise?_eq_none (not_exists.mp hsome)] at hfound
    cases hfound

end LooksFor

end Heuristic

/-- What is recognised tells the heuristic that recognised it. -/
theorem recognise?_heuristic {fileName : List Char} {found : Recognised}
    (hfound : recognise? fileName = some found) :
    found.heuristic.recognise? (Path.stem fileName) = some found := by
  obtain ⟨h, -, hrecognise⟩ := List.exists_of_findSome?_eq_some hfound
  obtain ⟨hit, -, rfl⟩ := Option.map_eq_some_iff.mp hrecognise
  exact hrecognise

/-- Where none of the first three heuristics recognises anything, runs of digits that stand alone
decide. The first of four digits that may be read so is read as two and two, and without such a run
the first of three digits as one and two. Without such a run, too, neither heuristic recognises
anything, and what is recognised is always read of a run that stands alone. -/
theorem recognise?_digitRun {fileName stem : List Char} (hstem : Path.stem fileName = stem)
    (hothers : ∀ h ∈ Heuristic.cascade.take 3, h.recognise? stem = none) :
    ((∃ run, IsFourDigits stem run) → ∃ run, IsFirst (IsFourDigits stem) run ∧
      recognise? fileName = some (run.recognised .fourDigits 2)) ∧
    ((∀ run, ¬IsFourDigits stem run) → (∃ run, IsThreeDigits stem run) →
      ∃ run, IsFirst (IsThreeDigits stem) run ∧
        recognise? fileName = some (run.recognised .threeDigits 1)) ∧
    ((∀ run, ¬IsFourDigits stem run) → (∀ run, ¬IsThreeDigits stem run) →
      Heuristic.fourDigits.recognise? stem = none ∧
        Heuristic.threeDigits.recognise? stem = none) ∧
    ∀ found, recognise? fileName = some found →
      found.heuristic = .fourDigits ∨ found.heuristic = .threeDigits →
      ∃ (run : DigitRun) (size : Nat),
        run.StandsAlone stem ∧ found = run.recognised found.heuristic size := by
  have hcascade : recognise? fileName = Heuristic.cascade.findSome? (·.recognise? stem) := by
    rw [recognise?, hstem]
  have hpair := hothers .seasonEpisode (by decide)
  have hdot := hothers .seasonDotEpisode (by decide)
  have hcross := hothers .crossSeparated (by decide)
  have hfour := Heuristic.looksFor_fourDigits stem
  have hthree := Heuristic.looksFor_threeDigits stem
  rw [Heuristic.cascade, List.findSome?_cons, hpair, List.findSome?_cons, hdot,
    List.findSome?_cons, hcross] at hcascade
  refine ⟨?_, ?_, fun hnone hnoneToo => ?_, ?_⟩
  · intro hsome
    obtain ⟨run, hfirst, hrun⟩ := hfour.exists_isFirst hsome
    exact ⟨run, hfirst, by rw [hcascade, List.findSome?_cons, hrun]⟩
  · intro hnone hsome
    obtain ⟨run, hfirst, hrun⟩ := hthree.exists_isFirst hsome
    refine ⟨run, hfirst, ?_⟩
    rw [hcascade, List.findSome?_cons, hfour.recognise?_eq_none hnone, List.findSome?_cons, hrun]
  · exact ⟨hfour.recognise?_eq_none hnone, hthree.recognise?_eq_none hnoneToo⟩
  · intro found hfound hheuristic
    have hrecognise := recognise?_heuristic hfound
    rw [hstem] at hrecognise
    rcases hheuristic with hheuristic | hheuristic <;> rw [hheuristic] at hrecognise ⊢
    · obtain ⟨run, hrun⟩ := hfour.standsAlone_of_recognise? hrecognise
      exact ⟨run, 2, hrun⟩
    · obtain ⟨run, hrun⟩ := hthree.standsAlone_of_recognise? hrecognise
      exact ⟨run, 1, hrun⟩

/-- A year gives way to three digits behind it, and another year is in brackets. -/
theorem recognise?_digitRun_years :
    (∀ h ∈ Heuristic.cascade.take 3, h.recognise? "show.2009.406 (2011)".toList = none) ∧
      recognise? "show.2009.406 (2011).avi".toList =
        some ⟨.threeDigits, 4, [6], some "show 2009".toList⟩ := by
  have hothers : ∀ h ∈ Heuristic.cascade.take 3,
      h.recognise? "show.2009.406 (2011)".toList = none := by decide +kernel
  have hstanding : standing "show.2009.406 (2011)".toList =
      [⟨"show.".toList, "2009".toList, ".406 (2011)".toList⟩,
        ⟨"show.2009.".toList, "406".toList, " (2011)".toList⟩] := by decide +kernel
  have hstem : Path.stem "show.2009.406 (2011).avi".toList = "show.2009.406 (2011)".toList := by
    decide +kernel
  obtain ⟨-, hthree, -⟩ := recognise?_digitRun hstem hothers
  have hnone : ∀ run, ¬IsFourDigits "show.2009.406 (2011)".toList run := by
    intro run hrun
    obtain ⟨halone, hfits⟩ := isFourDigits_iff.mp hrun
    rw [← mem_standing, hstanding, List.mem_cons, List.mem_singleton] at halone
    rcases halone with rfl | rfl
    · exact absurd hfits (by decide +kernel)
    · exact absurd hfits (by decide +kernel)
  have hsome : IsThreeDigits "show.2009.406 (2011)".toList
      ⟨"show.2009.".toList, "406".toList, " (2011)".toList⟩ := by
    rw [isThreeDigits_iff, ← mem_standing, hstanding]
    exact ⟨by simp, by decide +kernel⟩
  obtain ⟨run, ⟨hrun, -⟩, hrecognise⟩ := hthree hnone ⟨_, hsome⟩
  have hmem := mem_standing.mpr hrun.toStandsAlone
  rw [hstanding, List.mem_cons, List.mem_singleton] at hmem
  refine ⟨hothers, hrecognise.trans ?_⟩
  rcases hmem with rfl | rfl
  · exact absurd hrun.three (by decide)
  · decide +kernel

end MediaShelf.Pattern
