import Mathlib.Data.List.Basic
import MediaShelf.Path.FileName
import MediaShelf.Proofs.Text.Lowercase
import MediaShelf.Proofs.Text.Normalize
import MediaShelf.Text.CaseFold
import MediaShelf.Text.DecimalDigit
import MediaShelf.Text.Numeral
import MediaShelf.Text.Separators
import MediaShelf.Text.WordChar

/-!
# Operations on text whose letters are lowered

Splitting, trimming and cleaning go by blanks, digits and punctuation, so they do the same to a text
and to the text with its ASCII letters lowered.

## Main results

* `apply_toLower` — what is alike for both forms of the 26 letters does not depend on letter case
* `toLower_eq_iff` — marks that are no letters stay as they are
* `splitBy_map`, `joinWith_map`, `trimBy_map` — pieces of a text and of its image under a map
* `cleanSeparators_toLower`, `normalizeChars_toLower` — lowered text is cleaned and normalized alike
* `readWord?_toLower` — numerals have no letters
* `Path.stem_toLower` — the stem of a file name
-/

namespace MediaShelf.Text

/-! ### Characters -/

section Characters

variable {c : Char}

/-- What holds of the 26 capital letters, one by one. -/
theorem forall_isUpper {P : Char → Prop} (h : ∀ n < 26, P (Char.ofNat (65 + n)))
    (hc : c.isUpper) : P c := by
  have hrange := isUpper_iff.mp hc
  have hletter : Char.ofNat (65 + (c.toNat - 65)) = c := by
    rw [Nat.add_sub_cancel' hrange.1, Char.ofNat_toNat]
  rw [← hletter]
  exact h _ (by omega)

/-- A function that does not tell the 26 capital letters from the small ones does not depend on
letter case. -/
theorem apply_toLower {β : Type} {p : Char → β}
    (h : ∀ n < 26, p (Char.ofNat (65 + n)).toLower = p (Char.ofNat (65 + n))) (c : Char) :
    p c.toLower = p c := by
  cases hupper : c.isUpper with
  | false => rw [toLower_of_not_isUpper hupper]
  | true => exact forall_isUpper (P := fun c => p c.toLower = p c) h hupper

theorem toLower_toLower (c : Char) : c.toLower.toLower = c.toLower :=
  apply_toLower (by decide) c

theorem isDigit_toLower (c : Char) : c.toLower.isDigit = c.isDigit := apply_toLower (by decide) c

theorem isBlank_toLower (c : Char) : isBlank c.toLower = isBlank c := apply_toLower (by decide) c

theorem isDecimalDigit_toLower (c : Char) : isDecimalDigit c.toLower = isDecimalDigit c :=
  apply_toLower (by decide) c

theorem isWordChar_toLower (c : Char) : isWordChar c.toLower = isWordChar c :=
  apply_toLower (by decide) c

theorem sameLetter_toLower (d c : Char) : sameLetter d c.toLower = sameLetter d c :=
  congrArg (foldCase d == ·) (apply_toLower (by decide) c)

/-- A mark that is no letter is the lower-case form of itself alone. -/
theorem toLower_eq_iff {mark : Char} (h : mark.isAlpha = false) : c.toLower = mark ↔ c = mark := by
  cases hupper : c.isUpper with
  | false => rw [toLower_of_not_isUpper hupper]
  | true =>
    have hletters : c.isAlpha ∧ c.toLower.isAlpha :=
      forall_isUpper (P := fun c => c.isAlpha ∧ c.toLower.isAlpha) (by decide) hupper
    refine iff_of_false ?_ ?_
    · rintro rfl
      simp [hletters.2] at h
    · rintro rfl
      simp [hletters.1] at h

theorem beq_toLower {mark : Char} (h : mark.isAlpha = false) (c : Char) :
    (c.toLower == mark) = (c == mark) := by
  rw [Bool.eq_iff_iff, beq_iff_eq, beq_iff_eq, toLower_eq_iff h]

theorem bne_toLower {mark : Char} (h : mark.isAlpha = false) (c : Char) :
    (c.toLower != mark) = (c != mark) :=
  congrArg not (beq_toLower h c)

/-- Decimal digits are no letters. -/
theorem toLower_of_isDecimalDigit (h : isDecimalDigit c) : c.toLower = c := by
  refine toLower_of_not_isUpper (Bool.eq_false_iff.mpr fun hupper => ?_)
  have hletter : isDecimalDigit c = false :=
    forall_isUpper (P := (isDecimalDigit · = false)) (by decide) hupper
  rw [h] at hletter
  cases hletter

theorem map_toLower_of_isDecimalDigit {text : List Char} (h : ∀ c ∈ text, isDecimalDigit c) :
    text.map Char.toLower = text :=
  (List.map_congr_left fun c hc => toLower_of_isDecimalDigit (h c hc)).trans (List.map_id text)

theorem map_toLower_of_isDigit {text : List Char} (h : ∀ c ∈ text, c.isDigit) :
    text.map Char.toLower = text :=
  map_toLower_of_isDecimalDigit fun c hc => by rw [isDecimalDigit, h c hc, Bool.true_or]

end Characters

/-! ### Strings -/

theorem toList_toLower (text : String) : text.toLower.toList = text.toList.map Char.toLower :=
  String.toList_map

theorem ofList_map_toLower (text : List Char) :
    String.ofList (text.map Char.toLower) = (String.ofList text).toLower := by
  rw [← String.toList_inj, toList_toLower, String.toList_ofList,
    String.toList_ofList]

theorem map_ofList_toLower (text? : Option (List Char)) :
    (text?.map (·.map Char.toLower)).map String.ofList =
      (text?.map String.ofList).map String.toLower := by
  rw [Option.map_map, Option.map_map]
  exact congrArg (Option.map · _) (funext ofList_map_toLower)

theorem isEmpty_toLower (text : String) : text.toLower.isEmpty = text.isEmpty := by
  rw [Bool.eq_iff_iff, String.isEmpty_iff, String.isEmpty_iff, ← String.toList_inj,
    ← String.toList_inj, toList_toLower, String.toList_empty, List.map_eq_nil_iff]

/-! ### Pieces of a text -/

section Pieces

variable {f : Char → Char} {p : Char → Bool}

theorem splitBy_map (h : ∀ c, p (f c) = p c) (text : List Char) :
    splitBy p (text.map f) = (splitBy p text).map (·.map f) := by
  induction text with
  | nil => rfl
  | cons c text ih =>
    simp only [List.map_cons, splitBy, h, ih]
    cases hc : p c with
    | true => rfl
    | false =>
      cases splitBy p text <;> rfl

theorem joinWith_map (separator : List Char) (pieces : List (List Char)) :
    joinWith (separator.map f) (pieces.map (·.map f)) = (joinWith separator pieces).map f := by
  induction pieces with
  | nil => rfl
  | cons piece pieces ih =>
    cases pieces with
    | nil => rfl
    | cons next pieces =>
      rw [List.map_cons, List.map_cons, joinWith, joinWith, ← List.map_cons, ih, List.map_append,
        List.map_append]

theorem dropWhile_map (h : ∀ c, p (f c) = p c) (text : List Char) :
    (text.map f).dropWhile p = (text.dropWhile p).map f := by
  rw [List.dropWhile_map, show p ∘ f = p from funext h]

theorem takeWhile_map (h : ∀ c, p (f c) = p c) (text : List Char) :
    (text.map f).takeWhile p = (text.takeWhile p).map f := by
  rw [List.takeWhile_map, show p ∘ f = p from funext h]

theorem trimBy_map (h : ∀ c, p (f c) = p c) (text : List Char) :
    trimBy p (text.map f) = (trimBy p text).map f := by
  simp only [trimBy, trimStartBy, trimEndBy, ← List.map_reverse, dropWhile_map h]

end Pieces

/-! ### Cleaning and normalizing -/

theorem collapseBlanks_toLower (text : List Char) :
    collapseBlanks (text.map Char.toLower) = (collapseBlanks text).map Char.toLower := by
  have hempty : (fun piece : List Char => !piece.isEmpty) ∘ (List.map Char.toLower) =
      fun piece => !piece.isEmpty := by
    funext piece
    cases piece <;> rfl
  rw [collapseBlanks, words, splitBy_map isBlank_toLower, List.filter_map, hempty]
  exact joinWith_map (f := Char.toLower) [' '] _

theorem spaceSeparators_toLower (before : Option Char) (text : List Char) :
    spaceSeparators (before.map Char.toLower) (text.map Char.toLower) =
      (spaceSeparators before text).map Char.toLower := by
  have hspace (c? : Option Char) : (c?.map Char.toLower == some ' ') = (c? == some ' ') := by
    cases c? with
    | none => rfl
    | some c => exact beq_toLower rfl c
  -- the character in front of the rest is the one just seen
  induction text generalizing before with
  | nil => rfl
  | cons c text ih =>
    have hlater := ih (some c)
    rw [Option.map_some] at hlater
    have hstop : (c.toLower == '.') = (c == '.') := beq_toLower rfl c
    have hline : (c.toLower == '_') = (c == '_') := beq_toLower rfl c
    simp only [List.map_cons, spaceSeparators, List.head?_map, hspace, hstop, hline, hlater]
    split <;> rfl

theorem cleanSeparators_toLower (text : List Char) :
    cleanSeparators (text.map Char.toLower) = (cleanSeparators text).map Char.toLower := by
  have hspaces := spaceSeparators_toLower none text
  rw [Option.map_none] at hspaces
  rw [cleanSeparators, hspaces, collapseBlanks_toLower, trimBy_map (apply_toLower (by decide))]
  rfl

/-- A letter is its own normal form in either case. -/
theorem normalizeChar_toLower (c : Char) :
    (normalizeChar c.toLower).map Char.toLower = (normalizeChar c).map Char.toLower := by
  cases hupper : c.isUpper with
  | false => rw [toLower_of_not_isUpper hupper]
  | true =>
    have hcapital : isClean c := forall_isUpper (P := fun c => isClean c) (by decide) hupper
    have hsmall : isClean c.toLower :=
      forall_isUpper (P := fun c => isClean c.toLower) (by decide) hupper
    rw [normalizeChar_of_isClean hcapital, normalizeChar_of_isClean hsmall, List.map_singleton,
      List.map_singleton, toLower_toLower]

theorem normalizeChars_toLower (text : List Char) :
    (normalizeChars (text.map Char.toLower)).map Char.toLower =
      (normalizeChars text).map Char.toLower := by
  simp only [normalizeChars, trim, ← trimBy_map isBlank_toLower, List.map_flatMap, List.flatMap_map,
    normalizeChar_toLower]

theorem normalize_toLower (text : String) :
    (normalize text.toLower).toLower = (normalize text).toLower := by
  rw [normalize, normalize, ← ofList_map_toLower, ← ofList_map_toLower,
    toList_toLower, normalizeChars_toLower]

/-! ### Numerals -/

theorem readDigits?_toLower (text : List Char) :
    readDigits? (text.map Char.toLower) = readDigits? text := by
  have hall : (text.map Char.toLower).all Char.isDigit = text.all Char.isDigit := by
    rw [List.all_map, show Char.isDigit ∘ Char.toLower = Char.isDigit from funext isDigit_toLower]
  cases hdigits : text.all Char.isDigit with
  | true =>
    rw [map_toLower_of_isDigit (List.all_eq_true.mp hdigits)]
  | false => simp only [readDigits?, hall, hdigits, Bool.and_false, Bool.false_eq_true, if_false]

theorem readWord?_toLower (text : List Char) :
    readWord? (text.map Char.toLower) = readWord? text := by
  cases text with
  | nil => rfl
  | cons c text =>
    by_cases hc : c = '+'
    · subst hc
      have hplus : ('+' :: text).map Char.toLower = '+' :: text.map Char.toLower := rfl
      simp only [hplus, readWord?, readDigits?_toLower]
    · have hlower : c.toLower ≠ '+' := mt (toLower_eq_iff rfl).mp hc
      have hrest := readDigits?_toLower (c :: text)
      rw [List.map_cons] at hrest ⊢
      simp [readWord?, hc, hlower, hrest]

end MediaShelf.Text

namespace MediaShelf.Path

/-- The last full stop stands in the same place when letters are lowered. -/
theorem stem_toLower (name : List Char) :
    stem (name.map Char.toLower) = (stem name).map Char.toLower := by
  have hstop (c : Char) : c.toLower = '.' ↔ c = '.' := Text.toLower_eq_iff rfl
  have hup : name.map Char.toLower = ['.', '.'] ↔ name = ['.', '.'] := by
    simp [List.map_eq_cons_iff, hstop]
  have hbehind : (name.map Char.toLower).reverse.dropWhile (· != '.') =
      (name.reverse.dropWhile (· != '.')).map Char.toLower := by
    rw [← List.map_reverse, Text.dropWhile_map (p := (· != '.')) (Text.bne_toLower rfl)]
  simp only [stem, splitExtension, hbehind, ← List.map_drop, hup]
  cases (name.reverse.dropWhile (· != '.')).drop 1 with
  | nil => rfl
  | cons c before =>
    rw [List.map_cons]
    dsimp only
    split
    · rfl
    · rw [← List.map_cons, List.map_reverse]

end MediaShelf.Path
