import Mathlib.Data.List.Forall2
import MediaShelf.Proofs.Text.Lowercase
import MediaShelf.Text.CaseFold

/-!
# Characters without letter case

## Main results

* `sameLetter_iff_eq` — an ASCII character that is no letter differs from no other in case alone
* `eq_of_sameLetters` — nor does a text of such characters from another
* `sameLetter_of_both`, `isDigit_of_sameLetter` — a character stands for one letter at most, and
  then it is no digit
* `map_toLower_of_sameLetters` — ASCII texts that differ in case alone are lowered to the same
-/

namespace MediaShelf.Text

variable {c d : Char}

/-- Every character that a run covers is mapped to a character beyond ASCII or to a small letter. -/
theorem caseFoldRuns_images : ∀ run ∈ caseFoldRuns,
    128 ≤ run.target ∧ run.target + (run.last - run.first) < 0xD800 ∨
      0xE000 ≤ run.target ∧ run.target + (run.last - run.first) < 0x110000 ∨
      run.first = run.last ∧ (Char.ofNat run.target).isAlpha := by
  decide +kernel

/-- In ASCII nothing but letters is lowered, and to letters. -/
theorem toLower_ascii : ∀ n < 128, (Char.ofNat n).toLower = Char.ofNat n ∨
    (Char.ofNat n).isAlpha ∧ (Char.ofNat n).toLower.isAlpha := by
  decide +kernel

theorem toNat_ofNat_of_isValidChar {n : Nat} (h : n.isValidChar) : (Char.ofNat n).toNat = n := by
  rw [Char.ofNat, dif_pos h]
  rfl

/-- The representative of a character is the character itself, beyond ASCII, or a letter. -/
theorem foldCase_cases (c : Char) :
    foldCase c = c ∨ 128 ≤ (foldCase c).toNat ∨ (foldCase c).isAlpha := by
  unfold foldCase
  split
  · rename_i hc
    have hlower := toLower_ascii c.toNat hc
    rw [Char.ofNat_toNat] at hlower
    exact hlower.imp_right fun hletter => .inr hletter.2
  · cases hmap : CaseRun.map? caseFoldRuns c with
    | none => exact .inl rfl
    | some image =>
      obtain ⟨run, hrun, rfl⟩ := Option.map_eq_some_iff.mp hmap
      have hcovers := List.find?_some hrun
      simp only [CaseRun.covers, Bool.and_eq_true, decide_eq_true_eq] at hcovers
      rw [Option.getD_some, CaseRun.image]
      -- runs that lead beyond ASCII keep clear of the surrogates, the others cover one character
      rcases caseFoldRuns_images run (List.mem_of_find?_eq_some hrun) with h | h | ⟨hone, halpha⟩
      · have hvalid : (run.target + (c.toNat - run.first)).isValidChar := .inl (by omega)
        rw [toNat_ofNat_of_isValidChar hvalid]
        exact .inr (.inl (by omega))
      · have hvalid : (run.target + (c.toNat - run.first)).isValidChar :=
          .inr ⟨by omega, by omega⟩
        rw [toNat_ofNat_of_isValidChar hvalid]
        exact .inr (.inl (by omega))
      · have hsame : c.toNat - run.first = 0 := by omega
        rw [hsame]
        exact .inr (.inr halpha)

/-- An ASCII character that is no letter differs from no other in case alone. -/
theorem sameLetter_iff_eq (hd : d.toNat < 128) (hplain : d.isAlpha = false) :
    sameLetter d c ↔ d = c := by
  -- whatever is folded to `d` was `d` before: else it would be a letter or beyond ASCII
  have hself {e : Char} (h : foldCase e = d) : e = d := by
    rcases foldCase_cases e with heq | hbeyond | halpha
    · rw [← heq, h]
    · rw [h] at hbeyond
      omega
    · rw [h, hplain] at halpha
      cases halpha
  have hfold : foldCase d = d := by
    have hlower := toLower_ascii d.toNat hd
    rw [Char.ofNat_toNat, hplain] at hlower
    rw [foldCase, if_pos hd]
    simpa using hlower
  rw [sameLetter, beq_iff_eq, hfold]
  exact ⟨fun h => (hself h.symm).symm, fun h => by rw [← h, hfold]⟩

/-- Letters that a character differs from in case alone differ from each other in case alone. -/
theorem sameLetter_of_both {a b : Char} (ha : sameLetter a c) (hb : sameLetter b c) :
    sameLetter a b := by
  rw [sameLetter, beq_iff_eq] at ha hb ⊢
  rw [ha, hb]

theorem sameLetter_comm (a b : Char) : sameLetter a b = sameLetter b a := BEq.comm

/-- What differs from a letter in case alone is no digit. -/
theorem isDigit_of_sameLetter {letter : Char} (hletter : letter.isDigit = false)
    (h : sameLetter letter c) : c.isDigit = false := by
  by_contra hc
  rw [Bool.not_eq_false] at hc
  have hrange := isDigit_iff.mp hc
  have hplain : c.isAlpha = false := by
    rw [Bool.eq_false_iff, ne_eq, isAlpha_iff, isUpper_iff, isLower_iff]
    omega
  rw [sameLetter_comm, sameLetter_iff_eq (by omega) hplain] at h
  rw [h, hletter] at hc
  cases hc

theorem not_sameLetter_of_isDigit {letter : Char} (hletter : letter.isDigit = false)
    (h : c.isDigit) : sameLetter letter c = false := by
  by_contra hsame
  rw [Bool.not_eq_false] at hsame
  rw [isDigit_of_sameLetter hletter hsame] at h
  cases h

/-- A text of ASCII characters that are no letters differs from no other in case alone. -/
theorem eq_of_sameLetters {text run : List Char}
    (htext : text.all fun d => d.toNat < 128 && !d.isAlpha)
    (h : List.Forall₂ (fun d c => sameLetter d c) text run) : run = text := by
  induction h with
  | nil => rfl
  | cons hsame _ ih =>
    simp only [List.all_cons, Bool.and_eq_true, decide_eq_true_eq, Bool.not_eq_true'] at htext
    obtain ⟨⟨hascii, hplain⟩, hrest⟩ := htext
    rw [(sameLetter_iff_eq hascii hplain).mp hsame, ih hrest]

/-- Every character of a text that differs from another in case alone is a letter of that one. -/
theorem exists_sameLetter {text run : List Char}
    (h : List.Forall₂ (fun d c => sameLetter d c) text run) {c : Char} (hc : c ∈ run) :
    ∃ d ∈ text, sameLetter d c := by
  induction h with
  | nil => cases hc
  | @cons d _ _ _ hsame _ ih =>
    rcases List.mem_cons.mp hc with rfl | hc
    · exact ⟨d, List.mem_cons_self, hsame⟩
    · obtain ⟨other, hother, hsame⟩ := ih hc
      exact ⟨other, List.mem_cons_of_mem d hother, hsame⟩

/-- ASCII texts that differ in case alone are lowered to the same text. -/
theorem map_toLower_of_sameLetters {text run : List Char} (htext : ∀ d ∈ text, d.toNat < 128)
    (hrun : ∀ c ∈ run, c.toNat < 128)
    (h : List.Forall₂ (fun d c => sameLetter d c) text run) :
    run.map Char.toLower = text.map Char.toLower := by
  induction h with
  | nil => rfl
  | @cons d c text run hsame _ ih =>
    have hd := htext d List.mem_cons_self
    have hc := hrun c List.mem_cons_self
    have hlower : d.toLower = c.toLower := by simpa [sameLetter, foldCase, hd, hc] using hsame
    rw [List.map_cons, List.map_cons, hlower, ih (fun e he => htext e (List.mem_cons_of_mem _ he))
      fun e he => hrun e (List.mem_cons_of_mem _ he)]

end MediaShelf.Text
