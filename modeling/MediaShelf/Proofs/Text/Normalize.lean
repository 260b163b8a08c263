import Mathlib.Data.List.Basic
import Mathlib.Tactic.Tauto
import MediaShelf.Proofs.Text.Lowercase
import MediaShelf.Proofs.Text.Split
import MediaShelf.Text.DecimalDigit
import MediaShelf.Text.Normalize

/-!
# What normalized text is made of

## Main definitions

* `isClean` — the characters of normalized text

## Main results

* `trim_append`, `trim_eq_self` — trimming takes off the blanks at both ends and nothing else
* `isClean_of_mem_normalizeChars` — normalized text is clean
* `normalizeChars_of_isClean` — clean text is normal once it is trimmed
* `normalizeChars_collapseBlanks` — clean text is normal once its blanks are collapsed
-/

namespace MediaShelf.Text

variable {p : Char → Bool} {text front back : List Char} {c d : Char}

/-! ### Trimming -/

theorem mem_of_mem_trimStartBy (h : c ∈ trimStartBy p text) : c ∈ text :=
  (List.dropWhile_suffix p).subset h

theorem mem_of_mem_trimEndBy (h : c ∈ trimEndBy p text) : c ∈ text := by
  rw [trimEndBy, List.mem_reverse] at h
  exact List.mem_reverse.mp ((List.dropWhile_suffix p).subset h)

theorem mem_of_mem_trim (h : c ∈ trim text) : c ∈ text :=
  mem_of_mem_trimStartBy (mem_of_mem_trimEndBy h)

/-- Blanks around a text that has none at its ends are trimmed. -/
theorem trim_append (hfront : ∀ c ∈ front, isBlank c) (hback : ∀ c ∈ back, isBlank c)
    (hne : text ≠ []) (hhead : ∀ c ∈ text.head?, isBlank c = false)
    (hlast : ∀ c ∈ text.getLast?, isBlank c = false) : trim (front ++ text ++ back) = text := by
  have hstart : trimStartBy isBlank (front ++ (text ++ back)) = text ++ back := by
    refine dropWhile_append_of_head hfront fun c hc => hhead c ?_
    rwa [List.head?_append_of_ne_nil text hne] at hc
  have hend : (back.reverse ++ text.reverse).dropWhile isBlank = text.reverse := by
    refine dropWhile_append_of_head (fun c hc => hback c (List.mem_reverse.mp hc)) fun c hc => ?_
    rw [List.head?_reverse] at hc
    exact hlast c hc
  rw [trim, trimBy, List.append_assoc, hstart, trimEndBy, List.reverse_append, hend,
    List.reverse_reverse]

/-- A trimmed text starts with no character that is trimmed. -/
theorem of_mem_head?_trimBy (h : c ∈ (trimBy p text).head?) : p c = false := by
  obtain ⟨behind, hbehind⟩ : trimBy p text <+: text.dropWhile p := by
    rw [trimBy, trimEndBy, trimStartBy, ← List.reverse_suffix, List.reverse_reverse]
    exact List.dropWhile_suffix p
  have hhead := List.head?_dropWhile_not p text
  rw [← hbehind, List.head?_append, h] at hhead
  exact hhead

/-- It ends with none, either. -/
theorem of_mem_getLast?_trimBy (h : c ∈ (trimBy p text).getLast?) : p c = false := by
  -- the end of the text is where the reversed text starts
  rw [trimBy, trimEndBy, List.getLast?_reverse] at h
  have hend := List.head?_dropWhile_not p (trimStartBy p text).reverse
  rwa [h] at hend

/-- A trimmed text starts with no blank. -/
theorem isBlank_of_trim_eq_cons {rest : List Char} (h : trim text = c :: rest) :
    isBlank c = false :=
  of_mem_head?_trimBy (by rw [← trim, h]; rfl)

/-- A trimmed text ends with no blank. -/
theorem isBlank_of_mem_getLast?_trim (h : c ∈ (trim text).getLast?) : isBlank c = false :=
  of_mem_getLast?_trimBy h

/-- A text without such characters at its ends stays as it is. -/
theorem trimBy_eq_self (hhead : ∀ c ∈ text.head?, p c = false)
    (hlast : ∀ c ∈ text.getLast?, p c = false) : trimBy p text = text := by
  have hnothing : ∀ c ∈ ([] : List Char), p c := by simp
  have hstart := dropWhile_append_of_head hnothing hhead
  have hend := @dropWhile_append_of_head p [] text.reverse hnothing (by rwa [List.head?_reverse])
  rw [List.nil_append] at hstart hend
  rw [trimBy, trimStartBy, hstart, trimEndBy, hend, List.reverse_reverse]

/-- A text without blanks at its ends stays as it is. -/
theorem trim_eq_self (hhead : ∀ c ∈ text.head?, isBlank c = false)
    (hlast : ∀ c ∈ text.getLast?, isBlank c = false) : trim text = text :=
  trimBy_eq_self hhead hlast

theorem trim_trim (text : List Char) : trim (trim text) = trim text := by
  apply trim_eq_self
  · intro c hc
    obtain ⟨rest, hcons⟩ := List.head?_eq_some_iff.mp hc
    exact isBlank_of_trim_eq_cons hcons
  · intro c hc
    exact isBlank_of_mem_getLast?_trim hc

/-! ### Words -/

theorem isBlank_of_mem_words {word : List Char} (h : word ∈ words text) :
    word ≠ [] ∧ ∀ c ∈ word, isBlank c = false := by
  obtain ⟨hpiece, hne⟩ := List.mem_filter.mp h
  exact ⟨by simpa using hne, fun c => not_of_mem_splitBy hpiece⟩

/-- A text that starts with no blank still does so when its blanks are collapsed. -/
theorem collapseBlanks_cons (hc : isBlank c = false) (rest : List Char) :
    ∃ more, collapseBlanks (c :: rest) = c :: more := by
  obtain ⟨piece, pieces, hsplit⟩ := List.exists_cons_of_ne_nil (splitBy_ne_nil (p := isBlank) rest)
  have hwords : words (c :: rest) = (c :: piece) :: pieces.filter (! ·.isEmpty) := by
    rw [words, splitBy, hc, hsplit]
    rfl
  rw [collapseBlanks, hwords]
  cases pieces.filter (! ·.isEmpty) with
  | nil => exact ⟨piece, rfl⟩
  | cons next others => exact ⟨_, rfl⟩

/-- Pieces that are put together end as the last of them does. -/
theorem getLast?_joinWith {separator last : List Char} {pieces : List (List Char)}
    (hne : last ≠ []) : (joinWith separator (pieces ++ [last])).getLast? = last.getLast? := by
  by_cases hpieces : pieces = []
  · rw [hpieces]
    rfl
  · rw [joinWith_concat hpieces, List.getLast?_append_of_ne_nil _ hne]

/-- They start as the first of them does. -/
theorem head?_joinWith {separator first : List Char} {pieces : List (List Char)}
    (hne : first ≠ []) : (joinWith separator (first :: pieces)).head? = first.head? := by
  obtain ⟨c, first, rfl⟩ := List.exists_cons_of_ne_nil hne
  cases pieces <;> simp [joinWith]

/-- So what stands at their ends is a part of some piece. -/
theorem exists_mem_of_end_joinWith {separator : List Char} {pieces : List (List Char)}
    (hne : ∀ piece ∈ pieces, piece ≠ []) (hc : c ∈ (joinWith separator pieces).head? ∨
      c ∈ (joinWith separator pieces).getLast?) : ∃ piece ∈ pieces, c ∈ piece := by
  by_cases hnil : pieces = []
  · simp [hnil, joinWith] at hc
  · rcases hc with hc | hc
    · obtain ⟨first, others, rfl⟩ := List.exists_cons_of_ne_nil hnil
      rw [head?_joinWith (hne first List.mem_cons_self)] at hc
      exact ⟨first, List.mem_cons_self, List.mem_of_mem_head? hc⟩
    · rw [← List.dropLast_concat_getLast hnil,
        getLast?_joinWith (hne _ (List.getLast_mem hnil))] at hc
      exact ⟨_, List.getLast_mem hnil, List.mem_of_mem_getLast? hc⟩

/-- Neither end of a text is blank when its blanks are collapsed. -/
theorem trim_collapseBlanks (text : List Char) :
    trim (collapseBlanks text) = collapseBlanks text := by
  have hend {c : Char} (hc : c ∈ (collapseBlanks text).head? ∨ c ∈ (collapseBlanks text).getLast?) :
      isBlank c = false := by
    obtain ⟨word, hword, hc⟩ := exists_mem_of_end_joinWith
      (fun word hword => (isBlank_of_mem_words hword).1) hc
    exact (isBlank_of_mem_words hword).2 c hc
  exact trim_eq_self (fun c hc => hend (.inl hc)) (fun c hc => hend (.inr hc))

/-! ### Normal forms -/

/-- Whether the character can stand in normalized text. -/
def isClean (c : Char) : Bool :=
  c.isAlphanum || [' ', '.', ',', '\x27', '(', ')', '&', '-', '?'].contains c

theorem isClean_of_latinBase : ∀ pair ∈ latinBase, pair.2.toList.all isClean := by
  decide +kernel

theorem isClean_of_plainPunctuation : ∀ pair ∈ plainPunctuation, pair.2.toList.all isClean := by
  decide +kernel

/-- Portable characters without a plain form are clean. -/
theorem isClean_of_isPortable (h : isPortable c) (hplain : plainPunctuation? c = none) :
    isClean c := by
  -- the two portable characters that are not clean have plain forms
  have hquote : c ≠ '\x22' := by
    rintro rfl
    revert hplain
    decide +kernel
  have hcall : c ≠ '!' := by
    rintro rfl
    revert hplain
    decide +kernel
  simp only [isPortable, isClean, Bool.or_eq_true, List.contains_iff_mem, List.mem_cons] at h ⊢
  tauto

/-- Clean characters are ASCII. -/
theorem toNat_of_isClean (h : isClean c) : c.toNat < 128 := by
  rw [isClean, Bool.or_eq_true] at h
  rcases h with halpha | hmark
  · rcases isAlphanum_iff.mp halpha with h | h | h
    · have := isUpper_iff.mp h
      omega
    · have := isLower_iff.mp h
      omega
    · have := isDigit_iff.mp h
      omega
  · have hmarks : ∀ d ∈ [' ', '.', ',', '\x27', '(', ')', '&', '-', '?'], d.toNat < 128 := by
      simp
    exact hmarks c (List.contains_iff_mem.mp hmark)

/-- In clean text all digits are those of ASCII. -/
theorem isDigit_of_isClean (hclean : isClean c) (h : isDecimalDigit c) : c.isDigit := by
  have hascii := toNat_of_isClean hclean
  simpa [isDecimalDigit, Nat.not_le.mpr hascii] using h

/-- The normal form of a character is clean. -/
theorem isClean_of_mem_normalizeChar (h : d ∈ normalizeChar c) : isClean d := by
  unfold normalizeChar at h
  split at h
  · rename_i letters hletters
    obtain ⟨pair, hpair, rfl⟩ := Option.map_eq_some_iff.mp hletters
    exact List.all_eq_true.mp (isClean_of_latinBase pair (List.mem_of_find?_eq_some hpair)) d h
  · split at h
    · rename_i mark hmark
      obtain ⟨pair, hpair, rfl⟩ := Option.map_eq_some_iff.mp hmark
      exact List.all_eq_true.mp
        (isClean_of_plainPunctuation pair (List.mem_of_find?_eq_some hpair)) d h
    · rename_i hplain
      split at h
      · rw [List.mem_singleton.mp h]
        decide
      · split at h
        · rename_i hportable
          rw [List.mem_singleton.mp h]
          exact isClean_of_isPortable hportable hplain
        · rw [List.mem_singleton.mp h]
          decide

/-- Normalized text is clean. -/
theorem isClean_of_mem_normalizeChars (h : c ∈ normalizeChars text) : isClean c := by
  obtain ⟨d, -, hd⟩ := List.mem_flatMap.mp (mem_of_mem_trim h)
  exact isClean_of_mem_normalizeChar hd

/-- No accented letter and no mark with a plain form is clean, nor is what file systems reserve. -/
theorem not_isClean_of_replaced :
    (∀ pair ∈ latinBase, pair.1.toList.all (!isClean ·)) ∧
      (∀ pair ∈ plainPunctuation, pair.1.all (!isClean ·)) ∧
      [':', '/', '\\', '*', '<', '>', '|'].all (!isClean ·) := by
  decide +kernel

/-- Clean characters are their own normal forms. -/
theorem normalizeChar_of_isClean (h : isClean c) : normalizeChar c = [c] := by
  obtain ⟨hletters, hmarks, hreserved⟩ := not_isClean_of_replaced
  have hother {text : List Char} (htext : text.all (!isClean ·)) : text.contains c = false := by
    by_contra hmem
    have hfound := List.all_eq_true.mp htext c (by simpa using hmem)
    simp [h] at hfound
  have hletter : latinBase? c = none := by
    rw [latinBase?, Option.map_eq_none_iff, List.find?_eq_none]
    exact fun pair hpair => by simpa using hother (hletters pair hpair)
  have hmark : plainPunctuation? c = none := by
    rw [plainPunctuation?, Option.map_eq_none_iff, List.find?_eq_none]
    exact fun pair hpair => by simpa using hother (hmarks pair hpair)
  have hfree : isReserved c = false := hother hreserved
  rw [normalizeChar, hletter, hmark, hfree]
  -- of the clean characters the question mark alone is not portable
  have hcases : isPortable c ∨ c = '?' := by
    have hmarks : ∀ d ∈ [' ', '.', ',', '\x27', '(', ')', '&', '-', '?'],
        isPortable d ∨ d = '?' := by simp [isPortable]
    rw [isClean, Bool.or_eq_true] at h
    rcases h with halphanum | hmark
    · exact .inl (by simp [isPortable, halphanum])
    · exact hmarks c (List.contains_iff_mem.mp hmark)
  rcases hcases with hportable | rfl
  · simp [hportable]
  · rfl

/-- Clean text is normal once it is trimmed. -/
theorem normalizeChars_of_isClean (h : ∀ c ∈ text, isClean c) :
    normalizeChars text = trim text := by
  have hself : text.flatMap normalizeChar = text := by
    rw [List.flatMap_congr fun c hc => normalizeChar_of_isClean (h c hc)]
    exact List.flatMap_singleton' text
  rw [normalizeChars, hself]

/-- The normal form of a text is its own normal form. -/
theorem normalizeChars_normalizeChars (text : List Char) :
    normalizeChars (normalizeChars text) = normalizeChars text := by
  rw [normalizeChars_of_isClean fun c => isClean_of_mem_normalizeChars, normalizeChars, trim_trim]

/-- Clean text is normal once its blanks are collapsed. -/
theorem normalizeChars_collapseBlanks (h : ∀ c ∈ text, isClean c) :
    normalizeChars (collapseBlanks text) = collapseBlanks text := by
  have hclean : ∀ c ∈ collapseBlanks text, isClean c := by
    intro c hc
    rcases mem_collapseBlanks hc with hmem | rfl
    · exact h c hmem
    · rfl
  rw [normalizeChars_of_isClean hclean, trim_collapseBlanks]

/-- Nothing but blanks is lost when blanks are collapsed, and normalized text is not blank. -/
theorem collapseBlanks_normalizeChars_ne_nil (h : normalizeChars text ≠ []) :
    collapseBlanks (normalizeChars text) ≠ [] := by
  obtain ⟨c, rest, hcons⟩ := List.exists_cons_of_ne_nil h
  obtain ⟨more, hmore⟩ := collapseBlanks_cons (isBlank_of_trim_eq_cons hcons) rest
  rw [hcons, hmore]
  exact List.cons_ne_nil c more

end MediaShelf.Text
