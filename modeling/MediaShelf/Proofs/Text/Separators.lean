import MediaShelf.Proofs.Text.Lowercase
import MediaShelf.Proofs.Text.Split
import MediaShelf.Proofs.Text.Words
import MediaShelf.Text.Separators

/-!
# What stays of a text when its separators are cleaned

Cleaning a release name replaces and drops separators, blanks and punctuation only. So characters of
any other kind come out as many as they were, in their order. No text gets longer, so one that stays
as it is has nothing to drop.

## Main results

* `filter_trimBy`, `filter_collapseBlanks`, `filter_spaceSeparators` — what each step leaves alone
* `filter_cleanSeparators`, `letters_cleanSeparators` — what cleaning leaves alone
* `spaceSeparators_joinWith`, `cleanSeparators_of_words` — words that separators divide
* `mem_cleanSeparators` — nothing but spaces comes into a text that is cleaned
* `collapseBlanks_of_trim_cleanSeparators` — text that stays as it is has single spaces only
-/

namespace MediaShelf.Text

variable {p q : Char → Bool} {before : Option Char} {text : List Char} {c : Char}

/-! ### Characters that cleaning leaves alone -/

/-- Dropping characters of one kind keeps those of another. -/
theorem filter_dropWhile (h : ∀ c, q c → p c = false) (text : List Char) :
    (text.dropWhile q).filter p = text.filter p := by
  induction text with
  | nil => rfl
  | cons c text ih =>
    by_cases hc : q c
    · rw [List.dropWhile_cons_of_pos hc, ih, List.filter_cons_of_neg (by simp [h c hc])]
    · rw [List.dropWhile_cons_of_neg hc]

theorem filter_trimBy (h : ∀ c, q c → p c = false) (text : List Char) :
    (trimBy q text).filter p = text.filter p := by
  rw [trimBy, trimEndBy, List.filter_reverse, filter_dropWhile h, ← List.filter_reverse,
    List.reverse_reverse, trimStartBy, filter_dropWhile h]

/-- The pieces between separators keep all but the separators. -/
theorem flatMap_filter_splitBy (h : ∀ c, q c → p c = false) (text : List Char) :
    (splitBy q text).flatMap (·.filter p) = text.filter p := by
  induction text with
  | nil => rfl
  | cons c text ih =>
    rw [splitBy]
    by_cases hc : q c
    · rw [if_pos hc, List.filter_cons_of_neg (by simp [h c hc])]
      exact ih
    · obtain ⟨piece, pieces, hsplit⟩ := List.exists_cons_of_ne_nil (splitBy_ne_nil (p := q) text)
      rw [hsplit] at ih ⊢
      rw [List.flatMap_cons] at ih
      rw [if_neg hc, List.flatMap_cons, List.filter_cons, List.filter_cons, ← ih]
      split <;> rfl

/-- Pieces that are put together keep what they have of other characters than the separators. -/
theorem filter_joinWith {separator : List Char} (h : ∀ c ∈ separator, p c = false)
    (pieces : List (List Char)) :
    (joinWith separator pieces).filter p = pieces.flatMap (·.filter p) := by
  induction pieces using joinWith.induct with
  | case1 => rfl
  | case2 piece => simp [joinWith]
  | case3 piece next pieces ih =>
    have hseparator : separator.filter p = [] :=
      List.filter_eq_nil_iff.mpr fun c hc => by simp [h c hc]
    rw [joinWith, List.filter_append, List.filter_append, hseparator, List.append_nil, ih]
    rfl

theorem filter_collapseBlanks (h : ∀ c, isBlank c → p c = false) (text : List Char) :
    (collapseBlanks text).filter p = text.filter p := by
  have hspace : ∀ c ∈ [' '], p c = false := fun c hc => h c (by rw [List.mem_singleton.mp hc]; rfl)
  -- a piece that is no word is empty, so nothing of it is missing
  have hwords : ∀ pieces : List (List Char),
      (pieces.filter (! ·.isEmpty)).flatMap (·.filter p) = pieces.flatMap (·.filter p) := by
    intro pieces
    induction pieces with
    | nil => rfl
    | cons piece pieces ih => cases piece <;> simp [ih]
  rw [collapseBlanks, filter_joinWith hspace, words, hwords, flatMap_filter_splitBy h]

theorem filter_spaceSeparators (h : ∀ c ∈ ['_', '.', ' '], p c = false) (text : List Char) :
    (spaceSeparators before text).filter p = text.filter p := by
  induction text generalizing before with
  | nil => rfl
  | cons c text ih =>
    rw [spaceSeparators]
    split
    · -- a separator goes and a space comes
      next hc =>
      have hmem : c ∈ ['_', '.', ' '] := by
        rw [Bool.or_eq_true, Bool.and_eq_true, beq_iff_eq, beq_iff_eq] at hc
        rcases hc with rfl | ⟨rfl, -⟩ <;> simp
      rw [List.filter_cons_of_neg (by simp [h ' ']), ih,
        List.filter_cons_of_neg (by simp [h c hmem])]
    · rw [List.filter_cons, List.filter_cons, ih]

/-- Characters that are no blanks, no separators and no punctuation of the ends stay as many as they
were, in their order. -/
theorem filter_cleanSeparators (hjunk : ∀ c, isEndJunk c → p c = false)
    (hblank : ∀ c, isBlank c → p c = false) (hseparator : ∀ c ∈ ['_', '.', ' '], p c = false)
    (text : List Char) : (cleanSeparators text).filter p = text.filter p := by
  rw [cleanSeparators, filter_trimBy hjunk, filter_collapseBlanks hblank,
    filter_spaceSeparators hseparator]

theorem isAlpha_of_isBlank (h : isBlank c) : c.isAlpha = false := by
  rw [Bool.eq_false_iff, ne_eq, isAlpha_iff, isUpper_iff, isLower_iff]
  simp only [isBlank, Bool.or_eq_true, Bool.and_eq_true, decide_eq_true_eq, beq_iff_eq] at h
  omega

/-- Letters of the ASCII alphabet do. -/
theorem letters_cleanSeparators (text : List Char) :
    (cleanSeparators text).filter Char.isAlpha = text.filter Char.isAlpha := by
  refine filter_cleanSeparators (fun c hc => ?_) (fun c => isAlpha_of_isBlank) (fun c hc => ?_) text
  · simp only [isEndJunk, Bool.or_eq_true, beq_iff_eq] at hc
    obtain ((rfl | rfl) | rfl) | rfl := hc <;> rfl
  · simp only [List.mem_cons, List.not_mem_nil, or_false] at hc
    obtain rfl | rfl | rfl := hc <;> rfl

/-! ### Words that separators divide -/

/-- Text without such separators stays as it is. -/
theorem spaceSeparators_of_free (h : ∀ c ∈ text, c ≠ '_' ∧ c ≠ '.') :
    spaceSeparators before text = text := by
  induction text generalizing before with
  | nil => rfl
  | cons c text ih =>
    obtain ⟨hc, hrest⟩ := List.forall_mem_cons.mp h
    simp [spaceSeparators, hc, ih hrest]

/-- It has no say on what stands behind it, but for its last character. -/
theorem spaceSeparators_append {front : List Char} (h : ∀ c ∈ front, c ≠ '_' ∧ c ≠ '.')
    (text : List Char) : spaceSeparators before (front ++ text) =
      front ++ spaceSeparators (front.getLast?.or before) text := by
  induction front generalizing before with
  | nil => rfl
  | cons c front ih =>
    obtain ⟨hc, hrest⟩ := List.forall_mem_cons.mp h
    simp [spaceSeparators, hc, ih hrest, List.getLast?_cons]

/-- Separators of any kind between words become spaces. -/
theorem spaceSeparators_joinWith {separator : Char} (hseparator : separator ∈ ['.', '_', ' '])
    {pieces : List (List Char)}
    (h : ∀ piece ∈ pieces, piece ≠ [] ∧ ∀ c ∈ piece, c ∉ ['.', '_', ' ']) :
    spaceSeparators before (joinWith [separator] pieces) = joinWith [' '] pieces := by
  have hfree {piece : List Char} (hpiece : piece ∈ pieces) : ∀ c ∈ piece, c ≠ '_' ∧ c ≠ '.' :=
    fun c hc => by
      have hnot := (h piece hpiece).2 c hc
      simp only [List.mem_cons, List.not_mem_nil, or_false, not_or] at hnot
      exact ⟨hnot.2.1, hnot.1⟩
  induction pieces using joinWith.induct generalizing before with
  | case1 => rfl
  | case2 piece =>
    exact spaceSeparators_of_free (hfree List.mem_cons_self)
  | case3 piece next pieces ih =>
    obtain ⟨⟨hpiece, hlast⟩, hrest⟩ := List.forall_mem_cons.mp h
    obtain ⟨hnext, hhead⟩ := hrest next List.mem_cons_self
    obtain ⟨front, last, rfl⟩ := (List.eq_nil_or_concat piece).resolve_left hpiece
    obtain ⟨d, next, rfl⟩ := List.exists_cons_of_ne_nil hnext
    -- no space stands on either side of the separator, so a full stop is no punctuation there
    have hbefore : last ≠ ' ' := fun hcontra => hlast last (by simp) (by simp [hcontra])
    have hbehind : (joinWith [separator] ((d :: next) :: pieces)).head? = some d :=
      head?_joinWith hnext
    have hd : d ≠ ' ' := fun hcontra => hhead d List.mem_cons_self (by simp [hcontra])
    have htail {before : Option Char} :=
      @ih before hrest fun hmem => hfree (List.mem_cons_of_mem _ hmem)
    rw [joinWith, List.append_assoc, spaceSeparators_append (hfree List.mem_cons_self),
      List.singleton_append, spaceSeparators, htail, hbehind, joinWith, List.append_assoc]
    simp only [List.mem_cons, List.not_mem_nil, or_false] at hseparator
    rcases hseparator with rfl | rfl | rfl <;> simp [hbefore, hd]

/-- What is cleaned to words without punctuation are these words. -/
theorem cleanSeparators_of_words {items : List (List Char)}
    (hwords : words (spaceSeparators none text) = items)
    (hitems : ∀ item ∈ items, item ≠ [] ∧ ∀ c ∈ item, isEndJunk c = false) :
    cleanSeparators text = joinWith [' '] items := by
  have hend {c : Char} (hc : c ∈ (joinWith [' '] items).head? ∨
      c ∈ (joinWith [' '] items).getLast?) : isEndJunk c = false := by
    obtain ⟨item, hitem, hc⟩ := exists_mem_of_end_joinWith (fun item h => (hitems item h).1) hc
    exact (hitems item hitem).2 c hc
  rw [cleanSeparators, collapseBlanks, hwords]
  exact trimBy_eq_self (fun c hc => hend (.inl hc)) (fun c hc => hend (.inr hc))

/-! ### Text that stays as it is -/

/-- What is left of a trimmed text is a stretch of it. -/
theorem infix_trimBy (p : Char → Bool) (text : List Char) : trimBy p text <:+: text := by
  have hend : trimEndBy p (trimStartBy p text) <+: trimStartBy p text := by
    rw [trimEndBy, ← List.reverse_suffix, List.reverse_reverse]
    exact List.dropWhile_suffix p
  exact hend.isInfix.trans (List.dropWhile_suffix p).isInfix

theorem trimBy_sublist (p : Char → Bool) (text : List Char) : (trimBy p text).Sublist text :=
  (infix_trimBy p text).sublist

theorem length_spaceSeparators (text : List Char) :
    (spaceSeparators before text).length = text.length := by
  induction text generalizing before with
  | nil => rfl
  | cons c text ih => rw [spaceSeparators, List.length_cons, List.length_cons, ih]

theorem mem_spaceSeparators (h : c ∈ spaceSeparators before text) : c ∈ text ∨ c = ' ' := by
  induction text generalizing before with
  | nil => cases h
  | cons d text ih =>
    rw [spaceSeparators] at h
    rcases List.mem_cons.mp h with rfl | h
    · split
      · exact .inr rfl
      · exact .inl List.mem_cons_self
    · exact (ih h).imp_left (List.mem_cons_of_mem d)

/-- Nothing but spaces comes into a text that is cleaned. -/
theorem mem_cleanSeparators (h : c ∈ cleanSeparators text) : c ∈ text ∨ c = ' ' := by
  rcases mem_collapseBlanks ((trimBy_sublist isEndJunk _).subset h) with hspaced | rfl
  · exact mem_spaceSeparators hspaced
  · exact .inr rfl

/-- Text that is the same after cleaning and trimming has one space between its words and no other
blanks. -/
theorem collapseBlanks_of_trim_cleanSeparators (h : trim (cleanSeparators text) = text) :
    collapseBlanks text = text := by
  have hsublist : text.Sublist (collapseBlanks (spaceSeparators none text)) := by
    have htrim := (trimBy_sublist isBlank (cleanSeparators text)).trans (trimBy_sublist isEndJunk _)
    rwa [← trim, h] at htrim
  -- no step makes the text longer, so none of them can have dropped anything
  have hlength := length_collapseBlanks_le (spaceSeparators none text)
  rw [length_spaceSeparators] at hlength
  rw [hsublist.eq_of_length_le hlength, collapseBlanks_collapseBlanks]

end MediaShelf.Text
