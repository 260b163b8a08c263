import MediaShelf.Proofs.Text.Normalize
import MediaShelf.Proofs.Text.Split

/-!
# Words

The words of a text are told on both sides of a blank on their own, and text whose blanks are
collapsed keeps its words. Collapsing never makes a text longer.

## Main results

* `words_append_cons`, `words_of_free`, `words_joinWith_eq_flatMap` — the words of a text that is
  put together
* `words_joinWith`, `collapseBlanks_collapseBlanks` — collapsing keeps the words
* `length_collapseBlanks_le` — collapsing makes no text longer
-/

namespace MediaShelf.Text

variable {p : Char → Bool} {text word : List Char} {c : Char}

/-- A blank belongs to no word and ends the one in front of it. -/
theorem words_append_cons (hc : isBlank c) (front back : List Char) :
    words (front ++ c :: back) = words front ++ words back := by
  rw [words, splitBy_append_cons hc, List.filter_append, words, words]

/-- Texts that meet at a blank keep their words. -/
theorem words_append {front back : List Char} (h : ∀ c ∈ back.head?, isBlank c) :
    words (front ++ back) = words front ++ words back := by
  cases back with
  | nil => simp [words, splitBy]
  | cons c back =>
    have hback := words_append_cons (h c rfl) [] back
    rw [List.nil_append] at hback
    rw [words_append_cons (h c rfl), hback]
    rfl

/-- Text without blanks is its only word. -/
theorem words_of_free (hne : word ≠ []) (hfree : ∀ c ∈ word, isBlank c = false) :
    words word = [word] := by
  rw [words, splitBy_of_free hfree, List.filter_cons_of_pos (by simpa using hne), List.filter_nil]

/-- Texts with spaces between them keep their words. -/
theorem words_joinWith_eq_flatMap (pieces : List (List Char)) :
    words (joinWith [' '] pieces) = pieces.flatMap words := by
  induction pieces using joinWith.induct with
  | case1 => rfl
  | case2 piece => simp [joinWith]
  | case3 piece next pieces ih =>
    rw [joinWith, List.append_assoc, List.singleton_append, words_append_cons rfl, ih]
    rfl

/-- Words with spaces between them are the words of the text that they make up. -/
theorem words_joinWith {pieces : List (List Char)}
    (h : ∀ word ∈ pieces, word ≠ [] ∧ ∀ c ∈ word, isBlank c = false) :
    words (joinWith [' '] pieces) = pieces := by
  have hword : pieces.flatMap words = pieces.flatMap fun word => [word] :=
    List.flatMap_congr fun word hword => words_of_free (h word hword).1 (h word hword).2
  rw [words_joinWith_eq_flatMap, hword, List.flatMap_singleton']

theorem words_collapseBlanks (text : List Char) : words (collapseBlanks text) = words text :=
  words_joinWith fun _ => isBlank_of_mem_words

/-- Nothing is left of a text without words, and of no other. -/
theorem collapseBlanks_eq_nil_iff : collapseBlanks text = [] ↔ words text = [] := by
  constructor
  · intro h
    rw [← words_collapseBlanks, h]
    rfl
  · intro h
    rw [collapseBlanks, h]
    rfl

theorem collapseBlanks_collapseBlanks (text : List Char) :
    collapseBlanks (collapseBlanks text) = collapseBlanks text := by
  rw [collapseBlanks, words_collapseBlanks, collapseBlanks]

/-- A text put together has its pieces and the separators between them. -/
theorem length_joinWith (c : Char) (pieces : List (List Char)) :
    (joinWith [c] pieces).length = pieces.flatten.length + (pieces.length - 1) := by
  induction pieces using joinWith.induct with
  | case1 => rfl
  | case2 piece => simp [joinWith]
  | case3 piece next pieces ih =>
    rw [joinWith, List.length_append, List.length_append, ih, List.length_singleton]
    simp only [List.flatten_cons, List.length_append, List.length_cons]
    omega

/-- The pieces of a text hold all of it but the separators. -/
theorem length_flatten_splitBy (text : List Char) :
    (splitBy p text).flatten.length + text.countP p = text.length := by
  induction text with
  | nil => rfl
  | cons c text ih =>
    rw [splitBy, List.countP_cons]
    obtain ⟨piece, pieces, hsplit⟩ := List.exists_cons_of_ne_nil (splitBy_ne_nil (p := p) text)
    by_cases hc : p c
    · rw [if_pos hc, if_pos hc, List.flatten_cons, List.nil_append, List.length_cons]
      omega
    · rw [hsplit] at ih ⊢
      rw [if_neg hc, if_neg hc]
      simp only [List.flatten_cons, List.length_append, List.length_cons] at ih ⊢
      omega

theorem length_collapseBlanks_le (text : List Char) :
    (collapseBlanks text).length ≤ text.length := by
  have hwords : (words text).length ≤ (splitBy isBlank text).length :=
    (List.filter_sublist).length_le
  have hflatten : (words text).flatten = (splitBy isBlank text).flatten :=
    List.flatten_filter_not_isEmpty
  have hsplit := length_flatten_splitBy (p := isBlank) text
  have hpieces := length_splitBy (p := isBlank) text
  rw [collapseBlanks, length_joinWith, hflatten]
  omega

end MediaShelf.Text
