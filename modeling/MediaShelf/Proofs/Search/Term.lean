import MediaShelf.Proofs.Text.Normalize
import MediaShelf.Search.Outcome

/-!
# Search terms

A term reaches a source only after junk and separators were taken out of it and it was normalized.
What is left, if anything, is its own normal form, and so is what remains of it later on.

## Main definitions

* `IsTerm` — text that can be searched for

## Main results

* `isTerm_of_isClean` — clean text is a term unless a blank stands at one of its ends
* `isTerm_cleanTerm` — what is left of a raw term
-/

namespace MediaShelf.Search

variable {text : List Char} {c : Char}

/-- Text that can be searched for: there is some, and it is its own normal form. -/
structure IsTerm (text : List Char) : Prop where
  ne_nil : text ≠ []
  normal : Text.normalizeChars text = text

namespace IsTerm

/-- Terms are clean. -/
theorem isClean (h : IsTerm text) (hc : c ∈ text) : Text.isClean c := by
  rw [← h.normal] at hc
  exact Text.isClean_of_mem_normalizeChars hc

/-- Trimming leaves a term alone. -/
theorem trim_eq (h : IsTerm text) : Text.trim text = text := by
  rw [← Text.normalizeChars_of_isClean fun c => h.isClean, h.normal]

/-- No term starts with a blank. -/
theorem isBlank_head? (h : IsTerm text) (hc : c ∈ text.head?) : Text.isBlank c = false := by
  obtain ⟨rest, rfl⟩ := List.head?_eq_some_iff.mp hc
  exact Text.isBlank_of_trim_eq_cons h.trim_eq

/-- No term ends with a blank. -/
theorem isBlank_getLast? (h : IsTerm text) (hc : c ∈ text.getLast?) : Text.isBlank c = false := by
  rw [← h.trim_eq] at hc
  exact Text.isBlank_of_mem_getLast?_trim hc

theorem toString_ne (h : IsTerm text) : String.ofList text ≠ "" := by
  intro hempty
  apply h.ne_nil
  simpa using congrArg String.toList hempty

theorem normalize_eq (h : IsTerm text) :
    Text.normalize (String.ofList text) = String.ofList text := by
  rw [Text.normalize, String.toList_ofList, h.normal]

end IsTerm

/-- Clean text is a term unless a blank stands at one of its ends. -/
theorem isTerm_of_isClean (hclean : ∀ c ∈ text, Text.isClean c) (hne : text ≠ [])
    (hhead : ∀ c ∈ text.head?, Text.isBlank c = false)
    (hlast : ∀ c ∈ text.getLast?, Text.isBlank c = false) : IsTerm text where
  ne_nil := hne
  normal := by rw [Text.normalizeChars_of_isClean hclean, Text.trim_eq_self hhead hlast]

/-- What is left of a raw term, if anything, can be searched for. -/
theorem isTerm_cleanTerm {stripTokens : List Regex} {raw : List Char}
    (h : cleanTerm stripTokens raw ≠ []) : IsTerm (cleanTerm stripTokens raw) where
  ne_nil := h
  normal := Text.normalizeChars_normalizeChars _

end MediaShelf.Search
