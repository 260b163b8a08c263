import MediaShelf.Proofs.Config.StripTokens
import MediaShelf.Proofs.Search.ReleaseName
import MediaShelf.Proofs.Text.LetterCase
import MediaShelf.Proofs.Text.Separators

/-!
# Junk in release names

The usual junk is taken out of a release name before its separators are cleaned. A junk word is only
found between edges of words. A space and a full stop are such edges, but an underscore is not; and
where a junk word stood between full stops, a space stands, which keeps them.

## Main definitions

* `isReleaseJunk` — junk words
* `IsPiece` — what stands between separators while junk is taken out
* `termDetails` — what a film is searched for by

## Main results

* `strip_joinWith` — taking out the usual junk
* `cleanTerm_spaced`, `cleanTerm_underscored`, `cleanTerm_dotted` — what is left of a title
* `detailsOfName?_separators` — what release names with different separators tell
-/

namespace MediaShelf.Search

open MediaDirectory (formatWords codecWords resolutionWords formatToken codecToken resolutionToken)
open Pattern (FilmDetails)
open Regex (Node Plain Trace)

variable {c separator : Char} {item piece : List Char} {items pieces words : List (List Char)}

/-! ### Junk words -/

/-- The words that the usual junk stands for. -/
def junkWords : List (List Char) := formatWords ++ (codecWords ++ resolutionWords)

/-- Whether the text is one of the words in any letter case. -/
def isSpelt (words : List (List Char)) (text : List Char) : Bool :=
  words.contains (text.map Char.toLower)

/-- Whether the item is a junk word. -/
def isReleaseJunk (item : List Char) : Bool := isSpelt junkWords item

theorem junkWords_lower {word : List Char} (hword : word ∈ junkWords) {d : Char} (hd : d ∈ word) :
    d.toNat < 128 ∧ d.toLower = d ∧ d ≠ '_' := by
  have hall : junkWords.flatten.all fun d => d.toNat < 128 && d.toLower == d && d != '_' := by
    decide
  simpa [and_assoc] using List.all_eq_true.mp hall d (List.mem_flatten.mpr ⟨word, hword, hd⟩)

theorem isSpelt_iff (hwords : words ⊆ junkWords) (hpiece : ∀ c ∈ piece, c.toNat < 128) :
    isSpelt words piece ↔ Node.Spelt words piece := by
  rw [isSpelt, List.contains_iff_mem]
  constructor
  · intro hmem
    refine ⟨_, hmem, List.forall₂_map_left_iff.mpr (List.forall₂_same.mpr fun c _ => ?_)⟩
    rw [Text.sameLetter_comm, Text.sameLetter_toLower, Text.sameLetter, beq_self_eq_true]
  · rintro ⟨word, hword, hspelt⟩
    have hlower := Text.map_toLower_of_sameLetters
      (fun d hd => (junkWords_lower (hwords hword) hd).1) hpiece hspelt
    rw [hlower, List.map_congr_left fun d hd => (junkWords_lower (hwords hword) hd).2.1,
      List.map_id']
    exact hword

theorem isSpelt_space (hwords : words ⊆ junkWords) : isSpelt words [' '] = false := by
  have hnone : [' '] ∉ junkWords := by decide
  rw [isSpelt, Bool.eq_false_iff, ne_eq, List.contains_iff_mem]
  exact fun hmem => hnone (hwords hmem)

/-- A space in place of a junk word. -/
def swapJunk (words : List (List Char)) (piece : List Char) : List Char :=
  if isSpelt words piece then [' '] else piece

theorem swapJunk_of_not_junk (h : isReleaseJunk item = false) : swapJunk junkWords item = item := by
  rw [swapJunk, if_neg]
  exact Bool.eq_false_iff.mp h

/-- No junk word has an underscore in it. -/
theorem isReleaseJunk_of_underscore (h : '_' ∈ item) : isReleaseJunk item = false := by
  rw [isReleaseJunk, isSpelt, Bool.eq_false_iff, ne_eq, List.contains_iff_mem]
  intro hmem
  exact (junkWords_lower hmem (List.mem_map.mpr ⟨'_', h, rfl⟩)).2.2 rfl

/-- Junk words can be taken out in two steps. -/
theorem swapJunk_swapJunk {others : List (List Char)} (hothers : others ⊆ junkWords)
    (piece : List Char) :
    swapJunk others (swapJunk words piece) = swapJunk (words ++ others) piece := by
  have happend :
      isSpelt (words ++ others) piece = (isSpelt words piece || isSpelt others piece) := by
    simp only [isSpelt, List.contains_append]
  cases hspelt : isSpelt words piece <;> simp [swapJunk, happend, hspelt, isSpelt_space hothers]

/-! ### Pieces of release names -/

/-- What stands between separators while junk is taken out: a space in place of junk, or ASCII word
characters that do not read on as `h.264` does. -/
def IsPiece (piece : List Char) : Prop :=
  piece = [' '] ∨ (∀ c ∈ piece, c.isAlphanum ∨ c = '_') ∧ ¬['2', '6'] <+: piece

theorem isPiece_space : IsPiece [' '] := .inl rfl

/-- No year starts like `h.264` goes on. -/
theorem IsItem.not_startsWith (h : IsItem item) (rest : List Char) :
    ¬['2', '6'] <+: item ++ rest := by
  rintro ⟨more, hmore⟩
  obtain ⟨c, others, rfl⟩ := List.exists_cons_of_ne_nil h.ne_nil
  obtain ⟨rfl, -⟩ := List.cons.inj hmore
  obtain ⟨a, b, -, -, hyear | hyear⟩ := h.isPlainYear List.mem_cons_self (by decide)
  · simp at hyear
  · rw [hyear] at hmore
    simp at hmore

theorem IsItem.isPiece (h : IsItem item) : IsPiece item :=
  .inr ⟨fun _ hc => .inl (h.isAlphanum hc), by simpa using h.not_startsWith []⟩

/-- Items with underscores between them are one piece. -/
theorem isPiece_joinWith (hitems : ∀ item ∈ items, IsItem item) :
    IsPiece (Text.joinWith ['_'] items) := by
  refine .inr ⟨fun c hc => isAlphanum_of_mem_joinWith hitems hc, ?_⟩
  cases items with
  | nil => simp [Text.joinWith]
  | cons first items =>
    rw [Text.joinWith_cons_eq_flatMap]
    exact (hitems first List.mem_cons_self).not_startsWith _

theorem IsPiece.swapJunk (h : IsPiece piece) (words : List (List Char)) :
    IsPiece (swapJunk words piece) := by
  unfold Search.swapJunk
  split
  · exact isPiece_space
  · exact h

theorem toNat_of_isAlphanum (h : c.isAlphanum) : c.toNat < 128 := by
  rw [Text.isAlphanum_iff, Text.isUpper_iff, Text.isLower_iff, Text.isDigit_iff] at h
  omega

theorem IsPiece.toNat_lt (h : IsPiece piece) : ∀ c ∈ piece, c.toNat < 128 := by
  intro c hc
  rcases h with rfl | ⟨hword, -⟩
  · obtain rfl := List.mem_singleton.mp hc
    decide
  · rcases hword c hc with halphanum | rfl
    · exact toNat_of_isAlphanum halphanum
    · decide

/-! ### Taking out junk -/

section Strip

variable (hpieces : ∀ piece ∈ pieces, IsPiece piece) (hseparator : separator ∈ ['.', ' '])
include hpieces hseparator

/-- Between the words of such a text there are full stops and spaces only. -/
theorem isWordChar_of_mem_joinWith (hc : c ∈ Text.joinWith [separator] pieces) :
    Text.isWordChar c ∨ c ∈ ['.', ' '] := by
  rcases Text.mem_joinWith hc with ⟨piece, hpiece, hc⟩ | hc
  · rcases hpieces piece hpiece with rfl | ⟨hword, -⟩
    · rw [List.mem_singleton.mp hc]
      exact .inr (by simp)
    · rcases hword c hc with halphanum | rfl
      · exact .inl (by simp [Text.isWordChar, halphanum])
      · exact .inl rfl
  · rw [List.mem_singleton.mp hc]
    exact .inr hseparator

/-- The only junk word with a full stop does not stand across a separator. -/
theorem joinWith_ne_dotted {front rest : List Char} :
    Text.joinWith [separator] pieces ≠ front ++ '.' :: '2' :: '6' :: rest := by
  intro htext
  have hdot {piece : List Char} (hpiece : piece ∈ pieces) : '.' ∉ piece := by
    intro hmem
    rcases hpieces piece hpiece with rfl | ⟨hword, -⟩
    · exact absurd hmem (by decide)
    · exact absurd (hword '.' hmem) (by decide)
  have hseparatorDot : separator = '.' := by
    have hmem : '.' ∈ Text.joinWith [separator] pieces := by
      rw [htext]
      simp
    rcases Text.mem_joinWith hmem with ⟨piece, hpiece, hc⟩ | hc
    · exact absurd hc (hdot hpiece)
    · exact (List.mem_singleton.mp hc).symm
  subst hseparatorDot
  have hne : pieces ≠ [] := by
    rintro rfl
    simp [Text.joinWith] at htext
  have hsplit := Text.splitBy_joinWith hne fun piece => hdot
  rw [htext, Text.splitBy_append_cons (p := (· == '.')) (by decide)] at hsplit
  obtain ⟨next, after, hrest⟩ :=
    List.exists_cons_of_ne_nil (Text.splitBy_ne_nil (p := (· == '.')) rest)
  have hdigits : Text.splitBy (· == '.') ('2' :: '6' :: rest) = ('2' :: '6' :: next) :: after := by
    simp [Text.splitBy, hrest]
  rcases hpieces ('2' :: '6' :: next) (by rw [← hsplit, hdigits]; simp) with hspace | ⟨-, hprefix⟩
  · cases hspace
  · exact hprefix ⟨next, rfl⟩

/-- So all that a junk word matches are word characters. -/
theorem keepsToWords (hwords : words ⊆ junkWords) {token : Plain} (h : token.IsWholeWord words) :
    token.KeepsToWords (Text.joinWith [separator] pieces) := by
  intro front trace after hmatches c hc
  obtain ⟨run, ⟨word, hword, hrun⟩, rfl, -⟩ := h.reads_iff.mp hmatches.reads
  have htext := hmatches.text_eq
  rw [Trace.text_chars] at hc htext
  refine (isWordChar_of_mem_joinWith hpieces hseparator (by rw [htext]; simp [hc])).resolve_right
    fun hgap => ?_
  -- of all junk words only one has a character that is no word character
  have hdotted : word = ['h', '.', '2', '6', '4'] := by
    obtain ⟨d, hd, hsame⟩ := Text.exists_sameLetter hrun hc
    obtain rfl : c = d := by
      rw [Text.sameLetter_comm] at hsame
      simp only [List.mem_cons, List.not_mem_nil, or_false] at hgap
      rcases hgap with rfl | rfl <;>
        exact (Text.sameLetter_iff_eq (by decide) (by decide)).mp hsame
    have hall : junkWords.all fun word => word.all (! ['.', ' '].contains ·) ||
      word == ['h', '.', '2', '6', '4'] := by decide
    have hone := List.all_eq_true.mp hall word (hwords hword)
    rw [Bool.or_eq_true, beq_iff_eq, List.all_eq_true] at hone
    refine hone.resolve_left fun hnone => ?_
    have hnot := hnone c hd
    rw [List.contains_iff_mem.mpr hgap] at hnot
    cases hnot
  subst hdotted
  obtain ⟨first, back, -, hback, rfl⟩ := List.forall₂_cons_left_iff.mp hrun
  obtain rfl := Text.eq_of_sameLetters (by decide) hback
  have hdotted : Text.joinWith [separator] pieces =
      (front ++ [first]) ++ '.' :: '2' :: '6' :: ('4' :: after) := by
    rw [htext, List.append_assoc]
    rfl
  exact joinWith_ne_dotted hpieces hseparator hdotted

/-- One expression for junk words takes pieces out as a whole. -/
theorem replaceAll_joinWith (hwords : words ⊆ junkWords) {token : Plain}
    (h : token.IsWholeWord words) : token.replaceAll [' '] (Text.joinWith [separator] pieces) =
      Text.joinWith [separator] (pieces.map (swapJunk words)) := by
  have hbreak : Text.isWordChar separator = false := by
    simp only [List.mem_cons, List.not_mem_nil, or_false] at hseparator
    rcases hseparator with rfl | rfl <;> decide
  have hspelt : ∀ piece ∈ pieces, isSpelt words piece ↔ Node.Spelt words piece :=
    fun piece hpiece => isSpelt_iff hwords (hpieces piece hpiece).toNat_lt
  rw [Node.replaceAll_eq_replaceBehind]
  refine h.replaceBehind_joinWith hbreak hspelt (fun piece hpiece => ?_) (by simp)
    (keepsToWords hpieces hseparator hwords h)
  rcases hpieces piece hpiece with rfl | ⟨hword, -⟩
  · exact .inr ⟨isSpelt_space hwords, by simp; decide⟩
  · refine .inl fun c hc => ?_
    rcases hword c hc with halphanum | rfl
    · simp [Text.isWordChar, halphanum]
    · rfl

/-- Without brackets nothing is found in brackets. -/
theorem replaceAll_bracketToken (accepts : Char → Bool) :
    (Regex.bracketToken accepts).replaceAll [' '] (Text.joinWith [separator] pieces) =
      Text.joinWith [separator] pieces := by
  refine Node.replaceAll_eq_self fun front trace after hmatches => ?_
  obtain ⟨_, _, ⟨opening, hopening, rfl⟩, -, rfl⟩ := hmatches.reads
  obtain rfl : opening = '[' := by simpa using hopening
  have hmem : '[' ∈ Text.joinWith [separator] pieces := by
    rw [hmatches.text_eq]
    simp [Trace.text]
  rcases isWordChar_of_mem_joinWith hpieces hseparator hmem with hword | hgap
  · exact absurd hword (by decide)
  · exact absurd hgap (by decide)

/-- The usual junk is taken out word by word. -/
theorem strip_joinWith (accepts : Char → Bool) :
    [formatToken, codecToken, resolutionToken, Regex.bracketToken accepts].foldl
        (fun term token => token.replaceAll [' '] term) (Text.joinWith [separator] pieces) =
      Text.joinWith [separator] (pieces.map (swapJunk junkWords)) := by
  have hswap {words : List (List Char)} {pieces : List (List Char)}
      (h : ∀ piece ∈ pieces, IsPiece piece) :
      ∀ piece ∈ pieces.map (swapJunk words), IsPiece piece :=
    List.forall_mem_map.mpr fun piece hpiece => (h piece hpiece).swapJunk words
  have hformat : formatWords ⊆ junkWords := List.subset_append_left _ _
  have hrest : codecWords ++ resolutionWords ⊆ junkWords := List.subset_append_right _ _
  obtain ⟨hcodec, hresolution⟩ := List.append_subset.mp hrest
  have hone : swapJunk resolutionWords ∘ swapJunk codecWords ∘ swapJunk formatWords =
      swapJunk junkWords := by
    funext piece
    simp only [Function.comp_apply]
    rw [swapJunk_swapJunk hcodec, swapJunk_swapJunk hresolution, List.append_assoc, junkWords]
  simp only [List.foldl_cons, List.foldl_nil]
  rw [replaceAll_joinWith hpieces hseparator hformat MediaDirectory.isWholeWord_formatToken,
    replaceAll_joinWith (hswap hpieces) hseparator hcodec MediaDirectory.isWholeWord_codecToken,
    replaceAll_joinWith (hswap (hswap hpieces)) hseparator hresolution
      MediaDirectory.isWholeWord_resolutionToken,
    replaceAll_bracketToken (hswap (hswap (hswap hpieces))) hseparator, List.map_map, List.map_map,
    Function.comp_assoc, hone]

end Strip

/-! ### What is left of a title -/

/-- What a film is searched for by a term and a year, if there is a term. -/
def termDetails (term : List Char) (year : Option (List Char)) : Option FilmDetails :=
  if term.isEmpty then none else some ⟨String.ofList term, year.map String.ofList, none⟩

/-- Different terms are searched for differently. -/
theorem termDetails_injective {term other : List Char} {year : Option (List Char)}
    (h : termDetails term year = termDetails other year) : term = other := by
  cases term with
  | nil =>
    cases other with
    | nil => rfl
    | cons d other => simp [termDetails] at h
  | cons c term =>
    cases other with
    | nil => simp [termDetails] at h
    | cons d other =>
      have hterm : String.ofList (c :: term) = String.ofList (d :: other) := by
        simpa [termDetails] using h
      simpa using congrArg String.toList hterm

/-- Items are words without punctuation. -/
theorem IsItem.isBlank (h : IsItem item) (hc : c ∈ item) : Text.isBlank c = false :=
  h.eq_false (fun _ hblank => isAlphanum_of_isNameBreak (by simp [isNameBreak, hblank])) hc

theorem IsItem.isEndJunk (h : IsItem item) (hc : c ∈ item) : Text.isEndJunk c = false := by
  refine h.eq_false (fun d hjunk => ?_) hc
  simp only [Text.isEndJunk, Bool.or_eq_true, beq_iff_eq] at hjunk
  rcases hjunk with ((rfl | rfl) | rfl) | rfl <;> rfl

theorem words_items (hitems : ∀ item ∈ items, IsItem item) :
    Text.words (Text.joinWith [' '] items) = items :=
  Text.words_joinWith fun item hitem =>
    ⟨(hitems item hitem).ne_nil, fun _ => (hitems item hitem).isBlank⟩

theorem spaceSeparators_items (hitems : ∀ item ∈ items, IsItem item)
    (hseparator : separator ∈ itemSeparators) {before : Option Char} :
    Text.spaceSeparators before (Text.joinWith [separator] items) = Text.joinWith [' '] items :=
  Text.spaceSeparators_joinWith hseparator fun item hitem =>
    ⟨(hitems item hitem).ne_nil, fun _ => (hitems item hitem).not_mem_itemSeparators⟩

section Term

variable {tokens : List Regex} {accepts : Char → Bool} {title : List (List Char)}
  (htokens : tokens.map (·.node) =
    [formatToken, codecToken, resolutionToken, Regex.bracketToken accepts])
include htokens

/-- A text is cleaned when its junk words are out. -/
theorem cleanTerm_pieces (hpieces : ∀ piece ∈ pieces, IsPiece piece)
    (hseparator : separator ∈ ['.', ' ']) : cleanTerm tokens (Text.joinWith [separator] pieces) =
      Text.normalizeChars (Text.cleanSeparators
        (Text.joinWith [separator] (pieces.map (swapJunk junkWords)))) := by
  have hstrip : tokens.foldl (fun term token => token.replaceAll [' '] term)
      (Text.joinWith [separator] pieces) =
        Text.joinWith [separator] (pieces.map (swapJunk junkWords)) := by
    rw [← strip_joinWith hpieces hseparator accepts, ← htokens, List.foldl_map]
    rfl
  rw [cleanTerm, hstrip]

/-- If it is words then, these are the term. -/
theorem cleanTerm_joinWith (hpieces : ∀ piece ∈ pieces, IsPiece piece)
    (hseparator : separator ∈ ['.', ' ']) (hitems : ∀ item ∈ items, IsItem item)
    (hwords : Text.words (Text.spaceSeparators none
      (Text.joinWith [separator] (pieces.map (swapJunk junkWords)))) = items) :
    cleanTerm tokens (Text.joinWith [separator] pieces) = Text.joinWith [' '] items := by
  have hclean : Text.cleanSeparators (Text.joinWith [separator] (pieces.map (swapJunk junkWords))) =
      Text.joinWith [' '] items :=
    Text.cleanSeparators_of_words hwords fun item hitem =>
      ⟨(hitems item hitem).ne_nil, fun _ => (hitems item hitem).isEndJunk⟩
  have hself : Text.collapseBlanks (Text.joinWith [' '] items) = Text.joinWith [' '] items := by
    rw [Text.collapseBlanks, words_items hitems]
  rw [cleanTerm_pieces htokens hpieces hseparator, hclean, ← hself]
  refine Text.normalizeChars_collapseBlanks fun c hc => ?_
  rcases isAlphanum_of_mem_joinWith hitems hc with halphanum | rfl
  · simp [Text.isClean, halphanum]
  · rfl

variable (htitle : ∀ item ∈ title, IsItem item)
include htitle

/-- Between spaces junk words are taken out. -/
theorem cleanTerm_spaced : cleanTerm tokens (Text.joinWith [' '] title) =
    Text.joinWith [' '] (title.filter (! isReleaseJunk ·)) := by
  refine cleanTerm_joinWith htokens (fun item hitem => (htitle item hitem).isPiece) (by simp)
    (fun item hitem => htitle item (List.mem_of_mem_filter hitem)) ?_
  rw [Text.spaceSeparators_of_free, Text.words_joinWith_eq_flatMap]
  · clear htokens
    induction title with
    | nil => rfl
    | cons item title ih =>
      obtain ⟨hitem, hrest⟩ := List.forall_mem_cons.mp htitle
      rw [List.map_cons, List.flatMap_cons, ih hrest]
      cases hjunk : isReleaseJunk item with
      | true =>
        have hspace : swapJunk junkWords item = [' '] := if_pos hjunk
        rw [hspace, List.filter_cons_of_neg (by simp [hjunk])]
        rfl
      | false =>
        rw [swapJunk_of_not_junk hjunk, Text.words_of_free hitem.ne_nil fun _ => hitem.isBlank,
          List.filter_cons_of_pos (by simp [hjunk]), List.singleton_append]
  · intro c hc
    have hother : c ∉ itemSeparators ∨ c = ' ' := by
      rcases Text.mem_joinWith hc with ⟨piece, hpiece, hc⟩ | hc
      · obtain ⟨item, hitem, rfl⟩ := List.mem_map.mp hpiece
        rw [swapJunk] at hc
        split at hc
        · exact .inr (List.mem_singleton.mp hc)
        · exact .inl ((htitle item hitem).not_mem_itemSeparators hc)
      · exact .inr (List.mem_singleton.mp hc)
    rcases hother with hnot | rfl
    · constructor <;> rintro rfl <;> exact hnot (by simp [itemSeparators])
    · decide

/-- Between underscores they are not, since no word ends there. -/
theorem cleanTerm_underscored (hlong : 1 < title.length) :
    cleanTerm tokens (Text.joinWith ['_'] title) = Text.joinWith [' '] title := by
  have hpiece : ∀ piece ∈ [Text.joinWith ['_'] title], IsPiece piece := by
    simpa using isPiece_joinWith htitle
  have hkept : swapJunk junkWords (Text.joinWith ['_'] title) = Text.joinWith ['_'] title := by
    obtain ⟨first, rest, rfl⟩ := List.exists_cons_of_length_pos (Nat.zero_lt_of_lt hlong)
    obtain ⟨next, others, rfl⟩ := List.exists_cons_of_length_pos (Nat.lt_of_succ_lt_succ hlong)
    exact swapJunk_of_not_junk (isReleaseJunk_of_underscore (by simp [Text.joinWith]))
  have hone (text : List Char) : Text.joinWith ['.'] [text] = text := rfl
  have hclean := @cleanTerm_joinWith '.' title _ tokens accepts htokens hpiece (by simp) htitle
  rw [List.map_singleton, hone, hone, hkept] at hclean
  refine hclean ?_
  rw [spaceSeparators_items htitle (by simp [itemSeparators]), words_items htitle]

/-- Between full stops a title without junk words keeps its words. -/
theorem cleanTerm_dotted (hclean : ∀ item ∈ title, isReleaseJunk item = false) :
    cleanTerm tokens (Text.joinWith ['.'] title) = Text.joinWith [' '] title := by
  refine cleanTerm_joinWith htokens (fun item hitem => (htitle item hitem).isPiece) (by simp)
    htitle ?_
  have hkept : title.map (swapJunk junkWords) = title.map id :=
    List.map_congr_left fun item hitem => swapJunk_of_not_junk (hclean item hitem)
  rw [hkept, List.map_id, spaceSeparators_items htitle (by simp [itemSeparators]),
    words_items htitle]

end Term

/-! ### What release names tell -/

section Details

variable {title : List (List Char)} {year : Option (List Char)}
  (hitems : ∀ item ∈ items, IsItem item) (hcut : cutItems items = (title, year))
include hitems hcut

/-- The items of the title are items of the name. -/
theorem isItem_of_cutItems : ∀ item ∈ title, IsItem item := by
  have hstart := cutItems_prefix items
  rw [hcut] at hstart
  exact fun item hitem => hitems item (hstart.subset hitem)

variable (hne : items ≠ [])
include hne

/-- A release name tells its title when it is cleaned, and the year behind it. -/
theorem detailsOfName?_joinWith (hseparator : separator ∈ itemSeparators) (tokens : List Regex) :
    detailsOfName? tokens (Text.joinWith [separator] items) =
      termDetails (cleanTerm tokens (Text.joinWith [separator] title)) year := by
  obtain ⟨first, items, rfl⟩ := List.exists_cons_of_ne_nil hne
  simp only [detailsOfName?, stripDecorations_joinWith hitems hseparator,
    cutAtYear_joinWith hitems hseparator, hcut]
  rfl

/-- A single item stands without separators. -/
theorem detailsOfName?_of_single (hshort : title.length ≤ 1) {a b : Char} (ha : a ∈ itemSeparators)
    (hb : b ∈ itemSeparators) (tokens : List Regex) :
    detailsOfName? tokens (Text.joinWith [a] items) =
      detailsOfName? tokens (Text.joinWith [b] items) := by
  have hsame : Text.joinWith [a] title = Text.joinWith [b] title := by
    rcases title with _ | ⟨first, _ | ⟨next, others⟩⟩
    · rfl
    · rfl
    · exact absurd (Nat.succ_lt_succ (Nat.succ_pos _)) (Nat.not_lt.mpr hshort)
  rw [detailsOfName?_joinWith hitems hcut hne ha, detailsOfName?_joinWith hitems hcut hne hb, hsame]

section Usual

variable {tokens : List Regex} {accepts : Char → Bool} (htokens : tokens.map (·.node) =
  [formatToken, codecToken, resolutionToken, Regex.bracketToken accepts])
include htokens

theorem detailsOfName?_spaced : detailsOfName? tokens (Text.joinWith [' '] items) =
    termDetails (Text.joinWith [' '] (title.filter (! isReleaseJunk ·))) year := by
  rw [detailsOfName?_joinWith hitems hcut hne (by simp [itemSeparators]),
    cleanTerm_spaced htokens (isItem_of_cutItems hitems hcut)]

theorem detailsOfName?_underscored (hlong : 1 < title.length) :
    detailsOfName? tokens (Text.joinWith ['_'] items) =
      termDetails (Text.joinWith [' '] title) year := by
  rw [detailsOfName?_joinWith hitems hcut hne (by simp [itemSeparators]),
    cleanTerm_underscored htokens (isItem_of_cutItems hitems hcut) hlong]

/-- A title without junk words is told with any separator. -/
theorem detailsOfName?_of_clean (hlong : 1 < title.length)
    (hclean : ∀ item ∈ title, isReleaseJunk item = false)
    (hseparator : separator ∈ itemSeparators) :
    detailsOfName? tokens (Text.joinWith [separator] items) =
      termDetails (Text.joinWith [' '] title) year := by
  have hkept : title.filter (! isReleaseJunk ·) = title :=
    List.filter_eq_self.mpr fun item hitem => by simp [hclean item hitem]
  rcases List.mem_cons.mp hseparator with rfl | hother
  · rw [detailsOfName?_joinWith hitems hcut hne hseparator,
      cleanTerm_dotted htokens (isItem_of_cutItems hitems hcut) hclean]
  · rcases List.mem_pair.mp hother with rfl | rfl
    · exact detailsOfName?_underscored hitems hcut hne htokens hlong
    · rw [detailsOfName?_spaced hitems hcut hne htokens, hkept]

/-- Spaces and underscores tell the same of a title of several items only if it has no junk word. -/
theorem not_isReleaseJunk_of_exchange (hlong : 1 < title.length)
    (hsame : detailsOfName? tokens (Text.joinWith [' '] items) =
      detailsOfName? tokens (Text.joinWith ['_'] items)) :
    ∀ item ∈ title, isReleaseJunk item = false := by
  have htitle := isItem_of_cutItems hitems hcut
  rw [detailsOfName?_spaced hitems hcut hne htokens,
    detailsOfName?_underscored hitems hcut hne htokens hlong] at hsame
  have hwords := congrArg Text.words (termDetails_injective hsame)
  rw [words_items htitle, words_items fun item hitem => htitle item (List.mem_of_mem_filter hitem),
    List.filter_eq_self] at hwords
  exact fun item hitem => by simpa using hwords item hitem

end Usual

/-- What release names with different separators tell. Between spaces junk words are taken out of
the title, between underscores they stay, unless there is one item only. So the separators can be
exchanged if and only if the title is a single item or has no junk word. -/
theorem detailsOfName?_separators : ∃ tokens,
    MediaDirectory.compileAll MediaDirectory.defaultStripTokens = .ok tokens ∧
      detailsOfName? tokens (Text.joinWith [' '] items) =
        termDetails (Text.joinWith [' '] (title.filter (! isReleaseJunk ·))) year ∧
      (1 < title.length → detailsOfName? tokens (Text.joinWith ['_'] items) =
        termDetails (Text.joinWith [' '] title) year) ∧
      ((∀ a ∈ itemSeparators, ∀ b ∈ itemSeparators,
          detailsOfName? tokens (Text.joinWith [a] items) =
            detailsOfName? tokens (Text.joinWith [b] items)) ↔
        title.length ≤ 1 ∨ ∀ item ∈ title, isReleaseJunk item = false) := by
  obtain ⟨tokens, accepts, htokens, hnodes⟩ :=
    MediaDirectory.exists_compileAll_defaultStripTokens
  refine ⟨tokens, htokens, detailsOfName?_spaced hitems hcut hne hnodes,
    detailsOfName?_underscored hitems hcut hne hnodes, ?_⟩
  constructor
  · intro hsame
    rcases Nat.lt_or_ge 1 title.length with hlong | hshort
    · exact .inr (not_isReleaseJunk_of_exchange hitems hcut hne hnodes hlong
        (hsame ' ' (by simp [itemSeparators]) '_' (by simp [itemSeparators])))
    · exact .inl hshort
  · intro hcase a ha b hb
    rcases Nat.lt_or_ge 1 title.length with hlong | hshort
    · have hclean := hcase.resolve_left (Nat.not_le.mpr hlong)
      rw [detailsOfName?_of_clean hitems hcut hne hnodes hlong hclean ha,
        detailsOfName?_of_clean hitems hcut hne hnodes hlong hclean hb]
    · exact detailsOfName?_of_single hitems hcut hne hshort ha hb tokens

end Details

/-- Junk words behind the year do no harm, since the title ends in front of them. -/
theorem detailsOfName?_separators_year : ∃ tokens,
    MediaDirectory.compileAll MediaDirectory.defaultStripTokens = .ok tokens ∧
      detailsOfName? tokens "Blade Runner 2049 HDTV".toList =
        some ⟨"Blade Runner", some "2049", none⟩ ∧
      ∀ a ∈ itemSeparators, ∀ b ∈ itemSeparators,
        detailsOfName? tokens (Text.joinWith [a]
            ["Blade".toList, "Runner".toList, "2049".toList, "HDTV".toList]) =
          detailsOfName? tokens (Text.joinWith [b]
            ["Blade".toList, "Runner".toList, "2049".toList, "HDTV".toList]) := by
  have hitems : ∀ item ∈ ["Blade".toList, "Runner".toList, "2049".toList, "HDTV".toList],
      IsItem item := by
    simp only [List.forall_mem_cons]
    exact ⟨isItem_of_all (by decide), isItem_of_all (by decide),
      .inl ⟨'4', '9', rfl, rfl, .inr rfl⟩, isItem_of_all (by decide), by simp⟩
  have hcut : cutItems ["Blade".toList, "Runner".toList, "2049".toList, "HDTV".toList] =
      (["Blade".toList, "Runner".toList], some "2049".toList) := by decide
  obtain ⟨tokens, htokens, hspaced, -, hsame⟩ := detailsOfName?_separators hitems hcut (by simp)
  exact ⟨tokens, htokens, hspaced.trans (by decide), hsame.mpr (.inr (by decide))⟩

/-- Within a title they do: an underscore is no edge of a word, and full stops beside the space in
place of a junk word are kept. -/
theorem detailsOfName?_separators_junk : ∃ tokens,
    MediaDirectory.compileAll MediaDirectory.defaultStripTokens = .ok tokens ∧
      (∀ item ∈ ["Heat".toList, "HDTV".toList, "Special".toList], IsItem item) ∧
      detailsOfName? tokens "Heat HDTV".toList = some ⟨"Heat", none, none⟩ ∧
      detailsOfName? tokens "Heat_HDTV".toList = some ⟨"Heat HDTV", none, none⟩ ∧
      detailsOfName? tokens "Heat HDTV Special".toList = some ⟨"Heat Special", none, none⟩ ∧
      detailsOfName? tokens "Heat.HDTV.Special".toList = some ⟨"Heat. .Special", none, none⟩ := by
  obtain ⟨tokens, accepts, htokens, hnodes⟩ :=
    MediaDirectory.exists_compileAll_defaultStripTokens
  have hlong : ∀ item ∈ ["Heat".toList, "HDTV".toList, "Special".toList], IsItem item := by
    simp only [List.forall_mem_cons]
    exact ⟨isItem_of_all (by decide), isItem_of_all (by decide), isItem_of_all (by decide), by simp⟩
  have hshort : ∀ item ∈ ["Heat".toList, "HDTV".toList], IsItem item :=
    fun item hitem => hlong item (List.mem_append_left ["Special".toList] hitem)
  have hpieces : ∀ piece ∈ ["Heat".toList, "HDTV".toList, "Special".toList], IsPiece piece :=
    fun item hitem => (hlong item hitem).isPiece
  -- without a year the title has all items
  have hcutShort : cutItems ["Heat".toList, "HDTV".toList] =
      (["Heat".toList, "HDTV".toList], none) := by decide
  have hcutLong : cutItems ["Heat".toList, "HDTV".toList, "Special".toList] =
      (["Heat".toList, "HDTV".toList, "Special".toList], none) := by decide
  have hdot : '.' ∈ itemSeparators := by decide
  refine ⟨tokens, htokens, hlong, ?_, ?_, ?_, ?_⟩
  · exact (detailsOfName?_spaced hshort hcutShort (by simp) hnodes).trans (by decide)
  · exact (detailsOfName?_underscored hshort hcutShort (by simp) hnodes (by decide)).trans
      (by decide)
  · exact (detailsOfName?_spaced hlong hcutLong (by simp) hnodes).trans (by decide)
  · refine (detailsOfName?_joinWith hlong hcutLong (by simp) hdot tokens).trans ?_
    rw [cleanTerm_pieces hnodes hpieces (by simp)]
    decide +kernel

end MediaShelf.Search
