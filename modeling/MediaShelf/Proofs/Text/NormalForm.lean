import MediaShelf.Proofs.Text.Separators

/-!
# Normal forms of names

Titles are normalized, and release names are cleaned. Either way there is a form that names have
afterwards, told without the function, and names of that form are exactly those that stay as they
are. So a second round never changes what the first one gave.

Cleaning decides about a full stop by the characters next to it in the text that is given, and then
drops and replaces characters around it. What carries over to the outcome is that one side of every
full stop is a space or an end of the text: this holds of any stretch of such a text, and of such
texts with a space between them.

## Main definitions

* `IsNormal` — the form of normalized text
* `IsCleaned` — the form of cleaned text
* `DotsStandApart` — every full stop has a space or an end of the text on one side

## Main results

* `normalizeChars_eq_self_iff`, `normalize_normal` — normalized text and its form
* `cleanSeparators_eq_self_iff`, `cleanSeparators_cleaned` — cleaned text and its form
-/

namespace MediaShelf.Text

variable {text front back word : List Char} {before : Option Char} {c : Char}

/-! ### Normalized text -/

/-- The text consists of characters of names, and no space stands at either end. -/
structure IsNormal (text : List Char) : Prop where
  clean : ∀ c ∈ text, isClean c
  start : text.head? ≠ some ' '
  stop : text.getLast? ≠ some ' '

/-- The only blank that may stand in normalized text is the space. -/
theorem eq_space_of_isClean (hclean : isClean c) (hblank : isBlank c) : c = ' ' := by
  have hascii := toNat_of_isClean hclean
  have hsmall : c.toNat ∈ [9, 10, 11, 12, 13, 32] := by
    simp only [isBlank, Bool.or_eq_true, Bool.and_eq_true, decide_eq_true_eq, beq_iff_eq] at hblank
    simp only [List.mem_cons, List.not_mem_nil, or_false]
    omega
  obtain ⟨n, hn, hc⟩ : ∃ n ∈ [9, 10, 11, 12, 13, 32], Char.ofNat n = c :=
    ⟨c.toNat, hsmall, Char.ofNat_toNat c⟩
  have hothers : ∀ n ∈ [9, 10, 11, 12, 13, 32], isClean (Char.ofNat n) → Char.ofNat n = ' ' := by
    decide
  rw [← hc] at hclean ⊢
  exact hothers n hn hclean

/-- Text is its own normal form if it has the form of normalized text. -/
theorem IsNormal.normalizeChars_eq_self (h : IsNormal text) : normalizeChars text = text := by
  have hend {c : Char} (hc : c ∈ text) (hspace : c ≠ ' ') : isBlank c = false :=
    Bool.eq_false_iff.mpr fun hblank => hspace (eq_space_of_isClean (h.clean c hc) hblank)
  rw [normalizeChars_of_isClean h.clean]
  refine trim_eq_self (fun c hc => ?_) (fun c hc => ?_)
  · exact hend (List.mem_of_mem_head? hc) fun hspace => h.start (hspace ▸ hc)
  · exact hend (List.mem_of_mem_getLast? hc) fun hspace => h.stop (hspace ▸ hc)

/-- Normalized text has this form. -/
theorem isNormal_normalizeChars (text : List Char) : IsNormal (normalizeChars text) where
  clean _ := isClean_of_mem_normalizeChars
  start h := by cases of_mem_head?_trimBy h
  stop h := by cases of_mem_getLast?_trimBy h

/-- Exactly the texts of this form stay as they are. -/
theorem normalizeChars_eq_self_iff : normalizeChars text = text ↔ IsNormal text :=
  ⟨fun h => h ▸ isNormal_normalizeChars text, IsNormal.normalizeChars_eq_self⟩

theorem toList_normalize (text : String) :
    (normalize text).toList = normalizeChars text.toList := by
  rw [normalize, String.toList_ofList]

/-- Normalized text consists of characters of names, has no space at either end, and is not changed
when it is normalized again. Exactly the texts of this form are never changed. -/
theorem normalize_normal (text : String) :
    IsNormal (normalize text).toList ∧ normalize (normalize text) = normalize text ∧
      (normalize text = text ↔ IsNormal text.toList) := by
  have hself (text : String) : normalize text = text ↔ IsNormal text.toList := by
    rw [← String.toList_inj, toList_normalize, normalizeChars_eq_self_iff]
  have hnormal : IsNormal (normalize text).toList := by
    rw [toList_normalize]
    exact isNormal_normalizeChars text.toList
  exact ⟨hnormal, (hself _).mpr hnormal, hself text⟩

/-! ### Full stops beside spaces -/

/-- Every full stop has a space or an end of the text on one side. -/
def DotsStandApart (text : List Char) : Prop :=
  ∀ front back, text = front ++ '.' :: back →
    (∀ c ∈ front.getLast?, c = ' ') ∨ (∀ c ∈ back.head?, c = ' ')

/-- A stretch of the text may end where the text goes on, and an end is as good as a space. -/
theorem DotsStandApart.stretch (h : DotsStandApart text) (hword : word <:+: text) :
    DotsStandApart word := by
  obtain ⟨left, right, rfl⟩ := hword
  rintro front back rfl
  refine (h (left ++ front) (back ++ right) (by simp)).imp (fun hfront c hc => ?_)
    (fun hback c hc => ?_)
  · exact hfront c (by rw [List.getLast?_append, hc]; rfl)
  · exact hback c (by rw [List.head?_append, hc]; rfl)

/-- A space between two texts stands beside a full stop at the end of either. -/
theorem DotsStandApart.append_space (hfront : DotsStandApart front) (hback : DotsStandApart back) :
    DotsStandApart (front ++ ' ' :: back) := by
  intro left right h
  obtain ⟨middle, rfl, hmiddle⟩ | ⟨middle, rfl, hmiddle⟩ := List.append_eq_append_iff.mp h
  · cases middle with
    | nil => simp at hmiddle
    | cons d middle =>
      obtain ⟨rfl, rfl⟩ := List.cons.inj hmiddle
      refine (hback middle right rfl).imp_left fun hleft c hc => ?_
      cases middle with
      | nil => simpa using hc.symm
      | cons e middle => exact hleft c (by simpa using hc)
  · cases middle with
    | nil => simp at hmiddle
    | cons d middle =>
      obtain ⟨rfl, rfl⟩ := List.cons.inj hmiddle
      refine (hfront left middle rfl).imp_right fun hright c hc => ?_
      cases middle with
      | nil => simpa using hc.symm
      | cons e middle => exact hright c (by simpa using hc)

theorem dotsStandApart_joinWith {pieces : List (List Char)}
    (h : ∀ piece ∈ pieces, DotsStandApart piece) : DotsStandApart (joinWith [' '] pieces) := by
  induction pieces using joinWith.induct with
  | case1 => simp [DotsStandApart, joinWith]
  | case2 piece => exact h piece List.mem_cons_self
  | case3 piece next pieces ih =>
    rw [joinWith, List.append_assoc, List.singleton_append]
    exact (h piece List.mem_cons_self).append_space
      (ih fun other hother => h other (List.mem_cons_of_mem _ hother))

/-- Words are stretches of the text, so a full stop in a word ends or starts it. -/
theorem DotsStandApart.collapseBlanks (h : DotsStandApart text) :
    DotsStandApart (collapseBlanks text) :=
  dotsStandApart_joinWith fun _ hword =>
    h.stretch (infix_of_mem_splitBy (List.mem_filter.mp hword).1)

/-- A full stop is kept where a space stands beside it, and spaces are never replaced. -/
theorem beside_space_of_spaceSeparators (h : spaceSeparators before text = front ++ '.' :: back) :
    front.getLast?.or before = some ' ' ∨ back.head? = some ' ' := by
  -- what stands in front is told by the original character, and a space stays a space
  induction text generalizing before front with
  | nil => simp [spaceSeparators] at h
  | cons c text ih =>
    rw [spaceSeparators] at h
    cases front with
    | nil =>
      obtain ⟨hc, hrest⟩ := List.cons.inj h
      by_cases hbeside : before = some ' ' ∨ text.head? = some ' '
      · refine hbeside.imp_right fun hspace => ?_
        obtain ⟨rest, rfl⟩ := List.head?_eq_some_iff.mp hspace
        rw [← hrest, spaceSeparators]
        rfl
      · -- without a space beside it there would be a space in its place
        rw [not_or] at hbeside
        split at hc
        · cases hc
        · next hkept =>
          subst hc
          simp [hbeside] at hkept
    | cons d front =>
      obtain ⟨hd, hrest⟩ := List.cons.inj h
      refine (ih hrest).imp_left fun hbefore => ?_
      cases front with
      | nil =>
        obtain rfl : c = ' ' := by simpa using hbefore
        simpa using hd.symm
      | cons e front => rwa [List.getLast?_cons_cons]

theorem dotsStandApart_spaceSeparators (text : List Char) :
    DotsStandApart (spaceSeparators none text) := by
  intro front back h
  refine (beside_space_of_spaceSeparators h).imp (fun hfront c hc => ?_) (fun hback c hc => ?_)
  · simpa [show front.getLast? = some c from hc] using hfront
  · simpa [show back.head? = some c from hc] using hback

/-! ### Spaces between words -/

/-- There are never two spaces between words. -/
theorem not_infix_collapseBlanks (text : List Char) : ¬ [' ', ' '] <:+: collapseBlanks text := by
  rintro ⟨front, back, h⟩
  have hne : words text ≠ [] := by
    intro hnil
    simp [collapseBlanks, hnil, joinWith] at h
  have hsplit : splitBy (· == ' ') (collapseBlanks text) = words text := by
    refine splitBy_joinWith hne fun word hword hmem => ?_
    cases (isBlank_of_mem_words hword).2 ' ' hmem
  -- an empty piece would stand between the two
  rw [← h, List.append_assoc, List.cons_append, splitBy_append_cons rfl, List.cons_append,
    splitBy] at hsplit
  have hempty : [] ∈ words text := by
    rw [← hsplit]
    simp
  exact (isBlank_of_mem_words hempty).1 rfl

/-- Text whose blanks are single spaces between other characters is that of its words. -/
theorem collapseBlanks_eq_self (hblank : ∀ c ∈ text, isBlank c → c = ' ')
    (hsingle : ¬ [' ', ' '] <:+: text) (hstart : text.head? ≠ some ' ')
    (hstop : text.getLast? ≠ some ' ') : collapseBlanks text = text := by
  by_cases hnil : text = []
  · rw [hnil]
    rfl
  have hsplit : splitBy isBlank text = splitBy (· == ' ') text := by
    refine splitBy_congr fun c hc => ?_
    rw [Bool.eq_iff_iff, beq_iff_eq]
    exact ⟨hblank c hc, fun hspace => hspace ▸ rfl⟩
  have hjoin := joinWith_splitBy ' ' text
  -- an empty piece would stand at an end of the text or between two spaces
  have hfull : ∀ piece ∈ splitBy (· == ' ') text, piece ≠ [] := by
    rintro piece hpiece rfl
    obtain ⟨left, right, hpieces⟩ := List.append_of_mem hpiece
    rw [hpieces] at hjoin
    by_cases hleft : left = []
    · cases right with
      | nil => exact hnil (by rw [← hjoin, hleft]; rfl)
      | cons next right => exact hstart (by rw [← hjoin, hleft]; rfl)
    · cases right with
      | nil => exact hstop (by rw [← hjoin, joinWith_concat hleft]; simp)
      | cons next right =>
        refine hsingle ⟨joinWith [' '] left, joinWith [' '] (next :: right), ?_⟩
        rw [← hjoin, joinWith_append hleft (List.cons_ne_nil _ _)]
        simp [joinWith]
  rw [collapseBlanks, words, hsplit, List.filter_eq_self.mpr fun piece hpiece => ?_, hjoin]
  simpa using hfull piece hpiece

/-! ### Cleaned text -/

/-- The text has no underscores, single spaces and no other blanks, no punctuation of the ends at
its ends, and a space beside each full stop. -/
structure IsCleaned (text : List Char) : Prop where
  noUnderscore : '_' ∉ text
  blanks : ∀ c ∈ text, isBlank c → c = ' '
  single : ¬ [' ', ' '] <:+: text
  start : ∀ c ∈ text.head?, isEndJunk c = false
  stop : ∀ c ∈ text.getLast?, isEndJunk c = false
  dots : ∀ front back, text = front ++ '.' :: back →
    front.getLast? = some ' ' ∨ back.head? = some ' '

/-- Text without underscores and with a space beside each full stop has no separators. -/
theorem spaceSeparators_eq_self (hunderscore : '_' ∉ text)
    (hdots : ∀ front back, text = front ++ '.' :: back →
      front.getLast?.or before = some ' ' ∨ back.head? = some ' ') :
    spaceSeparators before text = text := by
  induction text generalizing before with
  | nil => rfl
  | cons c text ih =>
    have hrest : spaceSeparators (some c) text = text := by
      refine ih (fun hmem => hunderscore (List.mem_cons_of_mem c hmem)) fun front back h => ?_
      simpa [List.getLast?_cons] using hdots (c :: front) back (by rw [h]; rfl)
    have hc : c ≠ '_' := fun h => hunderscore (by simp [h])
    have hdot : c = '.' → before = some ' ' ∨ text.head? = some ' ' :=
      fun h => by simpa using hdots [] text (by rw [h]; rfl)
    rw [spaceSeparators, hrest, if_neg]
    simpa [hc, or_iff_not_imp_left] using hdot

/-- Text of the form of cleaned text stays as it is. -/
theorem IsCleaned.cleanSeparators_eq_self (h : IsCleaned text) : cleanSeparators text = text := by
  have hspaced : spaceSeparators none text = text :=
    spaceSeparators_eq_self h.noUnderscore fun front back htext => by
      simpa using h.dots front back htext
  have hcollapsed : collapseBlanks text = text :=
    collapseBlanks_eq_self h.blanks h.single (fun hc => by cases h.start ' ' hc)
      (fun hc => by cases h.stop ' ' hc)
  rw [cleanSeparators, hspaced, hcollapsed, trimBy_eq_self h.start h.stop]

theorem not_mem_spaceSeparators (text : List Char) : '_' ∉ spaceSeparators before text := by
  induction text generalizing before with
  | nil => exact List.not_mem_nil
  | cons c text ih =>
    rw [spaceSeparators, List.mem_cons, not_or]
    refine ⟨fun h => ?_, ih⟩
    split at h
    · cases h
    · next hkept => simp [← h] at hkept

/-- Cleaned text has this form. -/
theorem isCleaned_cleanSeparators (text : List Char) : IsCleaned (cleanSeparators text) := by
  have hstretch : cleanSeparators text <:+: collapseBlanks (spaceSeparators none text) :=
    infix_trimBy isEndJunk _
  have hapart : DotsStandApart (cleanSeparators text) :=
    (dotsStandApart_spaceSeparators text).collapseBlanks.stretch hstretch
  have hstart {c : Char} (hc : c ∈ (cleanSeparators text).head?) : isEndJunk c = false :=
    of_mem_head?_trimBy hc
  have hstop {c : Char} (hc : c ∈ (cleanSeparators text).getLast?) : isEndJunk c = false :=
    of_mem_getLast?_trimBy hc
  refine ⟨fun hmem => ?_, fun c hc hblank => ?_, fun hdouble => ?_, fun _ => hstart, fun _ => hstop,
    fun front back htext => ?_⟩
  · rcases mem_collapseBlanks (hstretch.subset hmem) with hmem | hspace
    · exact not_mem_spaceSeparators text hmem
    · cases hspace
  · rcases mem_joinWith (hstretch.subset hc) with ⟨word, hword, hmem⟩ | hspace
    · rw [(isBlank_of_mem_words hword).2 c hmem] at hblank
      cases hblank
    · exact List.mem_singleton.mp hspace
  · exact not_infix_collapseBlanks _ (hdouble.trans hstretch)
  · -- a full stop at an end would have been dropped, so there is a character on each side
    refine (hapart front back htext).imp (fun hfront => ?_) (fun hback => ?_)
    · cases hlast : front.getLast? with
      | none =>
        rw [List.getLast?_eq_none_iff.mp hlast] at htext
        cases hstart (c := '.') (by rw [htext]; rfl)
      | some c => rw [hfront c hlast]
    · cases hhead : back.head? with
      | none =>
        rw [List.head?_eq_none_iff.mp hhead] at htext
        cases hstop (c := '.') (by rw [htext]; simp)
      | some c => rw [hback c hhead]

/-- Exactly the texts of this form stay as they are. -/
theorem cleanSeparators_eq_self_iff : cleanSeparators text = text ↔ IsCleaned text :=
  ⟨fun h => h ▸ isCleaned_cleanSeparators text, IsCleaned.cleanSeparators_eq_self⟩

/-- Cleaned text has no underscores, single spaces and no other blanks, no punctuation of the ends
at its ends and a space beside each full stop, and it is not changed when it is cleaned again.
Exactly the texts of this form are never changed. -/
theorem cleanSeparators_cleaned (text : List Char) :
    IsCleaned (cleanSeparators text) ∧
      cleanSeparators (cleanSeparators text) = cleanSeparators text ∧
      (cleanSeparators text = text ↔ IsCleaned text) :=
  ⟨isCleaned_cleanSeparators text, (isCleaned_cleanSeparators text).cleanSeparators_eq_self,
    cleanSeparators_eq_self_iff⟩

end MediaShelf.Text
