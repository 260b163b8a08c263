import MediaShelf.Text.Words

/-!
# Pieces of texts

Splitting at a predicate and joining with a separator are those of lists, so their laws are, too.

## Main results

* `append_eq_of_not_mem`, `infix_append_cons_iff` — a stretch without a separator is on one side of
  it
* `splitBy_append_cons` — a separator separates
* `splitBy_append` — where two texts meet, a piece of one goes on in the other
* `getElem?_splitBy` — the piece that a text without separators is a part of
* `not_of_mem_splitBy` — no piece holds a separator
* `splitBy_joinWith`, `joinWith_splitBy` — joining and splitting undo each other
* `joinWith_append` — pieces in two groups
* `isSome_behind?` — a mark is found in the texts that it stands in
-/

namespace MediaShelf.Text

variable {p : Char → Bool}

/-- What stands in front of the first of some separators is the same in any way to write a text. -/
theorem split_unique {c : Char} {a b x y : List Char} (ha : c ∉ a) (hb : c ∉ b)
    (h : a ++ c :: x = b ++ c :: y) : a = b ∧ x = y := by
  -- the first texts are compared letter by letter; where one ends early, the other has `c`
  induction a generalizing b with
  | nil =>
    cases b with
    | nil => exact ⟨rfl, (List.cons.inj h).2⟩
    | cons d b =>
      obtain ⟨rfl, -⟩ := List.cons.inj h
      exact absurd List.mem_cons_self hb
  | cons d a ih =>
    cases b with
    | nil =>
      obtain ⟨rfl, -⟩ := List.cons.inj h
      exact absurd List.mem_cons_self ha
    | cons e b =>
      obtain ⟨rfl, hrest⟩ := List.cons.inj h
      obtain ⟨rfl, hxy⟩ := ih (fun hc => ha (List.mem_cons_of_mem _ hc))
        (fun hc => hb (List.mem_cons_of_mem _ hc)) hrest
      exact ⟨rfl, hxy⟩

/-- So is what stands behind the last of some separators. -/
theorem split_unique_last {c : Char} {a b x y : List Char} (hx : c ∉ x) (hy : c ∉ y)
    (h : a ++ c :: x = b ++ c :: y) : a = b ∧ x = y := by
  have hreverse : x.reverse ++ c :: a.reverse = y.reverse ++ c :: b.reverse := by
    simpa using congrArg List.reverse h
  obtain ⟨hxy, hab⟩ := split_unique (by simpa using hx) (by simpa using hy) hreverse
  exact ⟨List.reverse_inj.mp hab, List.reverse_inj.mp hxy⟩

/-- A stretch that begins in front of a separator and does not hold it ends in front of it, too. -/
theorem append_eq_of_not_mem {c : Char} {front piece rest text behind : List Char} (hc : c ∉ piece)
    (hlength : front.length ≤ text.length) (h : front ++ (piece ++ rest) = text ++ c :: behind) :
    ∃ more, text = front ++ (piece ++ more) ∧ rest = more ++ c :: behind := by
  obtain ⟨middle, rfl⟩ : front <+: text :=
    List.prefix_of_prefix_length_le ⟨_, h⟩ (List.prefix_append text (c :: behind)) hlength
  rw [List.append_assoc, List.append_cancel_left_eq] at h
  obtain ⟨more, rfl, hrest⟩ | ⟨more, rfl, hbehind⟩ := List.append_eq_append_iff.mp h
  · exact ⟨more, rfl, hrest⟩
  · cases more with
    | nil => exact ⟨[], by simp, hbehind.symm⟩
    | cons d more =>
      obtain ⟨rfl, -⟩ := List.cons.inj hbehind
      exact absurd (by simp) hc

/-- So it stands on one side of the separator. -/
theorem infix_append_cons_iff {c : Char} {mark text behind : List Char} (hc : c ∉ mark) :
    mark <:+: text ++ c :: behind ↔ mark <:+: text ∨ mark <:+: behind := by
  constructor
  · rintro ⟨front, rest, h⟩
    rw [List.append_assoc] at h
    by_cases hlength : front.length ≤ text.length
    · obtain ⟨more, htext, -⟩ := append_eq_of_not_mem hc hlength h
      exact .inl ⟨front, more, by rw [htext, List.append_assoc]⟩
    · obtain ⟨lead, hlead⟩ : text ++ [c] <+: front :=
        List.prefix_of_prefix_length_le ⟨behind, by simp⟩ ⟨mark ++ rest, h⟩ (by simp; omega)
      refine .inr ⟨lead, rest, ?_⟩
      rw [← hlead] at h
      simpa using h
  · rintro (⟨front, rest, rfl⟩ | ⟨front, rest, rfl⟩)
    · exact ⟨front, rest ++ c :: behind, by simp⟩
    · exact ⟨text ++ c :: front, rest, by simp⟩

/-- Accepted characters in front of a text that starts with none are dropped. -/
theorem dropWhile_append_of_head {front text : List Char} (hfront : ∀ c ∈ front, p c)
    (htext : ∀ c ∈ text.head?, p c = false) : (front ++ text).dropWhile p = text := by
  rw [List.dropWhile_append_of_pos hfront]
  cases text with
  | nil => rfl
  | cons c text => rw [List.dropWhile_cons_of_neg (by simp [htext c rfl])]

/-- They are what is taken. -/
theorem takeWhile_append_of_head {front text : List Char} (hfront : ∀ c ∈ front, p c)
    (htext : ∀ c ∈ text.head?, p c = false) : (front ++ text).takeWhile p = front := by
  rw [List.takeWhile_append_of_pos hfront]
  cases text with
  | nil => exact List.append_nil front
  | cons c text =>
    rw [List.takeWhile_cons_of_neg (by simp [htext c rfl]), List.append_nil]

/-- Accepted characters up to one that is not are the same in any way to write a text. -/
theorem run_unique {a b x y : List Char} (ha : ∀ c ∈ a, p c) (hb : ∀ c ∈ b, p c)
    (hx : ∀ c ∈ x.head?, p c = false) (hy : ∀ c ∈ y.head?, p c = false) (h : a ++ x = b ++ y) :
    a = b ∧ x = y := by
  obtain rfl : a = b := by
    rw [← takeWhile_append_of_head ha hx, h, takeWhile_append_of_head hb hy]
  exact ⟨rfl, List.append_cancel_left h⟩

theorem splitBy_eq_splitOnP (text : List Char) : splitBy p text = text.splitOnP p := by
  induction text with
  | nil => rfl
  | cons c rest ih =>
    rw [splitBy, List.splitOnP_cons_eq_if_modifyHead, ih]
    split
    · rfl
    · cases hrest : rest.splitOnP p with
      | nil => exact absurd hrest (List.splitOnP_ne_nil p rest)
      | cons piece pieces => rfl

theorem joinWith_eq_intercalate (separator : List Char) (pieces : List (List Char)) :
    joinWith separator pieces = separator.intercalate pieces := by
  induction pieces using joinWith.induct with
  | case1 => rfl
  | case2 piece => simp [joinWith]
  | case3 piece next pieces ih => rw [joinWith, ih, List.intercalate_cons_cons, List.append_assoc]

/-- Pieces in two groups have a separator between the groups, too. -/
theorem joinWith_append {separator : List Char} {front back : List (List Char)}
    (hfront : front ≠ []) (hback : back ≠ []) :
    joinWith separator (front ++ back) =
      joinWith separator front ++ separator ++ joinWith separator back := by
  induction front using joinWith.induct with
  | case1 => exact absurd rfl hfront
  | case2 piece =>
    obtain ⟨next, back, rfl⟩ := List.exists_cons_of_ne_nil hback
    rfl
  | case3 piece next front ih =>
    have hrest := ih (List.cons_ne_nil next front)
    simp only [List.cons_append] at hrest ⊢
    rw [joinWith, hrest, joinWith]
    simp only [List.append_assoc]

/-- One more piece comes behind one more separator. -/
theorem joinWith_concat {separator last : List Char} {pieces : List (List Char)}
    (h : pieces ≠ []) :
    joinWith separator (pieces ++ [last]) = joinWith separator pieces ++ separator ++ last :=
  joinWith_append h (List.cons_ne_nil last [])

theorem splitBy_ne_nil (text : List Char) : splitBy p text ≠ [] := by
  rw [splitBy_eq_splitOnP]
  exact List.splitOnP_ne_nil p text

/-- The pieces depend on which characters of the text are separators, and on no others. -/
theorem splitBy_congr {q : Char → Bool} {text : List Char} (h : ∀ c ∈ text, p c = q c) :
    splitBy p text = splitBy q text := by
  induction text with
  | nil => rfl
  | cons c rest ih =>
    obtain ⟨hc, hrest⟩ := List.forall_mem_cons.mp h
    rw [splitBy, splitBy, hc, ih hrest]

/-- A text without separators is its only piece. -/
theorem splitBy_of_free {text : List Char} (h : ∀ c ∈ text, p c = false) :
    splitBy p text = [text] := by
  rw [splitBy_eq_splitOnP, List.splitOnP_eq_singleton h]

/-- The pieces on both sides of a separator are those of the whole text. -/
theorem splitBy_append_cons {c : Char} (hc : p c) (before behind : List Char) :
    splitBy p (before ++ c :: behind) = splitBy p before ++ splitBy p behind := by
  simp only [splitBy_eq_splitOnP]
  exact List.splitOnP_append_cons before behind hc

/-- Where two texts meet, the last piece of one goes on with the first of the other. -/
theorem splitBy_append (front back : List Char) :
    ∃ before last next after, splitBy p front = before ++ [last] ∧
      splitBy p back = next :: after ∧
      splitBy p (front ++ back) = before ++ (last ++ next) :: after := by
  obtain ⟨next, after, hback⟩ := List.exists_cons_of_ne_nil (splitBy_ne_nil (p := p) back)
  induction front with
  | nil => exact ⟨[], [], next, after, rfl, hback, hback⟩
  | cons c front ih =>
    obtain ⟨before, last, next, after, hfront, hback, happend⟩ := ih
    rw [List.cons_append, splitBy, splitBy, hfront, happend]
    by_cases hc : p c
    · exact ⟨[] :: before, last, next, after, by simp [hc], hback, by simp [hc]⟩
    · cases before with
      | nil => exact ⟨[], c :: last, next, after, by simp [hc], hback, by simp [hc]⟩
      | cons piece before =>
        exact ⟨(c :: piece) :: before, last, next, after, by simp [hc], hback, by simp [hc]⟩

/-- Pieces are stretches of the text. -/
theorem infix_of_mem_splitBy {text piece : List Char} (h : piece ∈ splitBy p text) :
    piece <:+: text := by
  -- the first piece has to be a prefix, so that it can grow at its front
  suffices ∃ first rest, splitBy p text = first :: rest ∧ first <+: text ∧
      ∀ other ∈ rest, other <:+: text by
    obtain ⟨first, rest, hsplit, hfirst, hrest⟩ := this
    rw [hsplit] at h
    rcases List.mem_cons.mp h with rfl | h
    · exact hfirst.isInfix
    · exact hrest piece h
  clear h
  induction text with
  | nil => exact ⟨[], [], rfl, List.prefix_rfl, by simp⟩
  | cons c text ih =>
    obtain ⟨first, rest, hsplit, hfirst, hrest⟩ := ih
    have hgrow : ∀ other ∈ rest, other <:+: c :: text :=
      fun other hother => (hrest other hother).trans (List.suffix_cons c text).isInfix
    rw [splitBy, hsplit]
    by_cases hc : p c
    · refine ⟨[], first :: rest, by simp [hc], List.nil_prefix, ?_⟩
      rintro other hother
      rcases List.mem_cons.mp hother with rfl | hother
      · exact hfirst.isInfix.trans (List.suffix_cons c text).isInfix
      · exact hgrow other hother
    · exact ⟨c :: first, rest, by simp [hc], (List.cons_prefix_cons).mpr ⟨rfl, hfirst⟩, hgrow⟩

/-- A text without separators goes on in both directions with a piece of the texts around it. -/
theorem splitBy_around {middle : List Char} (hmiddle : ∀ c ∈ middle, p c = false)
    (front back : List Char) :
    ∃ before last next after, splitBy p front = before ++ [last] ∧
      splitBy p back = next :: after ∧
      splitBy p (front ++ (middle ++ back)) = before ++ (last ++ middle ++ next) :: after := by
  obtain ⟨before, last, joined, others, hfront, hrest, happend⟩ :=
    splitBy_append (p := p) front (middle ++ back)
  obtain ⟨nothing, only, next, after, hsingle, hback, hbehind⟩ :=
    splitBy_append (p := p) middle back
  rw [splitBy_of_free hmiddle] at hsingle
  obtain ⟨rfl, rfl⟩ : nothing = [] ∧ middle = only := by
    cases nothing <;> simp_all
  obtain ⟨rfl, rfl⟩ : middle ++ next = joined ∧ after = others := by
    simpa using hbehind.symm.trans hrest
  exact ⟨before, last, next, after, hfront, hback, by rw [happend, List.append_assoc]⟩

/-- A text without separators is a part of one piece, and the other pieces are those of the texts
around it. -/
theorem mem_splitBy_around {front middle back piece : List Char}
    (hmiddle : ∀ c ∈ middle, p c = false) (h : piece ∈ splitBy p (front ++ (middle ++ back))) :
    piece ∈ splitBy p front ∨ piece ∈ splitBy p back ∨ middle <:+: piece := by
  obtain ⟨before, last, next, after, hfront, hback, hsplit⟩ := splitBy_around hmiddle front back
  rw [hsplit, List.mem_append, List.mem_cons] at h
  rcases h with h | rfl | h
  · exact .inl (hfront ▸ List.mem_append_left _ h)
  · exact .inr (.inr ⟨last, next, rfl⟩)
  · exact .inr (.inl (hback ▸ List.mem_cons_of_mem _ h))

/-- There is one piece more than separators. -/
theorem length_splitBy (text : List Char) : (splitBy p text).length = text.countP p + 1 := by
  induction text with
  | nil => rfl
  | cons c rest ih =>
    rw [splitBy, List.countP_cons]
    by_cases hc : p c
    · simp [hc, ih]
    · obtain ⟨first, pieces, hsplit⟩ := List.exists_cons_of_ne_nil (splitBy_ne_nil (p := p) rest)
      rw [hsplit] at ih ⊢
      simpa [hc] using ih

/-- Which piece a text without separators is a part of is told by the separators in front of it. -/
theorem getElem?_splitBy {middle : List Char} (hmiddle : ∀ c ∈ middle, p c = false)
    (front back : List Char) : ∃ left right,
      (splitBy p (front ++ (middle ++ back)))[front.countP p]? =
        some (left ++ middle ++ right) := by
  obtain ⟨before, last, next, after, hfront, -, hsplit⟩ := splitBy_around hmiddle front back
  have hlength : before.length = front.countP p := by
    have hpieces := length_splitBy (p := p) front
    rw [hfront, List.length_append, List.length_singleton] at hpieces
    exact Nat.succ.inj hpieces
  exact ⟨last, next, by rw [hsplit, ← hlength, List.getElem?_append_right (Nat.le_refl _)]; simp⟩

/-- No piece holds a separator. -/
theorem not_of_mem_splitBy {text piece : List Char} (hpiece : piece ∈ splitBy p text) {c : Char}
    (hc : c ∈ piece) : p c = false := by
  induction text generalizing piece with
  | nil =>
    rw [splitBy, List.mem_singleton] at hpiece
    rw [hpiece] at hc
    cases hc
  | cons d rest ih =>
    rw [splitBy] at hpiece
    split at hpiece
    · rcases List.mem_cons.mp hpiece with rfl | hrest
      · cases hc
      · exact ih hrest hc
    · rename_i hd
      split at hpiece
      · rename_i hnil
        exact absurd hnil (splitBy_ne_nil rest)
      · rename_i first pieces hsplit
        rcases List.mem_cons.mp hpiece with rfl | hrest
        · rcases List.mem_cons.mp hc with rfl | hc
          · simpa using hd
          · exact ih (by rw [hsplit]; exact List.mem_cons_self) hc
        · exact ih (by rw [hsplit]; exact List.mem_cons_of_mem _ hrest) hc

/-- The pieces hold nothing but characters of the text. -/
theorem mem_of_mem_splitBy {text piece : List Char} (hpiece : piece ∈ splitBy p text) {c : Char}
    (hc : c ∈ piece) : c ∈ text := by
  induction text generalizing piece with
  | nil =>
    rw [splitBy, List.mem_singleton] at hpiece
    rwa [hpiece] at hc
  | cons d rest ih =>
    rw [splitBy_eq_splitOnP, List.splitOnP_cons_eq_if_modifyHead, ← splitBy_eq_splitOnP] at hpiece
    split at hpiece
    · rcases List.mem_cons.mp hpiece with rfl | hrest
      · cases hc
      · exact List.mem_cons_of_mem _ (ih hrest hc)
    · obtain ⟨first, pieces, hsplit⟩ := List.exists_cons_of_ne_nil (splitBy_ne_nil (p := p) rest)
      rw [hsplit, List.modifyHead_cons] at hpiece
      rcases List.mem_cons.mp hpiece with rfl | hrest
      · refine (List.mem_cons.mp hc).elim (fun h => h ▸ List.mem_cons_self) fun hc => ?_
        exact List.mem_cons_of_mem _ (ih (hsplit ▸ List.mem_cons_self) hc)
      · exact List.mem_cons_of_mem _ (ih (hsplit ▸ List.mem_cons_of_mem _ hrest) hc)

theorem mem_joinWith {separator : List Char} {pieces : List (List Char)} {c : Char}
    (h : c ∈ joinWith separator pieces) : (∃ piece ∈ pieces, c ∈ piece) ∨ c ∈ separator := by
  induction pieces using joinWith.induct with
  | case1 => cases h
  | case2 piece => exact .inl ⟨piece, by simp, h⟩
  | case3 piece next pieces ih =>
    rw [joinWith, List.mem_append, List.mem_append] at h
    rcases h with (hfirst | hseparator) | hrest
    · exact .inl ⟨piece, List.mem_cons_self, hfirst⟩
    · exact .inr hseparator
    · exact (ih hrest).imp_left fun ⟨other, hother, hc⟩ =>
        ⟨other, List.mem_cons_of_mem _ hother, hc⟩

/-- Between its words a text gets spaces, and nothing else comes into it. -/
theorem mem_collapseBlanks {text : List Char} {c : Char} (h : c ∈ collapseBlanks text) :
    c ∈ text ∨ c = ' ' := by
  rcases mem_joinWith h with ⟨word, hword, hc⟩ | hc
  · exact .inl (mem_of_mem_splitBy (List.mem_filter.mp hword).1 hc)
  · exact .inr (List.mem_singleton.mp hc)

/-- Pieces without the separator come back when they are joined and split again. -/
theorem splitBy_joinWith {c : Char} {pieces : List (List Char)} (hne : pieces ≠ [])
    (hfree : ∀ piece ∈ pieces, c ∉ piece) : splitBy (· == c) (joinWith [c] pieces) = pieces := by
  rw [splitBy_eq_splitOnP, joinWith_eq_intercalate]
  exact List.splitOn_intercalate c hfree hne

/-- Pieces behind a first one get a separator each. -/
theorem joinWith_cons_eq_flatMap (c : Char) (first : List Char) (pieces : List (List Char)) :
    joinWith [c] (first :: pieces) = first ++ pieces.flatMap (c :: ·) := by
  induction pieces generalizing first with
  | nil => simp [joinWith]
  | cons piece pieces ih => simp [joinWith, ih]

/-- The first pieces make up the start of the text. -/
theorem joinWith_prefix {c : Char} {front pieces : List (List Char)} (h : front <+: pieces) :
    joinWith [c] front <+: joinWith [c] pieces := by
  obtain ⟨back, rfl⟩ := h
  cases front with
  | nil => exact List.nil_prefix
  | cons first front =>
    rw [List.cons_append, joinWith_cons_eq_flatMap, joinWith_cons_eq_flatMap, List.flatMap_append,
      ← List.append_assoc]
    exact List.prefix_append _ _

/-- The pieces of a text make up the text again. -/
theorem joinWith_splitBy (c : Char) (text : List Char) :
    joinWith [c] (splitBy (· == c) text) = text := by
  rw [splitBy_eq_splitOnP, joinWith_eq_intercalate]
  exact List.intercalate_splitOn c

/-- So the first piece starts the text. -/
theorem prefix_of_splitBy {c : Char} {text first : List Char} {rest : List (List Char)}
    (h : splitBy (· == c) text = first :: rest) : first <+: text := by
  rw [← joinWith_splitBy c text, h, joinWith_cons_eq_flatMap]
  exact List.prefix_append _ _

/-- The last piece ends it. -/
theorem suffix_of_splitBy {c : Char} {text last : List Char} {before : List (List Char)}
    (h : splitBy (· == c) text = before ++ [last]) : last <:+ text := by
  rw [← joinWith_splitBy c text, h]
  by_cases hbefore : before = []
  · rw [hbefore]
    exact List.suffix_rfl
  · rw [joinWith_concat hbefore]
    exact List.suffix_append _ _

/-- A mark is found in the texts that it stands in. -/
theorem isSome_behind? {mark text : List Char} (hmark : mark ≠ []) :
    (behind? mark text).isSome ↔ mark <:+: text := by
  induction text with
  | nil => simp [behind?, hmark]
  | cons c text ih =>
    rw [behind?, List.infix_cons_iff, ← ih]
    split
    · next h => simp [List.isPrefixOf_iff_prefix.mp h]
    · next h => simp [mt List.isPrefixOf_iff_prefix.mpr h]

end MediaShelf.Text
