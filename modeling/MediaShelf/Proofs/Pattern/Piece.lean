import MediaShelf.Proofs.Pattern.Render

/-!
# Pieces of paths

A path that belongs to a pattern is put together from literal texts and from texts of tokens, in the
order of the pattern, where some of the optional groups are left out. No value of a token but an
extension holds a slash, so that the values of a rendered path stay within its components, and which
component that is does not depend on the values.

## Main definitions

* `Piece`, `spell` — parts of a path, and the path that they make up
* `Takes` — pieces for the segments of a pattern, some of its groups left out
* `pieces` — the pieces of a rendered path

## Main results

* `spell_pieces`, `takes_pieces` — rendered pieces make up the rendered path
* `map_blank_pieces` — contexts with values for the same tokens lead to the same pieces but for the
  values
* `getElem?_splitBy_spell` — the component that a value stands in
* `count_slash_generate` — values neither add nor remove slashes
-/

namespace MediaShelf.Pattern

/-- A part of a path. -/
inductive Piece where
  /-- Literal text of the pattern. -/
  | literal (text : List Char)
  /-- The text of a token. -/
  | value (kind : Token) (text : List Char)
  deriving DecidableEq, Repr

namespace Piece

/-- The text of a piece. -/
def text : Piece → List Char
  | literal text => text
  | value _ text => text

/-- The text of a piece if it is literal. -/
def literalText : Piece → List Char
  | literal text => text
  | value _ _ => []

/-- The piece without the text of its token. -/
def blank : Piece → Piece
  | literal text => literal text
  | value kind _ => value kind []

end Piece

/-- The path that pieces make up. -/
def spell (row : List Piece) : List Char := row.flatMap Piece.text

/-- The literal texts of pieces in a row. -/
def spellLiterals (row : List Piece) : List Char := row.flatMap Piece.literalText

mutual

/-- The pieces are a way to take the segment: a group may be left out, and a token has any text. -/
def Segment.Takes : Segment → List Piece → Prop
  | .literal text, row => row = [.literal text]
  | .token kind, row => ∃ text, row = [.value kind text]
  | .optional children, row => Takes children row ∨ row = []

/-- The pieces are a way to take the segments, one after the other. -/
def Takes : List Segment → List Piece → Prop
  | [], row => row = []
  | segment :: rest, row =>
      ∃ front back, segment.Takes front ∧ Takes rest back ∧ row = front ++ back

end

/-! ### Rendered pieces -/

variable {context other : Context} {kind : Token} {text : List Char}

mutual

/-- The pieces of a rendered segment. -/
def Segment.pieces (context : Context) : Segment → List Piece
  | .literal text => [.literal text]
  | .token kind => [.value kind ((context.value? kind).getD [])]
  | .optional children => if context.resolves children then pieces context children else []

/-- The pieces of segments in a row that are rendered. -/
def pieces (context : Context) : List Segment → List Piece
  | [] => []
  | segment :: rest => segment.pieces context ++ pieces context rest

end

mutual

theorem Segment.spell_pieces (segment : Segment) :
    spell (segment.pieces context) = segment.render context := by
  match segment with
  | .literal text => simp [Segment.pieces, Segment.render, spell, Piece.text]
  | .token kind => simp [Segment.pieces, Segment.render, spell, Piece.text]
  | .optional children =>
    rw [Segment.pieces, Segment.render]
    split
    · exact spell_pieces children
    · rfl

/-- The pieces of a rendered path make it up. -/
theorem spell_pieces (segments : List Segment) :
    spell (pieces context segments) = render context segments := by
  match segments with
  | [] => rfl
  | segment :: rest =>
    rw [pieces, render, ← segment.spell_pieces, ← spell_pieces rest]
    exact List.flatMap_append

end

mutual

theorem Segment.takes_pieces (segment : Segment) : segment.Takes (segment.pieces context) := by
  match segment with
  | .literal text => rfl
  | .token kind => exact ⟨_, rfl⟩
  | .optional children =>
    rw [Segment.pieces]
    split
    · exact .inl (takes_pieces children)
    · exact .inr rfl

/-- They are a way to take the pattern. -/
theorem takes_pieces (segments : List Segment) : Takes segments (pieces context segments) := by
  match segments with
  | [] => rfl
  | segment :: rest => exact ⟨_, _, segment.takes_pieces, takes_pieces rest, rfl⟩

end

mutual

theorem Segment.eq_value_of_mem (segment : Segment)
    (h : .value kind text ∈ segment.pieces context) : text = (context.value? kind).getD [] := by
  match segment with
  | .literal _ => simp [Segment.pieces] at h
  | .token _ =>
    rw [Segment.pieces, List.mem_singleton] at h
    cases h
    rfl
  | .optional children =>
    rw [Segment.pieces] at h
    split at h
    · exact eq_value_of_mem children h
    · cases h

/-- The text of a token in a rendered path is its value. -/
theorem eq_value_of_mem (segments : List Segment) (h : .value kind text ∈ pieces context segments) :
    text = (context.value? kind).getD [] := by
  match segments with
  | [] => cases h
  | segment :: rest =>
    rcases List.mem_append.mp h with h | h
    · exact segment.eq_value_of_mem h
    · exact eq_value_of_mem rest h

end

/-! ### Two contexts -/

/-- Whether a row of segments is resolved depends on which tokens have values. -/
theorem Context.resolves_congr {segments : List Segment}
    (h : ∀ kind, uses kind segments → (context.value? kind).isSome = (other.value? kind).isSome) :
    context.resolves segments = other.resolves segments := by
  induction segments with
  | nil => rfl
  | cons segment rest ih =>
    have hrest := ih fun kind hkind => h kind (by simp [uses, hkind])
    simp only [Context.resolves, List.all_cons] at hrest ⊢
    rw [hrest]
    congr 1
    cases segment with
    | token kind => exact h kind (by simp [uses, Segment.uses])
    | literal _ => rfl
    | optional _ => rfl

mutual

theorem Segment.map_blank_pieces (segment : Segment)
    (h : ∀ kind, segment.uses kind → (context.value? kind).isSome = (other.value? kind).isSome) :
    (segment.pieces context).map Piece.blank = (segment.pieces other).map Piece.blank := by
  match segment with
  | .literal _ => rfl
  | .token _ => rfl
  | .optional children =>
    -- the group is rendered in both contexts or left out in both
    rw [Segment.pieces, Segment.pieces, Context.resolves_congr h]
    split
    · exact map_blank_pieces children h
    · rfl

/-- Contexts with values for the same tokens lead to the same pieces but for the values. -/
theorem map_blank_pieces (segments : List Segment)
    (h : ∀ kind, uses kind segments → (context.value? kind).isSome = (other.value? kind).isSome) :
    (pieces context segments).map Piece.blank = (pieces other segments).map Piece.blank := by
  match segments with
  | [] => rfl
  | segment :: rest =>
    rw [pieces, pieces, List.map_append, List.map_append,
      segment.map_blank_pieces fun kind hkind => h kind (by simp [uses, hkind]),
      map_blank_pieces rest fun kind hkind => h kind (by simp [uses, hkind])]

end

/-- Literal texts do not depend on the texts of tokens. -/
theorem spellLiterals_congr {row more : List Piece}
    (h : row.map Piece.blank = more.map Piece.blank) : spellLiterals row = spellLiterals more := by
  have hblank (row : List Piece) : spellLiterals (row.map Piece.blank) = spellLiterals row := by
    rw [spellLiterals, List.flatMap_map]
    exact List.flatMap_congr fun piece _ => by cases piece <;> rfl
  rw [← hblank row, h, hblank]

/-! ### Levels of a path -/

/-- No token has a text with a slash. -/
def IsLevel (row : List Piece) : Prop := ∀ kind text, .value kind text ∈ row → '/' ∉ text

/-- Values hold no slashes, as long as the extension holds none. -/
theorem isLevel_pieces (segments : List Segment)
    (hextension : ∀ extension ∈ context.extension, '/' ∉ extension.toList) :
    IsLevel (pieces context segments) := by
  intro kind text hmem
  obtain rfl := eq_value_of_mem segments hmem
  cases hvalue : context.value? kind with
  | none => exact List.not_mem_nil
  | some text =>
    refine Context.not_mem_of_not_isClean hvalue rfl fun hkind hslash => ?_
    subst hkind
    obtain ⟨extension, hextended, rfl⟩ := Option.map_eq_some_iff.mp hvalue
    exact hextension extension hextended (Text.mem_of_mem_trimStartBy hslash)

/-- The slashes of a path are those of its literal texts. -/
theorem count_slash_spell {row : List Piece} (h : IsLevel row) :
    (spell row).count '/' = (spellLiterals row).count '/' := by
  induction row with
  | nil => rfl
  | cons piece row ih =>
    have hrest := ih fun kind text hmem => h kind text (List.mem_cons_of_mem _ hmem)
    simp only [spell, spellLiterals, List.flatMap_cons, List.count_append] at hrest ⊢
    rw [hrest]
    cases piece with
    | literal _ => rfl
    | value kind text =>
      have hnone : text.count '/' = 0 := List.count_eq_zero.mpr (h kind text List.mem_cons_self)
      simp [Piece.text, Piece.literalText, hnone]

/-- The text of a token stands in the component that the literal texts in front of it lead to. -/
theorem getElem?_splitBy_spell {front back : List Piece}
    (h : IsLevel (front ++ .value kind text :: back)) : ∃ left right,
      (Text.splitBy (· == '/') (spell (front ++ .value kind text :: back)))[
        (spellLiterals front).count '/']? = some (left ++ text ++ right) := by
  have hfront : IsLevel front := fun kind text hmem => h kind text (List.mem_append_left _ hmem)
  have hfree : ∀ c ∈ text, (c == '/') = false := by
    intro c hc
    rw [beq_eq_false_iff_ne]
    rintro rfl
    exact h kind text (by simp) hc
  have hspell :
      spell (front ++ .value kind text :: back) = spell front ++ (text ++ spell back) := by
    simp [spell, Piece.text]
  rw [hspell, ← count_slash_spell hfront]
  exact Text.getElem?_splitBy hfree (spell front) (spell back)

/-- Contexts with values for the same tokens of a pattern lead to paths with as many slashes, if
extensions hold none: those of the literal texts that are rendered. Both paths consist of pieces of
the pattern that are the same but for the values, and each value stands in the component that the
literal texts in front of it lead to. -/
theorem count_slash_generate (pattern : Pattern) (context other : Context)
    (hsame : ∀ kind, pattern.contains kind →
      (context.value? kind).isSome = (other.value? kind).isSome)
    (hextension : ∀ extension ∈ context.extension, '/' ∉ extension.toList)
    (hother : ∀ extension ∈ other.extension, '/' ∉ extension.toList) :
    let row := pieces context pattern.segments
    let path := (pattern.generate context).toList
    path.count '/' = (pattern.generate other).toList.count '/' ∧
      path.count '/' = (spellLiterals row).count '/' ∧
      row.map Piece.blank = (pieces other pattern.segments).map Piece.blank ∧
      Takes pattern.segments row ∧ path = spell row ∧
      ∀ front kind text back, row = front ++ .value kind text :: back → ∃ left right,
        (Text.splitBy (· == '/') path)[(spellLiterals front).count '/']? =
          some (left ++ text ++ right) := by
  intro row path
  have hpath (context : Context) :
      (pattern.generate context).toList = spell (pieces context pattern.segments) := by
    rw [generate, String.toList_ofList, spell_pieces]
  have hlevel : IsLevel row := isLevel_pieces pattern.segments hextension
  have hshape : row.map Piece.blank = (pieces other pattern.segments).map Piece.blank :=
    map_blank_pieces pattern.segments hsame
  have hcount : path.count '/' = (spellLiterals row).count '/' := by
    rw [show path = spell row from hpath context, count_slash_spell hlevel]
  refine ⟨?_, hcount, hshape, takes_pieces pattern.segments, hpath context,
    fun front kind text back hrow => ?_⟩
  · rw [hcount, spellLiterals_congr hshape, hpath other,
      count_slash_spell (isLevel_pieces pattern.segments hother)]
  · rw [show path = spell row from hpath context, hrow]
    exact getElem?_splitBy_spell (hrow ▸ hlevel)

/-- Names that look like paths, and a slash in a group that is rendered. -/
theorem count_slash_generate_hostile :
    let pattern : Pattern := ⟨"%n/%s\x7b/%p %t\x7d\x7b/%y\x7d.%x",
      [.token .showName, .literal ['/'], .token .season,
        .optional [.literal ['/'], .token .part, .literal [' '], .token .title],
        .optional [.literal ['/'], .token .year], .literal ['.'], .token .extension]⟩
    let context : Context := { showName := some "../a/b", season := some 1, part := some 2
                               title := some "/c\\d/", extension := some "avi" }
    let other : Context := { showName := some "", season := some 10, part := some 30
                             title := some "T", extension := some ".mkv" }
    Pattern.compile pattern.source = .ok pattern ∧
      (∀ kind, pattern.contains kind →
        (context.value? kind).isSome = (other.value? kind).isSome) ∧
      (∀ extension ∈ context.extension, '/' ∉ extension.toList) ∧
      (∀ extension ∈ other.extension, '/' ∉ extension.toList) ∧
      pattern.generate context = "..-a-b/01/2 -c-d-.avi" ∧
      (pattern.generate context).toList.count '/' = (pattern.generate other).toList.count '/' := by
  intro pattern context other
  have hcompile : Pattern.compile pattern.source = .ok pattern :=
    compile_of_segments (by simp only [pattern]; rfl) (by decide)
  have hsame : ∀ kind, pattern.contains kind →
      (context.value? kind).isSome = (other.value? kind).isSome := by
    intro kind _
    cases kind <;> simp [context, other, Context.value?]
  have hextension : ∀ extension ∈ context.extension, '/' ∉ extension.toList := by
    rintro _ ⟨⟩
    decide
  have hother : ∀ extension ∈ other.extension, '/' ∉ extension.toList := by
    rintro _ ⟨⟩
    decide
  exact ⟨hcompile, hsame, hextension, hother, by decide +kernel,
    (count_slash_generate pattern context other hsame hextension hother).1⟩

end MediaShelf.Pattern
