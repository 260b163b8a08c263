import MediaShelf.Proofs.Pattern.Render

/-!
# Destinations stay below their root

A rendered path goes up where one of its pieces consists of two full stops. Values of tokens hold no
slashes, so such a piece is a value by itself or is put together from full stops of literal texts
and of values that are nothing else.

## Main definitions

* `outline` — a rendered text in which a slash stands for every value but a full stop

## Main results

* `Outlines.infix_of_mem_splitBy` — a piece of two full stops shows in the outline
* `Context.value?_free` — values hold no slashes, and none but a name consists of two full stops
* `components_foldl_push` — no piece but two full stops leads up
* `components_destination` — a destination is its root and components none of which leads up
-/

namespace MediaShelf.Pattern

mutual

/-- The text of a segment, with a slash in place of a value that is neither empty nor a full
stop. -/
def Segment.outline (context : Context) : Segment → List Char
  | .literal text => text
  | .token kind =>
    let value := (context.value? kind).getD []
    if value = [] ∨ value = ['.'] then value else ['/']
  | .optional children => if context.resolves children then outline context children else []

/-- The text of segments in a row, with a slash in place of each value that is neither empty nor a
full stop. So full stops stand next to one another as they do in the rendered text. -/
def outline (context : Context) : List Segment → List Char
  | [] => []
  | segment :: rest => segment.outline context ++ outline context rest

end

/-! ### Outlines -/

/-- The second text has slashes in place of parts of the first that hold none, and are neither one
full stop nor two. -/
inductive Outlines : List Char → List Char → Prop where
  | nil : Outlines [] []
  | keep (part : List Char) {text edge : List Char} (h : Outlines text edge) :
    Outlines (part ++ text) (part ++ edge)
  | cover {value text edge : List Char} (hslash : '/' ∉ value) (hne : value ≠ [])
      (hone : value ≠ ['.']) (htwo : value ≠ ['.', '.']) (h : Outlines text edge) :
    Outlines (value ++ text) ('/' :: edge)

namespace Outlines

variable {text edge other otherEdge value : List Char}

theorem self (part : List Char) : Outlines part part := by
  simpa using Outlines.keep part .nil

theorem append (h : Outlines text edge) (hother : Outlines other otherEdge) :
    Outlines (text ++ other) (edge ++ otherEdge) := by
  induction h with
  | nil => exact hother
  | keep part _ ih =>
    rw [List.append_assoc, List.append_assoc]
    exact .keep part ih
  | cover hslash hne hone htwo _ ih =>
    rw [List.append_assoc]
    exact .cover hslash hne hone htwo ih

/-- A covered part is no part of two full stops. -/
theorem not_infix_of_ne (hne : value ≠ []) (hone : value ≠ ['.']) (htwo : value ≠ ['.', '.']) :
    ¬ value <:+: ['.', '.'] := by
  intro h
  have hstops : List.Sublist value (List.replicate 2 '.') := h.sublist
  obtain ⟨n, hn, rfl⟩ := List.sublist_replicate_iff.mp hstops
  obtain rfl | rfl | rfl : n = 0 ∨ n = 1 ∨ n = 2 := by omega
  · exact hne rfl
  · exact hone rfl
  · exact htwo rfl

/-- A piece of two full stops shows in the outline. -/
theorem infix_of_mem_splitBy (h : Outlines text edge) (front : List Char)
    (hup : ['.', '.'] ∈ Text.splitBy (· == '/') (front ++ text)) :
    ['.', '.'] <:+: front ++ edge := by
  induction h generalizing front with
  | nil => exact Text.infix_of_mem_splitBy hup
  | keep part _ ih =>
    rw [← List.append_assoc] at hup ⊢
    exact ih _ hup
  | @cover value text edge hslash hne hone htwo _ ih =>
    have hfree : ∀ c ∈ value, (c == '/') = false := by
      intro c hc
      rw [beq_eq_false_iff_ne]
      rintro rfl
      exact hslash hc
    rcases Text.mem_splitBy_around hfree hup with hfront | hback | hvalue
    · exact (Text.infix_of_mem_splitBy hfront).trans (List.prefix_append front _).isInfix
    · have hrest : ['.', '.'] <:+: [] ++ edge := ih [] hback
      exact hrest.trans ((List.suffix_cons '/' edge).trans (List.suffix_append front _)).isInfix
    · exact absurd hvalue (not_infix_of_ne hne hone htwo)

end Outlines

variable {context : Context}

mutual

/-- What is rendered for a segment and its outline, if no value holds a slash or consists of two
full stops. -/
theorem Segment.outlines_render (segment : Segment)
    (hfree : ∀ kind, segment.uses kind → ∀ value, context.value? kind = some value →
      '/' ∉ value ∧ value ≠ ['.', '.']) :
    Outlines (segment.render context) (segment.outline context) := by
  match segment with
  | .literal text => exact .self text
  | .token kind =>
    simp only [Segment.render, Segment.outline]
    split
    · exact .self _
    · rename_i hvalue
      obtain ⟨hne, hone⟩ := not_or.mp hvalue
      cases hsome : context.value? kind with
      | none => simp [hsome] at hne
      | some value =>
        rw [hsome, Option.getD_some] at hne hone
        obtain ⟨hslash, htwo⟩ := hfree kind (by simp [Segment.uses]) value hsome
        simpa using Outlines.cover hslash hne hone htwo .nil
  | .optional children =>
    rw [Segment.render, Segment.outline]
    split
    · exact outlines_render children hfree
    · exact .nil

/-- What is rendered and its outline. -/
theorem outlines_render (segments : List Segment)
    (hfree : ∀ kind, uses kind segments → ∀ value, context.value? kind = some value →
      '/' ∉ value ∧ value ≠ ['.', '.']) :
    Outlines (render context segments) (outline context segments) := by
  match segments with
  | [] => exact .nil
  | segment :: rest =>
    rw [render, outline]
    exact (segment.outlines_render fun kind hkind => hfree kind (by simp [uses, hkind])).append
      (outlines_render rest fun kind hkind => hfree kind (by simp [uses, hkind]))

end

/-! ### Values -/

/-- Whether an extension has neither full stops nor slashes. -/
def isBare (extension : String) : Bool := extension.toList.all fun c => c ≠ '.' ∧ c ≠ '/'

/-- Values hold no slashes, and none but a name consists of two full stops, if the extension is
bare. -/
theorem Context.value?_free {kind : Token} {value : List Char}
    (h : context.value? kind = some value)
    (hname : kind ∈ [.showName, .title, .id] → value ≠ ['.', '.'])
    (hextension : ∀ extension, context.extension = some extension → isBare extension) :
    '/' ∉ value ∧ value ≠ ['.', '.'] := by
  have hbare (hkind : kind = .extension) : ∀ c ∈ value, c ≠ '.' ∧ c ≠ '/' := by
    subst hkind
    obtain ⟨extension, hextended, rfl⟩ := Option.map_eq_some_iff.mp h
    intro c hc
    have hall := List.all_eq_true.mp (hextension extension hextended)
    simpa using hall c (Text.mem_of_mem_trimStartBy hc)
  constructor
  · exact Context.not_mem_of_not_isClean h rfl fun hkind hc => (hbare hkind _ hc).2 rfl
  · rintro rfl
    have hstop (hnumber : kind.isNumber) : False := by
      have hdigit := Context.mem_number h hnumber List.mem_cons_self
      revert hdigit
      decide
    cases kind with
    | showName | title | id => exact hname (by simp) rfl
    | extension => exact (hbare rfl '.' List.mem_cons_self).1 rfl
    | season | episode | year | part => exact hstop rfl

/-! ### Destinations -/

/-- No piece but two full stops leads up, at the start of a path or further on. -/
theorem ne_up_of_piece {piece : List Char} (h : piece ≠ ['.', '.']) :
    Path.firstComponent? piece ≠ some .up ∧ Path.innerComponent? piece ≠ some .up := by
  have hinner : Path.innerComponent? piece ≠ some .up := by
    unfold Path.innerComponent?
    rw [if_neg h]
    split <;> simp
  refine ⟨?_, hinner⟩
  unfold Path.firstComponent?
  split
  · simp
  · exact hinner

/-- Pieces put behind a path become components behind its own, none of which leads up. -/
theorem components_foldl_push (pieces : List (List Char)) (hslash : ∀ piece ∈ pieces, '/' ∉ piece)
    (hup : ['.', '.'] ∉ pieces) (root : Path) :
    ∃ added, (pieces.foldl Path.push root).components = root.components ++ added ∧ .up ∉ added := by
  obtain ⟨added, hadded, hfrom⟩ := Path.exists_components_foldl_push pieces hslash root
  refine ⟨added, hadded, fun hmem => ?_⟩
  obtain ⟨piece, hpiece, hcomponent⟩ := hfrom .up hmem
  obtain ⟨hfirst, hinner⟩ := ne_up_of_piece fun heq => hup (heq ▸ hpiece)
  exact hcomponent.elim hinner fun h => hfirst h.2

/-- A destination is the root and components behind it, none of which leads up, if no full stops of
literal texts meet, no name that the pattern uses is normalized to two of them, and the extension is
bare. -/
theorem components_destination (pattern : Pattern) (root : Path) (context : Context)
    (hliterals : ¬ ['.', '.'] <:+: outline context pattern.segments)
    (hnames : ∀ kind ∈ [.showName, .title, .id], pattern.contains kind →
      context.value? kind ≠ some ['.', '.'])
    (hextension : ∀ extension, context.extension = some extension → isBare extension) :
    ∃ added, (pattern.destination root context).components = root.components ++ added ∧
      .up ∉ added := by
  have houtline :
      Outlines (render context pattern.segments) (outline context pattern.segments) := by
    refine outlines_render pattern.segments fun kind hused value hvalue => ?_
    refine Context.value?_free hvalue (fun hkind => ?_) hextension
    rintro rfl
    exact hnames kind hkind hused hvalue
  refine components_foldl_push _ (fun piece hpiece hslash => ?_) (fun hup => ?_) root
  · exact absurd (Text.not_of_mem_splitBy (List.mem_filter.mp hpiece).1 hslash) (by decide)
  · exact hliterals (houtline.infix_of_mem_splitBy [] (List.mem_filter.mp hup).1)

/-- A show and a title that look like paths, and a group that is left out between full stops and
text. -/
theorem components_destination_hostile :
    let pattern : Pattern := ⟨"%n/.%s %t\x7b.%y\x7d.%x",
      [.token .showName, .literal ['/', '.'], .token .season, .literal [' '], .token .title,
        .optional [.literal ['.'], .token .year], .literal ['.'], .token .extension]⟩
    let context : Context :=
      { showName := some "../../etc", season := some 1, title := some "/../../!!",
        extension := some "avi" }
    Pattern.compile pattern.source = .ok pattern ∧
      ¬ ['.', '.'] <:+: outline context pattern.segments ∧
      (∀ kind ∈ [.showName, .title, .id], pattern.contains kind →
        context.value? kind ≠ some ['.', '.']) ∧
      (∀ extension, context.extension = some extension → isBare extension) ∧
      ∃ added, (pattern.destination (.ofString "/media") context).components =
        [.root, .name "media".toList] ++ added ∧ .up ∉ added := by
  intro pattern context
  have hcompile : Pattern.compile pattern.source = .ok pattern :=
    compile_of_segments (by simp only [pattern]; rfl) (by decide)
  have hliterals : ¬ ['.', '.'] <:+: outline context pattern.segments := by decide +kernel
  have hnames : ∀ kind ∈ [.showName, .title, .id], pattern.contains kind →
      context.value? kind ≠ some ['.', '.'] := by decide +kernel
  have hextension : ∀ extension, context.extension = some extension → isBare extension := by
    rintro _ ⟨⟩
    decide
  exact ⟨hcompile, hliterals, hnames, hextension,
    components_destination pattern (.ofString "/media") context hliterals hnames hextension⟩

/-- A show that is called by two full stops puts its files beside the root. -/
theorem components_destination_up :
    let pattern : Pattern := ⟨"%n/%t.%x",
      [.token .showName, .literal ['/'], .token .title, .literal ['.'], .token .extension]⟩
    let context : Context :=
      { showName := some "..", title := some "T", extension := some "avi" }
    Pattern.compile pattern.source = .ok pattern ∧
      (∀ text ∈ literals pattern.segments, ¬ ['.', '.'] <:+: text) ∧
      (∀ extension, context.extension = some extension → isBare extension) ∧
      ¬ ∃ added, (pattern.destination (.ofString "/media") context).components =
        (Path.ofString "/media").components ++ added ∧ .up ∉ added := by
  intro pattern context
  have hcompile : Pattern.compile pattern.source = .ok pattern :=
    compile_of_segments (by simp only [pattern]; rfl) (by decide)
  have hextension : ∀ extension, context.extension = some extension → isBare extension := by
    rintro _ ⟨⟩
    decide
  have hplace : (pattern.destination (.ofString "/media") context).components =
      (Path.ofString "/media").components ++ [.up, .name "T.avi".toList] := by decide +kernel
  refine ⟨hcompile, by decide, hextension, ?_⟩
  rintro ⟨added, hadded, hup⟩
  rw [hplace, List.append_cancel_left_eq] at hadded
  exact hup (hadded ▸ List.mem_cons_self)

end MediaShelf.Pattern
