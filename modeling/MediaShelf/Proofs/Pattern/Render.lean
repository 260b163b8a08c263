import MediaShelf.Pattern.Basic
import MediaShelf.Proofs.Path.Components
import MediaShelf.Proofs.Pattern.Token
import MediaShelf.Proofs.Text.Normalize
import MediaShelf.Proofs.Text.Numeral

/-!
# Rendered paths are matched

The texts that metadata are written as are texts of their tokens, and so what a pattern renders is
one of the texts that its expression matches.

## Main definitions

* `Context.Fits` — the values of tokens are texts of these tokens
* `literals` — the literal texts of segments

## Main results

* `Context.accepts_value?` — which values are texts of their tokens
* `exists_reads_render` — the rendered text is matched
* `stands_of_mem_render` — where the characters of a rendered text come from
* `isSome_matchPath?_generate` — what a pattern renders it also matches
* `isAbsolute_destination` — destinations below one root are all absolute or all relative
-/

namespace MediaShelf.Pattern

open Regex (Node Trace)

variable {context : Context} {text : List Char}

/-- The values of the tokens among the segments, where the context has any, are texts of these
tokens. -/
def Context.Fits (context : Context) (used : Token → Bool) : Prop :=
  ∀ kind, used kind → ∀ text, context.value? kind = some text → kind.Accepts text

/-! ### Values of tokens -/

theorem isDigits_twoDigits (n : Nat) : IsDigits (Text.twoDigits n) :=
  ⟨Text.twoDigits_ne_nil n, fun _ hc =>
    isDecimalDigit_of_isDigit (Text.isDigit_of_mem_twoDigits hc)⟩

theorem isDigits_decimal (n : Nat) : IsDigits (Text.decimal n) :=
  ⟨Text.decimal_ne_nil n, fun _ hc => isDecimalDigit_of_isDigit (Text.isDigit_of_mem_decimal hc)⟩

theorem isBlank_of_mem_space : ∀ c ∈ [' '], Text.isBlank c := List.forall_mem_singleton.mpr rfl

theorem writeEpisodes_cons_cons (first next : UInt32) (rest : List UInt32) :
    writeEpisodes (first :: next :: rest) =
      Text.twoDigits first.toNat ++ [' ', '&', ' '] ++ writeEpisodes (next :: rest) := rfl

/-- Written episodes are a number and further numbers behind ampersands. -/
theorem accepts_writeEpisodes {episodes : List UInt32} (h : episodes ≠ []) :
    Token.episode.Accepts (writeEpisodes episodes) := by
  obtain ⟨first, rest, rfl⟩ := List.exists_cons_of_ne_nil h
  clear h
  induction rest generalizing first with
  | nil => exact ⟨_, [], isDigits_twoDigits first.toNat, .nil, (List.append_nil _).symm⟩
  | cons next rest ih =>
    obtain ⟨number, more, hnumber, hmore, hrest⟩ := ih next
    refine ⟨_, [' '] ++ '&' :: [' '] ++ number ++ more, isDigits_twoDigits first.toNat,
      .cons isBlank_of_mem_space isBlank_of_mem_space hnumber hmore, ?_⟩
    rw [writeEpisodes_cons_cons, hrest]
    simp

theorem writeEpisodes_ne_nil {episodes : List UInt32} (h : episodes ≠ []) :
    writeEpisodes episodes ≠ [] := by
  obtain ⟨number, more, hnumber, -, htext⟩ := accepts_writeEpisodes h
  rw [htext]
  exact List.append_ne_nil_of_left_ne_nil hnumber.1 more

/-- Normalized text stays within a path component. -/
theorem ne_slash_of_mem_normalizeChars {c : Char} (h : c ∈ Text.normalizeChars text) :
    c ≠ '/' ∧ c ≠ '\\' := by
  have hclean := Text.isClean_of_mem_normalizeChars h
  constructor
  · rintro rfl
    revert hclean
    decide
  · rintro rfl
    revert hclean
    decide

/-- The value of a token is a text of that token, if a year has four digits and an extension is not
empty and has no full stop or slash. -/
theorem Context.accepts_value? {kind : Token} (h : context.value? kind = some text)
    (hyear : kind = .year → text.length = 4)
    (hextension : kind = .extension → text ≠ [] ∧ ∀ c ∈ text, c ≠ '.' ∧ c ≠ '/') :
    kind.Accepts text := by
  have hname {value : Option String}
      (hvalue : value.map (fun name => Text.normalizeChars name.toList) = some text) :
      ∀ c ∈ text, c ≠ '/' := by
    obtain ⟨name, -, rfl⟩ := Option.map_eq_some_iff.mp hvalue
    exact fun c hc => (ne_slash_of_mem_normalizeChars hc).1
  cases kind with
  | showName => exact hname h
  | title => exact hname h
  | id => exact hname h
  | season =>
    obtain ⟨n, -, rfl⟩ := Option.map_eq_some_iff.mp h
    exact isDigits_twoDigits n.toNat
  | part =>
    obtain ⟨n, -, rfl⟩ := Option.map_eq_some_iff.mp h
    exact isDigits_decimal n.toNat
  | year =>
    have hlength := hyear rfl
    obtain ⟨n, -, rfl⟩ := Option.map_eq_some_iff.mp h
    exact ⟨hlength, (isDigits_decimal n.toNat).2⟩
  | extension => exact hextension rfl
  | episode =>
    simp only [Context.value?] at h
    split at h
    · cases h
    · rename_i hne
      obtain rfl := Option.some.inj h
      exact accepts_writeEpisodes (by simpa using hne)

/-! ### Rows of segments -/

/-- Where every token of a row has a value, each has. -/
theorem Context.isSome_of_resolves {segments : List Segment} (h : context.resolves segments)
    {kind : Token} (hkind : .token kind ∈ segments) : (context.value? kind).isSome :=
  List.all_eq_true.mp h _ hkind

mutual

/-- The text of a segment is matched, unless it is a token that has no value and needs one. -/
theorem Segment.exists_reads_render (segment : Segment)
    (hfits : context.Fits fun kind => segment.uses kind)
    (hresolved : ∀ kind, segment = .token kind → (context.value? kind).isSome ∨ kind.Accepts []) :
    ∃ trace, (∀ before after, segment.node.Reads before after trace) ∧
      Trace.text trace = segment.render context := by
  match segment with
  | .literal text =>
    have hself : List.Forall₂ (fun c d => Text.sameLetter c d) text text :=
      List.forall₂_same.mpr fun c _ => beq_self_eq_true (Text.foldCase c)
    exact ⟨text.map .char, fun _ _ => Node.reads_text.mpr ⟨text, hself, rfl⟩,
      by simp [Segment.render]⟩
  | .token kind =>
    -- a token without a value is rendered as the empty text
    have haccepts : kind.Accepts ((context.value? kind).getD []) := by
      cases hvalue : context.value? kind with
      | some text => exact hfits kind (by simp [Segment.uses]) text hvalue
      | none => simpa [hvalue] using hresolved kind rfl
    refine ⟨groupTrace kind ((context.value? kind).getD []), fun before after =>
      ⟨_, reads_tokenNode.mpr ⟨_, haccepts, rfl⟩, rfl⟩, ?_⟩
    rw [text_groupTrace, Segment.render]
  | .optional children =>
    rw [Segment.render]
    -- a group is rendered if all its tokens have values, else the empty text is matched for it
    split
    · rename_i hchildren
      obtain ⟨trace, hreads, htext⟩ := exists_reads_render children hfits
        fun kind hkind => .inl (Context.isSome_of_resolves hchildren hkind)
      exact ⟨trace, fun before after => .inl (hreads before after), htext⟩
    · exact ⟨[], fun before after => .inr rfl, rfl⟩

/-- The text of segments in a row is matched, if every token outside optional groups has a value
where it needs one. -/
theorem exists_reads_render (segments : List Segment)
    (hfits : context.Fits fun kind => uses kind segments)
    (hresolved : ∀ kind, .token kind ∈ segments → (context.value? kind).isSome ∨ kind.Accepts []) :
    ∃ trace, (∀ before after, (node segments).Reads before after trace) ∧
      Trace.text trace = render context segments := by
  match segments with
  | [] => exact ⟨[], fun before after => rfl, rfl⟩
  | segment :: rest =>
    obtain ⟨front, hfront, hfrontText⟩ := segment.exists_reads_render
      (fun kind hkind => hfits kind (by simp [uses, hkind]))
      fun kind hkind => hresolved kind (hkind ▸ List.mem_cons_self)
    obtain ⟨back, hback, hbackText⟩ := exists_reads_render rest
      (fun kind hkind => hfits kind (by simp [uses, hkind]))
      fun kind hkind => hresolved kind (List.mem_cons_of_mem _ hkind)
    refine ⟨front ++ back, fun before after =>
      ⟨front, back, hfront _ _, hback _ _, rfl⟩, ?_⟩
    rw [Trace.text_append, hfrontText, hbackText, render]

end

/-! ### Characters of rendered paths -/

mutual

/-- The literal texts of a segment at any depth. -/
def Segment.literals : Segment → List (List Char)
  | .literal text => [text]
  | .token _ => []
  | .optional children => literals children

/-- The literal texts of segments at any depth. -/
def literals : List Segment → List (List Char)
  | [] => []
  | segment :: rest => segment.literals ++ literals rest

end

/-- The character stands in a literal text or in the value of a token. -/
def Stands (context : Context) (texts : List (List Char)) (used : Token → Bool) (c : Char) : Prop :=
  (∃ text ∈ texts, c ∈ text) ∨
    ∃ kind text, used kind ∧ context.value? kind = some text ∧ c ∈ text

theorem Stands.mono {texts more : List (List Char)} {used wider : Token → Bool} {c : Char}
    (h : Stands context texts used c) (htexts : texts ⊆ more)
    (hused : ∀ kind, used kind → wider kind) : Stands context more wider c := by
  rcases h with ⟨text, htext, hc⟩ | ⟨kind, text, hkind, hvalue, hc⟩
  · exact .inl ⟨text, htexts htext, hc⟩
  · exact .inr ⟨kind, text, hused kind hkind, hvalue, hc⟩

mutual

theorem Segment.stands_of_mem_render (segment : Segment) {c : Char}
    (h : c ∈ segment.render context) :
    Stands context segment.literals (fun kind => segment.uses kind) c := by
  match segment with
  | .literal text => exact .inl ⟨text, by simp [Segment.literals], h⟩
  | .token kind =>
    rw [Segment.render] at h
    cases hvalue : context.value? kind with
    | none => simp [hvalue] at h
    | some text =>
      rw [hvalue, Option.getD_some] at h
      exact .inr ⟨kind, text, by simp [Segment.uses], hvalue, h⟩
  | .optional children =>
    rw [Segment.render] at h
    split at h
    · exact stands_of_mem_render children h
    · cases h

/-- Every character of a rendered text stands in a literal or in a value. -/
theorem stands_of_mem_render (segments : List Segment) {c : Char}
    (h : c ∈ render context segments) :
    Stands context (literals segments) (fun kind => uses kind segments) c := by
  match segments with
  | [] => cases h
  | segment :: rest =>
    rw [render, List.mem_append] at h
    rcases h with h | h
    · exact (segment.stands_of_mem_render h).mono (List.subset_append_left _ _)
        fun kind hkind => by simp [uses, hkind]
    · exact (stands_of_mem_render rest h).mono (List.subset_append_right _ _)
        fun kind hkind => by simp [uses, hkind]

end

/-- Digits, blanks and ampersands are the characters of written episodes. -/
theorem mem_writeEpisodes {episodes : List UInt32} {c : Char} (h : c ∈ writeEpisodes episodes) :
    c.isDigit ∨ c = ' ' ∨ c = '&' := by
  rcases Text.mem_joinWith h with ⟨piece, hpiece, hc⟩ | hc
  · obtain ⟨n, -, rfl⟩ := List.mem_map.mp hpiece
    exact .inl (Text.isDigit_of_mem_twoDigits hc)
  · simp only [episodeSeparator, List.mem_cons, List.not_mem_nil, or_false] at hc
    tauto

/-- Whether the token stands for numbers. -/
def Token.isNumber : Token → Bool
  | .season | .episode | .year | .part => true
  | .showName | .title | .id | .extension => false

/-- Numbers are written with digits, blanks and ampersands. -/
theorem Context.mem_number {kind : Token} (h : context.value? kind = some text)
    (hkind : kind.isNumber) {c : Char} (hc : c ∈ text) : c.isDigit ∨ c = ' ' ∨ c = '&' := by
  cases kind with
  | season =>
    obtain ⟨n, -, rfl⟩ := Option.map_eq_some_iff.mp h
    exact .inl (Text.isDigit_of_mem_twoDigits hc)
  | part =>
    obtain ⟨n, -, rfl⟩ := Option.map_eq_some_iff.mp h
    exact .inl (Text.isDigit_of_mem_decimal hc)
  | year =>
    obtain ⟨n, -, rfl⟩ := Option.map_eq_some_iff.mp h
    exact .inl (Text.isDigit_of_mem_decimal hc)
  | episode =>
    simp only [Context.value?] at h
    split at h
    · cases h
    · obtain rfl := Option.some.inj h
      exact mem_writeEpisodes hc
  | showName | title | id | extension => cases hkind

/-- All values are clean text, but for extensions. -/
theorem Context.isClean_of_mem_value? {kind : Token} (h : context.value? kind = some text)
    (hkind : kind ≠ .extension) {c : Char} (hc : c ∈ text) : Text.isClean c := by
  have hname {value : Option String}
      (hvalue : value.map (fun name => Text.normalizeChars name.toList) = some text) :
      Text.isClean c := by
    obtain ⟨name, -, rfl⟩ := Option.map_eq_some_iff.mp hvalue
    exact Text.isClean_of_mem_normalizeChars hc
  by_cases hnumber : kind.isNumber
  · rcases Context.mem_number h hnumber hc with hdigit | rfl | rfl
    · simp [Text.isClean, Char.isAlphanum, hdigit]
    · decide
    · decide
  · cases kind with
    | showName => exact hname h
    | title => exact hname h
    | id => exact hname h
    | extension => exact absurd rfl hkind
    | season | episode | year | part => exact absurd rfl hnumber

/-- What is not clean stands in no value, except in extensions. -/
theorem Context.not_mem_of_not_isClean {kind : Token} {c : Char}
    (h : context.value? kind = some text) (hc : Text.isClean c = false)
    (hextension : kind = .extension → c ∉ text) : c ∉ text := by
  intro hmem
  by_cases hkind : kind = .extension
  · exact hextension hkind hmem
  · rw [Context.isClean_of_mem_value? h hkind hmem] at hc
    cases hc

/-- A rendered path holds no backslash if neither literals nor an extension that is used do. -/
theorem no_backslash_render_of_uses {segments : List Segment}
    (hliterals : ∀ text ∈ literals segments, '\\' ∉ text)
    (hextension : uses .extension segments → ∀ text, context.value? .extension = some text →
      '\\' ∉ text) : '\\' ∉ render context segments := by
  intro hc
  rcases stands_of_mem_render segments hc with
    ⟨text, htext, hmem⟩ | ⟨kind, text, hused, hvalue, hmem⟩
  · exact hliterals text htext hmem
  · refine Context.not_mem_of_not_isClean hvalue rfl (fun hkind => ?_) hmem
    subst hkind
    exact hextension hused text hvalue

/-- A rendered path holds no backslash if neither literals nor the extension do. -/
theorem no_backslash_render {segments : List Segment}
    (hliterals : ∀ text ∈ literals segments, '\\' ∉ text)
    (hextension : ∀ text, context.value? .extension = some text → '\\' ∉ text) :
    '\\' ∉ render context segments :=
  no_backslash_render_of_uses hliterals fun _ => hextension

theorem forwardSlashes_of_no_backslash {path : List Char} (h : '\\' ∉ path) :
    forwardSlashes path = path := by
  refine (List.map_congr_left fun c hc => if_neg ?_).trans (List.map_id path)
  rintro rfl
  exact h hc

/-! ### Captures -/

theorem capture?_eq {trace : Regex.Trace Token} {kind : Token} {text : List Char}
    (h : Trace.group? kind trace = some text) :
    capture? trace kind = if text = [] then none else some text := by
  rw [capture?, h, Option.filter_some]
  cases text <;> rfl

/-! ### Whole patterns -/

/-- A written pattern is compiled to the segments that are read from it, unless they are nested too
deeply. -/
theorem compile_of_segments {source : String} {segments : List Segment}
    (hread : compileSegments source.toList = .ok segments)
    (hdepth : nestDepth segments ≤ nestLimit) :
    Pattern.compile source = .ok ⟨source, segments⟩ := by
  rw [compile, hread]
  simp only [bind, Except.bind]
  rw [if_neg (Nat.not_lt.mpr hdepth)]
  rfl

/-- What a pattern renders follows the pattern, also as a path whose backslashes are slashes, if
each token outside optional groups has a value, years have four digits and extensions are bare.
Groups may be nested in any way and rendered or not. -/
theorem isSome_matchPath?_generate (pattern : Pattern) (context : Context)
    (hliterals : ∀ text ∈ literals pattern.segments, '\\' ∉ text)
    (hresolved : ∀ kind, .token kind ∈ pattern.segments → (context.value? kind).isSome)
    (hyear : pattern.contains .year → ∀ year ∈ context.year, 1000 ≤ year ∧ year ≤ 9999)
    (hextension : pattern.contains .extension → ∀ text, context.value? .extension = some text →
      text ≠ [] ∧ ∀ c ∈ text, c ≠ '.' ∧ c ≠ '/' ∧ c ≠ '\\') :
    forwardSlashes (pattern.generate context).toList = (pattern.generate context).toList ∧
      (matchPath? pattern.segments (pattern.generate context).toList).isSome := by
  rw [generate, String.toList_ofList]
  constructor
  · -- the matcher turns backslashes into slashes, and there are none
    refine forwardSlashes_of_no_backslash (no_backslash_render_of_uses hliterals ?_)
    exact fun hused text hvalue hc => ((hextension hused text hvalue).2 _ hc).2.2 rfl
  · have hfits : context.Fits fun kind => uses kind pattern.segments := by
      intro kind hused text hvalue
      refine Context.accepts_value? hvalue (fun hkind => ?_) fun hkind => ?_
      · subst hkind
        obtain ⟨year, hcontext, rfl⟩ := Option.map_eq_some_iff.mp hvalue
        obtain ⟨hlow, hhigh⟩ := hyear hused year hcontext
        exact Text.length_decimal (k := 3) hlow (Nat.lt_succ_of_le hhigh)
      · subst hkind
        obtain ⟨hne, hbare⟩ := hextension hused text hvalue
        exact ⟨hne, fun c hc => ⟨(hbare c hc).1, (hbare c hc).2.1⟩⟩
    -- a matcher that can match in some way finds a match
    obtain ⟨trace, hreads, htext⟩ := exists_reads_render pattern.segments hfits
      fun kind hkind => .inl (hresolved kind hkind)
    rw [← htext]
    exact Node.isSome_matchWhole? (hreads none [])

/-- A group without a value inside one that is rendered, and a group that is left out with all that
is in it. -/
theorem isSome_matchPath?_generate_nested :
    let pattern : Pattern := ⟨"%t\x7b (%y)\x7b Part %p\x7d\x7d\x7b [%h\x7b, %n\x7d]\x7d.%x",
      [.token .title,
        .optional [.literal [' ', '('], .token .year, .literal [')'],
          .optional [.literal [' ', 'P', 'a', 'r', 't', ' '], .token .part]],
        .optional [.literal [' ', '['], .token .id,
          .optional [.literal [',', ' '], .token .showName], .literal [']']],
        .literal ['.'], .token .extension]⟩
    let context : Context :=
      { title := some "K: 1.5", year := some 1995, showName := some "K", extension := some "..avi" }
    Pattern.compile pattern.source = .ok pattern ∧
      forwardSlashes (pattern.generate context).toList = (pattern.generate context).toList ∧
      (matchPath? pattern.segments (pattern.generate context).toList).isSome := by
  intro pattern context
  have hcompile : Pattern.compile pattern.source = .ok pattern := by
    have hread : compileSegments pattern.source.toList = .ok pattern.segments := by
      simp only [pattern]
      rfl
    rw [compile, hread]
    rfl
  have hbare : context.value? .extension = some ['a', 'v', 'i'] := by decide
  refine ⟨hcompile, isSome_matchPath?_generate pattern context (by decide) ?_ ?_ ?_⟩
  · -- only the title and the extension stand outside the groups
    intro kind hkind
    simp only [pattern, List.mem_cons, Segment.token.injEq, reduceCtorEq, List.not_mem_nil,
      false_or, or_false] at hkind
    rcases hkind with rfl | rfl
    · rfl
    · rw [hbare]
      rfl
  · intro _ year hyear
    obtain rfl : 1995 = year := Option.some.inj hyear
    decide
  · intro _ text htext
    obtain rfl : ['a', 'v', 'i'] = text := Option.some.inj (hbare.symm.trans htext)
    simp

/-! ### Destinations -/

/-- Destinations below one root are all absolute or all relative. -/
theorem isAbsolute_destination (pattern : Pattern) (root : Path) (context : Context) :
    (pattern.destination root context).isAbsolute = root.isAbsolute := by
  have hpush (names : List (List Char)) (hnames : ∀ name ∈ names, '/' ∉ name) (root : Path) :
      (names.foldl Path.push root).isAbsolute = root.isAbsolute := by
    induction names generalizing root with
    | nil => rfl
    | cons name names ih =>
      rw [List.foldl_cons, ih fun other hother => hnames other (List.mem_cons_of_mem _ hother)]
      exact Path.isAbsolute_push (hnames name List.mem_cons_self)
  refine hpush _ (fun name hname hslash => ?_) root
  exact absurd (Text.not_of_mem_splitBy (List.mem_filter.mp hname).1 hslash) (by decide)

end MediaShelf.Pattern
