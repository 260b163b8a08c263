import Mathlib.Tactic.Tauto
import MediaShelf.Pattern.Compile

/-!
# Written patterns and their segments

Reading a pattern and writing its segments undo each other. What has been read at any moment is a
draft, and a draft has a written form of its own: the text in front of the place that was reached.

## Main definitions

* `IsCanonical` — rows of segments that have a written form of their own
* `Draft.written` — the text that a draft was read from
* `Draft.add` — a draft with one more segment

## Main results

* `canonical_of_compileFrom` — what is read is canonical and is written as it was
* `compileFrom_writeAll` — written segments are read as these segments
* `compileSegments_eq_ok_iff` — a pattern is read as the canonical segments that are written so
-/

namespace MediaShelf.Pattern

variable {place : Nat} {draft next : Draft} {text : List Char} {segment : Segment}
  {row : List Segment}

/-! ### Written forms -/

theorem writeLiteral_append (front back : List Char) :
    writeLiteral (front ++ back) = writeLiteral front ++ writeLiteral back :=
  List.flatMap_append

@[simp] theorem writeLiteral_percent : writeLiteral ['%'] = ['%', '%'] := rfl

theorem writeLiteral_singleton {c : Char} (h : c ≠ '%') : writeLiteral [c] = [c] := by
  simp [writeLiteral, h]

theorem writeAll_append (front back : List Segment) :
    writeAll (front ++ back) = writeAll front ++ writeAll back := by
  induction front with
  | nil => rfl
  | cons segment front ih => simp [writeAll, ih]

/-! ### Canonical rows -/

/-- Whether the segment is literal text. -/
def Segment.isLiteral : Segment → Bool
  | .literal _ => true
  | _ => false

mutual

/-- A literal holds something but no braces, and the content of a group is canonical. -/
def Segment.IsCanonical : Segment → Prop
  | .literal text => text ≠ [] ∧ '{' ∉ text ∧ '}' ∉ text
  | .token _ => True
  | .optional children => IsCanonical children

/-- Every segment of the row is canonical, and no literal stands behind another one. -/
def IsCanonical : List Segment → Prop
  | [] => True
  | segment :: rest => segment.IsCanonical ∧ IsCanonical rest ∧
      (segment.isLiteral → ∀ next ∈ rest.head?, next.isLiteral = false)

end

theorem isCanonical_cons : IsCanonical (segment :: row) ↔
    segment.IsCanonical ∧ IsCanonical row ∧
      (segment.isLiteral → ∀ next ∈ row.head?, next.isLiteral = false) := by
  rw [IsCanonical]

/-- One more segment at the end. -/
theorem isCanonical_concat : IsCanonical (row ++ [segment]) ↔
    IsCanonical row ∧ segment.IsCanonical ∧
      (segment.isLiteral → ∀ last ∈ row.getLast?, last.isLiteral = false) := by
  induction row with
  | nil => simp [isCanonical_cons, IsCanonical]
  | cons first row ih =>
    -- the first segment has the new one for a neighbour only if there is no other
    cases row with
    | nil =>
      simp only [List.cons_append, List.nil_append, isCanonical_cons, IsCanonical,
        List.head?_cons, List.head?_nil, List.getLast?_singleton, Option.mem_some_iff, forall_eq']
      grind
    | cons second row =>
      rw [List.cons_append, isCanonical_cons, ih, @isCanonical_cons first, List.getLast?_cons_cons]
      simp only [List.cons_append, List.head?_cons]
      tauto

/-! ### Drafts -/

namespace Draft

/-- The text of the groups that are still open. -/
def writeOpened : List (Nat × List Segment) → List Char
  | [] => []
  | (_, before) :: outer => writeOpened outer ++ writeAll before ++ ['{']

/-- The text that the draft was read from. -/
def written (draft : Draft) : List Char :=
  writeOpened draft.opened ++ writeAll draft.segments

theorem writeAll_segments (draft : Draft) :
    writeAll draft.segments = writeAll draft.done ++ writeLiteral draft.literal := by
  unfold segments
  split
  · rename_i hliteral
    simp [List.isEmpty_iff.mp hliteral, writeLiteral]
  · simp [writeAll_append, writeAll, Segment.write]

theorem written_addChar (draft : Draft) (c : Char) :
    (draft.addChar c).written = draft.written ++ writeLiteral [c] := by
  simp [written, writeAll_segments, addChar, writeLiteral_append]

theorem written_addToken (draft : Draft) (kind : Token) :
    (draft.addToken kind).written = draft.written ++ ['%', kind.sigil] := by
  simp [written, addToken, segments, writeAll_append, writeAll, Segment.write]

theorem written_openGroup (draft : Draft) (place : Nat) :
    (draft.openGroup place).written = draft.written ++ ['{'] := by
  simp [written, openGroup, segments, writeOpened, writeAll]

theorem written_of_closeGroup? (h : draft.closeGroup? = some next) :
    next.written = draft.written ++ ['}'] := by
  obtain ⟨opened, done, literal⟩ := draft
  cases opened with
  | nil => cases h
  | cons group outer =>
    obtain rfl := Option.some.inj h
    simp [written, segments, writeOpened, writeAll_append, writeAll, Segment.write]

theorem written_of_finish (h : draft.finish = .ok row) : writeAll row = draft.written := by
  obtain ⟨opened, done, literal⟩ := draft
  cases opened with
  | nil =>
    obtain rfl := Except.ok.inj h
    simp [written, writeOpened]
  | cons group outer => cases h

/-- A draft is canonical if what it holds is, and a literal would not stand behind another one. -/
structure IsCanonical (draft : Draft) : Prop where
  opened : ∀ group ∈ draft.opened, Pattern.IsCanonical group.2
  done : Pattern.IsCanonical draft.done
  last : ∀ last ∈ draft.done.getLast?, last.isLiteral = false
  literal : '{' ∉ draft.literal ∧ '}' ∉ draft.literal

theorem isCanonical_start : start.IsCanonical := by
  constructor <;> simp [start, Pattern.IsCanonical]

namespace IsCanonical

theorem segments (h : draft.IsCanonical) : Pattern.IsCanonical draft.segments := by
  unfold Draft.segments
  split
  · exact h.done
  · rename_i hliteral
    refine isCanonical_concat.mpr ⟨h.done, ?_, fun _ => h.last⟩
    exact ⟨by simpa using hliteral, h.literal⟩

/-- A segment other than a literal may follow anything. -/
theorem concat {opened : List (Nat × List Segment)} (hrow : Pattern.IsCanonical row)
    (hopened : ∀ group ∈ opened, Pattern.IsCanonical group.2) (hsegment : segment.IsCanonical)
    (hother : segment.isLiteral = false) : (Draft.mk opened (row ++ [segment]) []).IsCanonical where
  opened := hopened
  done := isCanonical_concat.mpr ⟨hrow, hsegment, by simp [hother]⟩
  last := by simp [hother]
  literal := by simp

theorem addChar (h : draft.IsCanonical) {c : Char} (hopen : c ≠ '{') (hclose : c ≠ '}') :
    (draft.addChar c).IsCanonical where
  opened := h.opened
  done := h.done
  last := h.last
  literal := by simp [Draft.addChar, h.literal, hopen.symm, hclose.symm]

theorem addToken (h : draft.IsCanonical) (kind : Token) : (draft.addToken kind).IsCanonical :=
  concat h.segments h.opened trivial rfl

theorem openGroup (h : draft.IsCanonical) (place : Nat) : (draft.openGroup place).IsCanonical where
  opened := List.forall_mem_cons.mpr ⟨h.segments, h.opened⟩
  done := trivial
  last := by simp [Draft.openGroup]
  literal := by simp [Draft.openGroup]

theorem closeGroup? (h : draft.IsCanonical) (hnext : draft.closeGroup? = some next) :
    next.IsCanonical := by
  obtain ⟨opened, done, literal⟩ := draft
  cases opened with
  | nil => cases hnext
  | cons group outer =>
    obtain rfl := Option.some.inj hnext
    obtain ⟨hgroup, houter⟩ := List.forall_mem_cons.mp h.opened
    exact concat hgroup houter h.segments rfl

theorem finish (h : draft.IsCanonical) (hfinish : draft.finish = .ok row) :
    Pattern.IsCanonical row := by
  obtain ⟨opened, done, literal⟩ := draft
  cases opened with
  | nil =>
    obtain rfl := Except.ok.inj hfinish
    exact h.segments
  | cons group outer => cases hfinish

end IsCanonical

end Draft

/-! ### What is read -/

/-- From a canonical draft on, what is read is canonical, and is written as the draft and the rest
of the text. -/
theorem canonical_of_compileFrom (hdraft : draft.IsCanonical)
    (h : compileFrom place draft text = .ok row) :
    IsCanonical row ∧ writeAll row = draft.written ++ text := by
  -- every step that goes on appends to the written form what it takes off the text
  fun_induction compileFrom place draft text with
  | case1 => exact ⟨hdraft.finish h, by rw [Draft.written_of_finish h, List.append_nil]⟩
  | case2 => cases h
  | case3 place draft rest _ ih =>
    simpa [Draft.written_addChar] using ih (hdraft.addChar (by decide) (by decide)) h
  | case4 => cases h
  | case5 place draft sigil rest _ _ kind hkind ih =>
    simpa [Draft.written_addToken, Token.sigil_of_ofSigil? hkind] using ih (hdraft.addToken kind) h
  | case6 place draft rest ih =>
    simpa [Draft.written_openGroup] using ih (hdraft.openGroup place) h
  | case7 => cases h
  | case8 place draft rest next hnext ih =>
    simpa [Draft.written_of_closeGroup? hnext] using ih (hdraft.closeGroup? hnext) h
  | case9 place draft c rest hlast hsigil hopen hclose ih =>
    -- a percent sign would have been the last character or in front of another one
    have hplain : c ≠ '%' := by
      rintro rfl
      cases rest with
      | nil => exact hlast rfl rfl
      | cons sigil rest => exact hsigil sigil rest rfl rfl
    simpa [Draft.written_addChar, writeLiteral_singleton hplain] using
      ih (hdraft.addChar hopen hclose) h

/-! ### What was written -/

namespace Draft

/-- The draft with one more segment. Literal text is pending until another segment follows. -/
def add (draft : Draft) : Segment → Draft
  | .literal text => { draft with literal := draft.literal ++ text }
  | segment => ⟨draft.opened, draft.segments ++ [segment], []⟩

theorem opened_add (draft : Draft) (segment : Segment) :
    (draft.add segment).opened = draft.opened := by
  cases segment <;> rfl

theorem segments_add_literal (hpending : draft.literal = []) (htext : text ≠ []) :
    (draft.add (.literal text)).segments = draft.segments ++ [.literal text] := by
  simp [segments, add, hpending, htext]

theorem opened_foldl_add (draft : Draft) (row : List Segment) :
    (row.foldl add draft).opened = draft.opened := by
  induction row generalizing draft with
  | nil => rfl
  | cons segment row ih => rw [List.foldl_cons, ih, opened_add]

/-- The segments of a canonical row follow those of a draft if its first one would not run together
with a pending literal. -/
theorem segments_foldl_add (hrow : Pattern.IsCanonical row)
    (hfirst : ∀ first ∈ row.head?, first.isLiteral → draft.literal = []) :
    (row.foldl add draft).segments = draft.segments ++ row := by
  induction row generalizing draft with
  | nil => simp
  | cons segment row ih =>
    obtain ⟨hsegment, hrest, hneighbour⟩ := isCanonical_cons.mp hrow
    -- only a literal leaves something pending, and no literal stands behind it
    have hnext : ∀ next ∈ row.head?, next.isLiteral → (draft.add segment).literal = [] := by
      intro next hmem hnext
      cases segment with
      | literal text => simp [hneighbour rfl next hmem] at hnext
      | token kind => rfl
      | optional children => rfl
    have hadd : (draft.add segment).segments = draft.segments ++ [segment] := by
      cases segment with
      | literal text => exact segments_add_literal (hfirst _ rfl rfl) hsegment.1
      | token kind => rfl
      | optional children => rfl
    rw [List.foldl_cons, ih hrest hnext, hadd, List.append_assoc, List.singleton_append]

end Draft

/-- A character without meaning of its own is pending text. -/
theorem compileFrom_cons {c : Char} (hpercent : c ≠ '%') (hopen : c ≠ '{') (hclose : c ≠ '}')
    (place : Nat) (draft : Draft) (rest : List Char) :
    compileFrom place draft (c :: rest) =
      compileFrom (place + c.utf8Size) (draft.addChar c) rest := by
  rw [compileFrom] <;> simp [hpercent, hopen, hclose]

/-- A literal text is read as pending text. -/
theorem compileFrom_writeLiteral (hopen : '{' ∉ text) (hclose : '}' ∉ text) (place : Nat)
    (draft : Draft) (rest : List Char) : ∃ behind,
      compileFrom place draft (writeLiteral text ++ rest) =
        compileFrom behind (draft.add (.literal text)) rest := by
  induction text generalizing place draft with
  | nil => exact ⟨place, by simp [writeLiteral, Draft.add]⟩
  | cons c text ih =>
    obtain ⟨hopen, hopens⟩ := List.ne_and_not_mem_of_not_mem_cons hopen
    obtain ⟨hclose, hcloses⟩ := List.ne_and_not_mem_of_not_mem_cons hclose
    have hlater : (draft.addChar c).add (.literal text) = draft.add (.literal (c :: text)) := by
      simp [Draft.add, Draft.addChar]
    by_cases hpercent : c = '%'
    · subst hpercent
      obtain ⟨behind, hbehind⟩ := ih hopens hcloses _ (draft.addChar '%')
      exact ⟨behind, by rw [← hlater, ← hbehind]; rfl⟩
    · obtain ⟨behind, hbehind⟩ := ih hopens hcloses _ (draft.addChar c)
      refine ⟨behind, ?_⟩
      rw [← hlater, ← hbehind, ← List.singleton_append, writeLiteral_append,
        writeLiteral_singleton hpercent]
      exact compileFrom_cons hpercent hopen.symm hclose.symm _ _ _

mutual

/-- A written segment is read as this segment. -/
theorem Segment.compileFrom_write (segment : Segment) (hsegment : segment.IsCanonical) (place : Nat)
    (draft : Draft) (rest : List Char) : ∃ behind,
      compileFrom place draft (segment.write ++ rest) =
        compileFrom behind (draft.add segment) rest := by
  match segment with
  | .literal text =>
    obtain ⟨-, hopen, hclose⟩ := hsegment
    exact compileFrom_writeLiteral hopen hclose place draft rest
  | .token kind =>
    refine ⟨place + 1 + kind.sigil.utf8Size, ?_⟩
    have hsigil : kind.sigil ≠ '%' := by cases kind <;> decide
    change compileFrom place draft ('%' :: kind.sigil :: rest) = _
    rw [compileFrom, if_neg hsigil, Token.ofSigil?_sigil]
    rfl
  | .optional children =>
    obtain ⟨behind, hbehind⟩ := compileFrom_writeAll children hsegment (place + 1)
      (draft.openGroup place) ('}' :: rest)
    -- nothing is pending where a group opens, so that it holds its children and nothing else
    have hinner : (children.foldl Draft.add (draft.openGroup place)).segments = children :=
      Draft.segments_foldl_add hsegment fun _ _ _ => rfl
    have hclose : (children.foldl Draft.add (draft.openGroup place)).closeGroup? =
        some (draft.add (.optional children)) := by
      rw [Draft.closeGroup?, Draft.opened_foldl_add, hinner]
      rfl
    refine ⟨behind + 1, ?_⟩
    calc compileFrom place draft (Segment.write (.optional children) ++ rest)
        = compileFrom (place + 1) (draft.openGroup place) (writeAll children ++ '}' :: rest) := by
          simp [Segment.write, compileFrom]
      _ = compileFrom behind (children.foldl Draft.add (draft.openGroup place)) ('}' :: rest) :=
          hbehind
      _ = compileFrom (behind + 1) (draft.add (.optional children)) rest := by
          simp [compileFrom, hclose]

/-- Written segments are read as these segments. -/
theorem compileFrom_writeAll (row : List Segment) (hrow : IsCanonical row) (place : Nat)
    (draft : Draft) (rest : List Char) : ∃ behind,
      compileFrom place draft (writeAll row ++ rest) =
        compileFrom behind (row.foldl Draft.add draft) rest := by
  match row with
  | [] => exact ⟨place, rfl⟩
  | segment :: row =>
    obtain ⟨hsegment, hrest, -⟩ := isCanonical_cons.mp hrow
    obtain ⟨middle, hmiddle⟩ :=
      segment.compileFrom_write hsegment place draft (writeAll row ++ rest)
    obtain ⟨behind, hbehind⟩ := compileFrom_writeAll row hrest middle (draft.add segment) rest
    exact ⟨behind, by rw [writeAll, List.append_assoc, hmiddle, hbehind, List.foldl_cons]⟩

end

/-- A text is read as some segments exactly if these are canonical, not none at all, and are written
as this text. -/
theorem compileSegments_eq_ok_iff (text : List Char) (row : List Segment) :
    compileSegments text = .ok row ↔ row ≠ [] ∧ IsCanonical row ∧ writeAll row = text := by
  constructor
  · intro h
    unfold compileSegments at h
    split at h
    · cases h
    · rename_i hne
      obtain ⟨hrow, hwritten⟩ := canonical_of_compileFrom Draft.isCanonical_start h
      have htext : writeAll row = text := hwritten
      refine ⟨?_, hrow, htext⟩
      rintro rfl
      simp [← htext, writeAll] at hne
  · rintro ⟨hne, hrow, rfl⟩
    obtain ⟨behind, hbehind⟩ := compileFrom_writeAll row hrow 0 .start []
    have hsegments : (row.foldl Draft.add .start).segments = row :=
      Draft.segments_foldl_add hrow fun _ _ _ => rfl
    have hread : compileFrom 0 .start (writeAll row) = .ok row := by
      rw [← List.append_nil (writeAll row), hbehind, compileFrom, Draft.finish,
        Draft.opened_foldl_add, hsegments]
      rfl
    -- the empty text would be read as no segments
    have hwrite : writeAll row ≠ [] := by
      intro hempty
      rw [hempty] at hread
      exact hne (Except.ok.inj hread).symm
    rw [compileSegments, if_neg (by simpa using hwrite), hread]

/-- Groups may be empty, and what stands next to them does not run together. -/
example : compileSegments ['a', '{', '{', '}', '}', '%', '%', '%', 't'] =
    .ok [.literal ['a'], .optional [.optional []], .literal ['%'], .token .title] := rfl

end MediaShelf.Pattern
