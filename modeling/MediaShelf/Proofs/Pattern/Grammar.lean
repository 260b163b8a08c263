import MediaShelf.Proofs.Pattern.Compile

/-!
# Which patterns are read, and what the others are blamed for

A pattern is read if its braces are balanced, where a percent sign and the character behind it count
as one unit. All other patterns are blamed for one thing: the first unit from the left that cannot
stand where it does, or else the group opened last of those that are never closed.

## Main definitions

* `bytes` — the size of a text, by which places are counted
* `Balanced` — texts made of units and of groups that are opened and closed
* `Readable` — texts that may be the front of a pattern
* `Blames` — what is wrong with a text, and where

## Main results

* `Balanced.compileFrom_append`, `Readable.compileFrom_append` — reading goes on behind such a text
* `readable_or_blames` — a text can be read to its end, or up to the first offence
* `compileSegments_eq_error_iff` — errors are what a text is blamed for, and balanced texts are read
-/

namespace MediaShelf.Pattern

variable {front inner text rest : List Char} {place : Nat} {draft : Draft} {e : SyntaxError}

/-- The number of bytes of a text. -/
def bytes (text : List Char) : Nat := (String.ofList text).utf8ByteSize

@[simp] theorem bytes_nil : bytes [] = 0 := rfl

@[simp] theorem bytes_append (front back : List Char) :
    bytes (front ++ back) = bytes front + bytes back := by
  simp [bytes, String.ofList_append]

theorem bytes_singleton (c : Char) : bytes [c] = c.utf8Size := by
  rw [bytes, ← String.singleton_eq_ofList, String.utf8ByteSize_singleton]

theorem bytes_cons (c : Char) (text : List Char) : bytes (c :: text) = c.utf8Size + bytes text := by
  rw [← List.singleton_append, bytes_append, bytes_singleton]

/-! ### The grammar -/

/-- The characters that have a meaning behind a percent sign. -/
def sigils : List Char := ['%', 'n', 's', 'e', 't', 'x', 'y', 'p', 'h']

/-- A pattern whose groups are closed in the order in which they have to be. -/
inductive Balanced : List Char → Prop
  | nil : Balanced []
  /-- A character that stands for itself. -/
  | plain {c : Char} : c ∉ ['%', '{', '}'] → Balanced [c]
  /-- A percent sign and the character behind it. -/
  | unit {sigil : Char} : sigil ∈ sigils → Balanced ['%', sigil]
  | group {inner : List Char} : Balanced inner → Balanced ('{' :: inner ++ ['}'])
  | append {front back : List Char} : Balanced front → Balanced back → Balanced (front ++ back)

/-- A text that more can follow: balanced, or with groups that are still open. -/
inductive Readable : List Char → Prop
  | balanced {front : List Char} : Balanced front → Readable front
  /-- Behind the last brace that is still open the text is balanced. -/
  | opened {front inner : List Char} :
      Readable front → Balanced inner → Readable (front ++ '{' :: inner)

/-- What is wrong with a text. In front of the place that is blamed it can be read. -/
inductive Blames : List Char → SyntaxError → Prop
  | empty : Blames [] .empty
  /-- A percent sign ends the text. -/
  | dangling {front : List Char} :
      Readable front → Blames (front ++ ['%']) (.danglingPercent (bytes front))
  /-- Behind a percent sign stands a character without a meaning there. -/
  | unknown {front rest : List Char} {sigil : Char} : Readable front → sigil ∉ sigils →
      Blames (front ++ '%' :: sigil :: rest) (.unknownToken sigil (bytes front))
  /-- A brace is closed where no group is open. -/
  | unmatched {front rest : List Char} :
      Balanced front → Blames (front ++ '}' :: rest) (.unmatchedClose (bytes front))
  /-- The text ends inside groups, and nothing is open behind the brace that is blamed. -/
  | unclosed {front inner : List Char} : Readable front → Balanced inner →
      Blames (front ++ '{' :: inner) (.unclosedOptional (bytes front))

theorem mem_sigils_iff {c : Char} :
    c ∈ sigils ↔ c = '%' ∨ ∃ kind, Token.ofSigil? c = some kind := by
  constructor
  · intro h
    simp only [sigils, List.mem_cons, List.not_mem_nil, or_false] at h
    rcases h with rfl | rfl | rfl | rfl | rfl | rfl | rfl | rfl | rfl
    · exact .inl rfl
    all_goals exact .inr ⟨_, rfl⟩
  · rintro (rfl | ⟨kind, hkind⟩)
    · decide
    · rw [← Token.sigil_of_ofSigil? hkind]
      cases kind <;> decide

/-! ### Reading on -/

/-- Behind a balanced text the same groups are open as in front of it. -/
theorem Balanced.compileFrom_append (h : Balanced front) (place : Nat) (draft : Draft)
    (rest : List Char) : ∃ next : Draft, next.opened = draft.opened ∧
      compileFrom place draft (front ++ rest) = compileFrom (place + bytes front) next rest := by
  induction h generalizing place draft rest with
  | nil => exact ⟨draft, rfl, rfl⟩
  | @plain c hc =>
    simp only [List.mem_cons, List.not_mem_nil, or_false, not_or] at hc
    refine ⟨draft.addChar c, rfl, ?_⟩
    rw [bytes_singleton, List.singleton_append]
    exact compileFrom_cons hc.1 hc.2.1 hc.2.2 place draft rest
  | @unit sigil hsigil =>
    have hbytes : place + bytes ['%', sigil] = place + 1 + sigil.utf8Size := by
      rw [bytes_cons, bytes_singleton, Nat.add_assoc]
      rfl
    rw [hbytes, List.cons_append, List.singleton_append, compileFrom]
    by_cases hpercent : sigil = '%'
    · exact ⟨draft.addChar '%', rfl, if_pos hpercent⟩
    · obtain ⟨kind, hkind⟩ := (mem_sigils_iff.mp hsigil).resolve_left hpercent
      exact ⟨draft.addToken kind, rfl, by simp [hpercent, hkind]⟩
  | @group inner _ ih =>
    obtain ⟨within, hopened, hread⟩ := ih (place + 1) (draft.openGroup place) ('}' :: rest)
    -- the group that the brace closes is the one that was opened in front of the inner text
    obtain ⟨next, hclose, hnext⟩ :
        ∃ next : Draft, within.closeGroup? = some next ∧ next.opened = draft.opened := by
      rw [Draft.closeGroup?, hopened]
      exact ⟨_, rfl, rfl⟩
    refine ⟨next, hnext, ?_⟩
    have hbytes : place + bytes ('{' :: inner ++ ['}']) = place + 1 + bytes inner + 1 := by
      rw [bytes_append, bytes_cons, bytes_singleton]
      change place + (1 + bytes inner + 1) = _
      omega
    calc compileFrom place draft ('{' :: inner ++ ['}'] ++ rest)
        = compileFrom (place + 1) (draft.openGroup place) (inner ++ '}' :: rest) := by
          simp [compileFrom]
      _ = compileFrom (place + 1 + bytes inner) within ('}' :: rest) := hread
      _ = compileFrom (place + bytes ('{' :: inner ++ ['}'])) next rest := by
          rw [hbytes]
          simp [compileFrom, hclose]
  | append _ _ ihfront ihback =>
    obtain ⟨middle, hmiddle, hfront⟩ := ihfront place draft (_ ++ rest)
    obtain ⟨next, hnext, hback⟩ := ihback _ middle rest
    refine ⟨next, hnext.trans hmiddle, ?_⟩
    rw [List.append_assoc, hfront, hback, bytes_append, Nat.add_assoc]

/-- Reading goes on behind a text that can be the front of a pattern. -/
theorem Readable.compileFrom_append (h : Readable front) (rest : List Char) : ∃ next : Draft,
    compileFrom 0 .start (front ++ rest) = compileFrom (bytes front) next rest := by
  induction h generalizing rest with
  | balanced h =>
    obtain ⟨next, -, hread⟩ := h.compileFrom_append 0 .start rest
    rw [Nat.zero_add] at hread
    exact ⟨next, hread⟩
  | @opened front inner _ hinner ih =>
    obtain ⟨outer, hfront⟩ := ih ('{' :: inner ++ rest)
    obtain ⟨next, -, hread⟩ := hinner.compileFrom_append (bytes front + 1)
      (outer.openGroup (bytes front)) rest
    refine ⟨next, ?_⟩
    calc compileFrom 0 .start (front ++ '{' :: inner ++ rest)
        = compileFrom (bytes front) outer ('{' :: inner ++ rest) := by
          rw [List.append_assoc, hfront]
      _ = compileFrom (bytes front + 1) (outer.openGroup (bytes front)) (inner ++ rest) := by
          simp [compileFrom]
      _ = compileFrom (bytes front + 1 + bytes inner) next rest := hread
      _ = compileFrom (bytes (front ++ '{' :: inner)) next rest := by
          rw [bytes_append, bytes_cons, ← Nat.add_assoc]
          rfl

/-! ### Every text is read or blamed -/

namespace Readable

/-- What is balanced may follow. -/
theorem append (h : Readable front) (hinner : Balanced inner) : Readable (front ++ inner) := by
  cases h with
  | balanced h => exact .balanced (h.append hinner)
  | opened h hlast =>
    rw [List.append_assoc]
    exact .opened h (hlast.append hinner)

/-- A closing brace may follow, unless no group is open. -/
theorem close (h : Readable front) : Balanced front ∨ Readable (front ++ ['}']) := by
  cases h with
  | balanced h => exact .inl h
  | opened h hlast =>
    rw [List.append_assoc]
    exact .inr (h.append hlast.group)

end Readable

/-- Behind a text that can be read, the rest can be read too, or it holds the first offence. -/
theorem readable_or_blames {front : List Char} (hfront : Readable front) (rest : List Char) :
    Readable (front ++ rest) ∨ ∃ e, Blames (front ++ rest) e := by
  match rest with
  | [] => exact .inl (by simpa using hfront)
  | c :: rest =>
    by_cases hplain : c ∉ ['%', '{', '}']
    · have hnext := readable_or_blames (hfront.append (.plain hplain)) rest
      rwa [List.append_assoc] at hnext
    simp only [List.mem_cons, List.not_mem_nil, or_false, not_not] at hplain
    rcases hplain with rfl | rfl | rfl
    · -- a percent sign takes the character behind it along
      match rest with
      | [] => exact .inr ⟨_, .dangling hfront⟩
      | sigil :: rest =>
        by_cases hsigil : sigil ∈ sigils
        · have hnext := readable_or_blames (hfront.append (.unit hsigil)) rest
          rwa [List.append_assoc] at hnext
        · exact .inr ⟨_, .unknown hfront hsigil⟩
    · have hnext := readable_or_blames (hfront.opened .nil) rest
      rwa [List.append_assoc] at hnext
    · rcases hfront.close with hbalanced | hclosed
      · exact .inr ⟨_, .unmatched hbalanced⟩
      · have hnext := readable_or_blames hclosed rest
        rwa [List.append_assoc] at hnext

/-! ### Errors -/

theorem compileSegments_of_ne_nil (h : text ≠ []) :
    compileSegments text = compileFrom 0 .start text := by
  rw [compileSegments, if_neg (by simpa using h)]

/-- A balanced text is read. -/
theorem Balanced.compileSegments_eq_ok (h : Balanced text) (hne : text ≠ []) :
    ∃ row, compileSegments text = .ok row := by
  obtain ⟨next, hopened, hread⟩ := h.compileFrom_append 0 .start []
  rw [List.append_nil] at hread
  refine ⟨next.segments, ?_⟩
  rw [compileSegments_of_ne_nil hne, hread, compileFrom, Draft.finish, hopened]
  rfl

/-- The error is what the text is blamed for. -/
theorem Blames.compileSegments_eq_error (h : Blames text e) : compileSegments text = .error e := by
  cases h with
  | empty => rfl
  | dangling hfront =>
    obtain ⟨next, hread⟩ := hfront.compileFrom_append ['%']
    rw [compileSegments_of_ne_nil (by simp), hread, compileFrom]
  | @unknown front rest sigil hfront hsigil =>
    obtain ⟨next, hread⟩ := hfront.compileFrom_append ('%' :: sigil :: rest)
    have hnone : sigil ≠ '%' ∧ Token.ofSigil? sigil = none := by
      simpa [mem_sigils_iff, Option.eq_none_iff_forall_ne_some] using hsigil
    rw [compileSegments_of_ne_nil (by simp), hread, compileFrom]
    simp [hnone]
  | @unmatched front rest hfront =>
    obtain ⟨next, hopened, hread⟩ := hfront.compileFrom_append 0 .start ('}' :: rest)
    have hclose : next.closeGroup? = none := by
      rw [Draft.closeGroup?, hopened]
      rfl
    rw [compileSegments_of_ne_nil (by simp), hread, Nat.zero_add]
    simp [compileFrom, hclose]
  | @unclosed front inner hfront hinner =>
    obtain ⟨outer, hread⟩ := hfront.compileFrom_append ('{' :: inner)
    -- the group stays open, as the text behind the brace closes none but its own
    obtain ⟨next, hopened, hlast⟩ := hinner.compileFrom_append (bytes front + 1)
      (outer.openGroup (bytes front)) []
    rw [List.append_nil] at hlast
    have hfinish : next.finish = .error (.unclosedOptional (bytes front)) := by
      rw [Draft.finish, hopened]
      rfl
    rw [compileSegments_of_ne_nil (by simp), hread]
    simp [compileFrom, hlast, hfinish]

/-- A text is refused for just what it is blamed for, and it is read exactly if it is balanced and
not empty. -/
theorem compileSegments_eq_error_iff (text : List Char) :
    (∀ e, compileSegments text = .error e ↔ Blames text e) ∧
      ((∃ row, compileSegments text = .ok row) ↔ text ≠ [] ∧ Balanced text) := by
  -- each outcome follows from its cause, and there is a cause for some outcome
  have hcause : (text ≠ [] ∧ Balanced text) ∨ ∃ e, Blames text e := by
    by_cases hne : text = []
    · exact .inr ⟨.empty, hne ▸ .empty⟩
    rcases readable_or_blames (.balanced .nil) text with hread | hblames
    · cases hread with
      | balanced hbalanced => exact .inl ⟨hne, hbalanced⟩
      | opened hfront hinner => exact .inr ⟨_, .unclosed hfront hinner⟩
    · exact .inr hblames
  refine ⟨fun e => ⟨fun herror => ?_, Blames.compileSegments_eq_error⟩,
    ⟨fun ⟨row, hrow⟩ => ?_, fun ⟨hne, hbalanced⟩ => hbalanced.compileSegments_eq_ok hne⟩⟩
  · rcases hcause with ⟨hne, hbalanced⟩ | ⟨cause, hcause⟩
    · obtain ⟨row, hrow⟩ := hbalanced.compileSegments_eq_ok hne
      cases herror.symm.trans hrow
    · cases herror.symm.trans hcause.compileSegments_eq_error
      exact hcause
  · rcases hcause with hbalanced | ⟨cause, hcause⟩
    · exact hbalanced
    · cases hrow.symm.trans hcause.compileSegments_eq_error

/-- The inner of two open groups is blamed, and a letter outside ASCII takes two bytes. -/
example : compileSegments ['é', '{', '%', 'n', '{', '{', '}', '%', '%'] =
    .error (.unclosedOptional 5) := rfl

end MediaShelf.Pattern
