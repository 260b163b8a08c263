import Mathlib.Data.List.Forall2
import MediaShelf.Regex.Find

/-!
# What expressions match

The ways in which an expression matches, as a relation between a trace and the texts in front of it
and behind it. It says nothing of preference: of the ways that there are, the search takes one.

## Main definitions

* `Rounds` — rounds of a body one after the other
* `Node.Reads` — the trace is one of the ways to match the node
* `StartsOr` — an accepted character, or the start of the text in its place

## Main results

* `Node.reads_text` — a text in any letter case
* `Trace.group?_group`, `Trace.after_group` — the text of a group, and the text after it
-/

namespace MediaShelf.Regex

variable {α : Type}

/-- The trace goes through rounds of the body, between the character `before` and the text
`after`. -/
inductive Rounds (body : Option Char → List Char → Trace α → Prop) :
    Option Char → List Char → Trace α → Prop
  | nil {before after} : Rounds body before after []
  | cons {before after first rest} :
      body before (Trace.text rest ++ after) first →
      Rounds body ((Trace.text first).getLast?.or before) after rest →
      Rounds body before after (first ++ rest)

/-- The trace is one of the ways to match the node between the character `before`, if there is one,
and the text `after`. -/
def Node.Reads : Node α → Option Char → List Char → Trace α → Prop
  | empty, _, _, trace => trace = []
  | one accepts, _, _, trace => ∃ c, accepts c ∧ trace = [.char c]
  | many _ accepts, _, _, trace => ∃ run : List Char, (∀ c ∈ run, accepts c) ∧ trace = run.map .char
  | look holds, before, after, trace => holds before after.head? ∧ trace = []
  | seq first second, before, after, trace => ∃ front back,
      first.Reads before (Trace.text back ++ after) front ∧
        second.Reads ((Trace.text front).getLast?.or before) after back ∧ trace = front ++ back
  | alt first second, before, after, trace =>
      first.Reads before after trace ∨ second.Reads before after trace
  | star _ body, before, after, trace => Rounds body.Reads before after trace
  | group label body, before, after, trace => ∃ inner,
      body.Reads before after inner ∧ trace = .enter label :: (inner ++ [.leave label])

/-- The text is an accepted character, or nothing where no character stands in front. -/
def StartsOr (accepts : Char → Bool) (before : Option Char) (text : List Char) : Prop :=
  before = none ∧ text = [] ∨ ∃ c, accepts c ∧ text = [c]

/-! ### Traces -/

namespace Trace

/-- The edges of groups take no part in the text. -/
@[simp] theorem text_append (front back : Trace α) :
    text (front ++ back) = text front ++ text back := by
  induction front with
  | nil => rfl
  | cons step front ih => cases step <;> simp [text, ih]

@[simp] theorem text_chars (run : List Char) : text (run.map .char : Trace α) = run := by
  induction run with
  | nil => rfl
  | cons c run ih => simp [text, ih]

@[simp] theorem text_group (label : α) (inner : Trace α) :
    text (.enter label :: (inner ++ [.leave label])) = text inner := by
  simp [text]

variable [DecidableEq α] {label other : α}

@[simp] theorem upTo_chars (run : List Char) (trace : Trace α) :
    upTo label (run.map .char ++ .leave label :: trace) = run := by
  induction run with
  | nil => simp [upTo]
  | cons c run ih => simp [upTo, ih]

@[simp] theorem group?_chars (run : List Char) (trace : Trace α) :
    group? label (run.map .char ++ trace) = group? label trace := by
  induction run with
  | nil => rfl
  | cons c run ih => simp [group?, ih]

/-- The text of the first group, if it holds characters alone, counts. -/
theorem group?_group (run : List Char) (trace : Trace α) :
    group? label (.enter label :: (run.map .char ++ [.leave label]) ++ trace) = some run := by
  simp [group?]

/-- A group with another label is passed over. -/
theorem group?_other (h : other ≠ label) (run : List Char) (trace : Trace α) :
    group? label (.enter other :: (run.map .char ++ [.leave other]) ++ trace) =
      group? label trace := by
  simp [group?, h]

@[simp] theorem after_chars (run : List Char) (trace : Trace α) :
    after label (run.map .char ++ trace) = after label trace := by
  induction run with
  | nil => rfl
  | cons c run ih => exact ih

/-- A group with another label comes before what counts. -/
theorem after_other (h : other ≠ label) (run : List Char) (trace : Trace α) :
    after label (.enter other :: (run.map .char ++ [.leave other]) ++ trace) =
      after label trace := by
  simp [after, h]

/-- All that comes after the first group counts. -/
theorem after_group (run : List Char) (trace : Trace α) :
    after label (.enter label :: (run.map .char ++ [.leave label]) ++ trace) = text trace := by
  simp [after]

end Trace

/-! ### Expressions put together -/

namespace Node

variable {before : Option Char} {after : List Char} {trace : Trace α}

theorem reads_plus {accepts : Char → Bool} {isLazy : Bool} :
    (plus accepts isLazy : Node α).Reads before after trace ↔
      ∃ run : List Char, run ≠ [] ∧ (∀ c ∈ run, accepts c) ∧ trace = run.map .char := by
  constructor
  · rintro ⟨_, _, ⟨c, hc, rfl⟩, ⟨run, hrun, rfl⟩, rfl⟩
    refine ⟨c :: run, List.cons_ne_nil c run, fun d hd => ?_, rfl⟩
    rcases List.mem_cons.mp hd with rfl | hd
    · exact hc
    · exact hrun d hd
  · rintro ⟨run, hne, hrun, rfl⟩
    obtain ⟨c, run, rfl⟩ := List.exists_cons_of_ne_nil hne
    exact ⟨[.char c], run.map .char, ⟨c, hrun c List.mem_cons_self, rfl⟩,
      ⟨run, fun d hd => hrun d (List.mem_cons_of_mem _ hd), rfl⟩, rfl⟩

/-- The start of the text, or an accepted character. -/
theorem reads_atStart_or {accepts : Char → Bool} :
    (alt (look atStart) (one accepts) : Node α).Reads before after trace ↔
      ∃ lead, StartsOr accepts before lead ∧ trace = lead.map .char := by
  constructor
  · rintro (⟨hstart, rfl⟩ | ⟨c, hc, rfl⟩)
    · exact ⟨[], .inl ⟨by simpa [atStart] using hstart, rfl⟩, rfl⟩
    · exact ⟨[c], .inr ⟨c, hc, rfl⟩, rfl⟩
  · rintro ⟨_, ⟨rfl, rfl⟩ | ⟨c, hc, rfl⟩, rfl⟩
    · exact .inl ⟨rfl, rfl⟩
    · exact .inr ⟨c, hc, rfl⟩

/-- Up to `n` accepted characters. -/
theorem reads_upTo_one {accepts : Char → Bool} {n : Nat} :
    (upTo false n (one accepts) : Node α).Reads before after trace ↔
      ∃ run : List Char, run.length ≤ n ∧ (∀ c ∈ run, accepts c) ∧ trace = run.map .char := by
  induction n generalizing before trace with
  | zero => simp [upTo, Reads]
  | succ n ih =>
    constructor
    · rintro (⟨_, _, ⟨c, hc, rfl⟩, hrest, rfl⟩ | rfl)
      · obtain ⟨run, hlength, hrun, rfl⟩ := ih.mp hrest
        refine ⟨c :: run, by simpa using hlength, fun d hd => ?_, rfl⟩
        rcases List.mem_cons.mp hd with rfl | hd
        · exact hc
        · exact hrun d hd
      · exact ⟨[], by simp, by simp, rfl⟩
    · rintro ⟨run, hlength, hrun, rfl⟩
      cases run with
      | nil => exact .inr rfl
      | cons c run =>
        exact .inl ⟨[.char c], run.map .char, ⟨c, hrun c List.mem_cons_self, rfl⟩,
          ih.mpr ⟨run, by simpa using hlength, fun d hd => hrun d (List.mem_cons_of_mem _ hd), rfl⟩,
          rfl⟩

/-- One accepted character and up to `n` more. -/
theorem reads_one_upTo {accepts : Char → Bool} {n : Nat} :
    (seq (one accepts) (upTo false n (one accepts)) : Node α).Reads before after trace ↔
      ∃ run : List Char, run ≠ [] ∧ run.length ≤ n + 1 ∧ (∀ c ∈ run, accepts c) ∧
        trace = run.map .char := by
  constructor
  · rintro ⟨_, _, ⟨c, hc, rfl⟩, hrest, rfl⟩
    obtain ⟨run, hlength, hrun, rfl⟩ := reads_upTo_one.mp hrest
    refine ⟨c :: run, List.cons_ne_nil c run, by simpa using hlength, fun d hd => ?_, rfl⟩
    rcases List.mem_cons.mp hd with rfl | hd
    · exact hc
    · exact hrun d hd
  · rintro ⟨run, hne, hlength, hrun, rfl⟩
    obtain ⟨c, run, rfl⟩ := List.exists_cons_of_ne_nil hne
    exact ⟨[.char c], run.map .char, ⟨c, hrun c List.mem_cons_self, rfl⟩,
      reads_upTo_one.mpr ⟨run, by simpa using hlength,
        fun d hd => hrun d (List.mem_cons_of_mem _ hd), rfl⟩, rfl⟩

/-- Several in a row are the first and those behind it. -/
theorem reads_seqs_cons {node : Node α} {nodes : List (Node α)} :
    (seqs (node :: nodes)).Reads before after trace ↔ ∃ front back,
      node.Reads before (Trace.text back ++ after) front ∧
        (seqs nodes).Reads ((Trace.text front).getLast?.or before) after back ∧
        trace = front ++ back := by
  cases nodes with
  | cons next nodes => rfl
  | nil =>
    constructor
    · intro h
      exact ⟨trace, [], h, rfl, (List.append_nil trace).symm⟩
    · rintro ⟨front, back, hfront, rfl, rfl⟩
      rwa [List.append_nil]

/-- One round more than `n` is a round and `n` rounds behind it. -/
theorem reads_times_succ {node : Node α} {n : Nat} :
    (times (n + 1) node).Reads before after trace ↔ ∃ front back,
      node.Reads before (Trace.text back ++ after) front ∧
        (times n node).Reads ((Trace.text front).getLast?.or before) after back ∧
        trace = front ++ back := by
  cases n with
  | succ n => rfl
  | zero => exact (reads_seqs_cons : (seqs [node]).Reads before after trace ↔ _)

/-- A text is matched by the texts that differ from it in letter case alone. -/
theorem reads_text {chars : List Char} :
    (text chars : Node α).Reads before after trace ↔
      ∃ run : List Char, List.Forall₂ (fun c d => Text.sameLetter c d) chars run ∧
        trace = run.map .char := by
  -- a letter may be matched by another one, so what is before the rest is not known
  induction chars generalizing before trace with
  | nil => simp [text, seqs, Reads]
  | cons c chars ih =>
    refine reads_seqs_cons.trans ?_
    constructor
    · rintro ⟨_, back, ⟨d, hd, rfl⟩, hback, rfl⟩
      obtain ⟨run, hrun, rfl⟩ := ih.mp hback
      exact ⟨d :: run, .cons hd hrun, rfl⟩
    · rintro ⟨_, hrun, rfl⟩
      cases hrun with
      | cons hd hrest => exact ⟨_, _, ⟨_, hd, rfl⟩, ih.mpr ⟨_, hrest, rfl⟩, rfl⟩

end Node

end MediaShelf.Regex
