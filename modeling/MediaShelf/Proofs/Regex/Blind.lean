import MediaShelf.Regex.Find

/-!
# Expressions that do not tell characters apart

An expression may be blind to the difference between a character and its image under a map, as one
that ignores letter case is. On the image of a text such an expression takes every step that it
takes on the text itself: the tables have their matches in the same places, and these pass over the
images of the same characters.

## Main definitions

* `Step.map`, `Trace.map`, `Table.map`, `Found.map` — matches with every character replaced
* `Node.Blind` — the node does not tell a character from its image

## Main results

* `Node.run_map` — the table of a blind node on the image of a text
* `Node.find?_map`, `Node.findAtStart?_map`, `Node.matchWhole?_map` — the searches
* `Node.Blind.seqs`, `opt`, `times`, `upTo` — blind nodes put together are blind
-/

namespace MediaShelf.Regex

variable {α : Type} (f : Char → Char)

/-! ### Matches with other characters -/

/-- The step over the image of its character. -/
def Step.map : Step α → Step α
  | .char c => .char (f c)
  | .enter label => .enter label
  | .leave label => .leave label

/-- The match with every character replaced. -/
def Trace.map (trace : Trace α) : Trace α := List.map (Step.map f) trace

/-- The table with every match replaced. -/
def Table.map (table : Table α) : Table α := List.map (Option.map (Trace.map f)) table

/-- The match and the text around it with every character replaced. -/
def Found.map (found : Found α) : Found α :=
  ⟨found.before.map f, Trace.map f found.trace, found.rest.map f⟩

namespace Trace

@[simp] theorem map_cons (step : Step α) (trace : Trace α) :
    Trace.map f (step :: trace) = step.map f :: Trace.map f trace := rfl

theorem text_map (trace : Trace α) : Trace.text (Trace.map f trace) = (Trace.text trace).map f := by
  induction trace with
  | nil => rfl
  | cons step trace ih =>
    cases step with
    | char c => exact congrArg (f c :: ·) ih
    | enter other => exact ih
    | leave other => exact ih

variable [DecidableEq α] (label : α) (trace : Trace α)

theorem upTo_map : Trace.upTo label (Trace.map f trace) = (Trace.upTo label trace).map f := by
  induction trace with
  | nil => rfl
  | cons step trace ih =>
    cases step with
    | char c => exact congrArg (f c :: ·) ih
    | enter other => exact ih
    | leave other =>
      simp only [map_cons, Step.map, upTo]
      split
      · rfl
      · exact ih

theorem group?_map :
    Trace.group? label (Trace.map f trace) = (Trace.group? label trace).map (·.map f) := by
  induction trace with
  | nil => rfl
  | cons step trace ih =>
    cases step with
    | char c => exact ih
    | leave other => exact ih
    | enter other =>
      simp only [map_cons, Step.map, group?]
      split
      · rw [upTo_map, Option.map_some]
      · exact ih

theorem after_map : Trace.after label (Trace.map f trace) = (Trace.after label trace).map f := by
  induction trace with
  | nil => rfl
  | cons step trace ih =>
    cases step with
    | char c => exact ih
    | enter other => exact ih
    | leave other =>
      simp only [map_cons, Step.map, after]
      split
      · exact text_map f trace
      · exact ih

end Trace

namespace Found

variable [DecidableEq α] (found : Found α) (label : α)

theorem group?_map : (found.map f).group? label = (found.group? label).map (·.map f) :=
  Trace.group?_map f label found.trace

theorem behind_map : (found.map f).behind label = (found.behind label).map f := by
  simp only [behind, map, Trace.after_map, List.map_append]

end Found

/-! ### Tables -/

namespace Table

variable {f} {accepts : Char → Bool} {text : List Char} {table : Table α}

@[simp] theorem map_cons (entry : Option (Trace α)) (table : Table α) :
    Table.map f (entry :: table) = entry.map (Trace.map f) :: Table.map f table := rfl

theorem map_append (front back : Table α) :
    Table.map f (front ++ back) = Table.map f front ++ Table.map f back :=
  List.map_append

theorem map_replicate (n : Nat) (entry : Option (Trace α)) :
    Table.map f (List.replicate n entry) = List.replicate n (entry.map (Trace.map f)) :=
  List.map_replicate

theorem here_map (table : Table α) : here (table.map f) = (here table).map (Trace.map f) := by
  cases table <;> rfl

theorem prepend_map {step : Step α} (hstep : step.map f = step) (table : Table α) :
    prepend step (table.map f) = (prepend step table).map f := by
  simp only [prepend, Table.map, List.map_map]
  congr 1
  funext entry
  cases entry with
  | none => rfl
  | some trace => simp [hstep]

theorem orElse_map (preferred other : Table α) :
    orElse (preferred.map f) (other.map f) = (orElse preferred other).map f := by
  simp only [orElse, Table.map, List.zipWith_map, List.map_zipWith]
  congr 1
  funext first second
  cases first <;> rfl

theorem pass_map (h : ∀ c, accepts (f c) = accepts c) (c : Char) (later : Option (Trace α)) :
    pass accepts (f c) (later.map (Trace.map f)) = (pass accepts c later).map (Trace.map f) := by
  rw [pass, pass, h]
  split
  · cases later <;> rfl
  · rfl

theorem one_map (h : ∀ c, accepts (f c) = accepts c) (text : List Char) (table : Table α) :
    one accepts (text.map f) (table.map f) = (one accepts text table).map f := by
  induction text generalizing table with
  | nil => cases table <;> rfl
  | cons c text ih =>
    cases table with
    | nil => rfl
    | cons entry table => simp only [List.map_cons, map_cons, one, here_map, pass_map h, ih]

theorem many_map (h : ∀ c, accepts (f c) = accepts c) (isLazy : Bool) (text : List Char)
    (table : Table α) :
    many isLazy accepts (text.map f) (table.map f) = (many isLazy accepts text table).map f := by
  -- the rest of the run is looked up in the table being built, which is that of the shorter text
  induction text generalizing table with
  | nil => cases table <;> rfl
  | cons c text ih =>
    cases table with
    | nil => rfl
    | cons stop table =>
      simp only [List.map_cons, map_cons, many, ih, here_map, pass_map h]
      cases isLazy with
      | true => simp only [if_true, Option.map_or]
      | false => simp only [Bool.false_eq_true, if_false, Option.map_or]

theorem look_map {holds : Assertion}
    (h : ∀ before after, holds (before.map f) (after.map f) = holds before after)
    (before : Option Char) (text : List Char) (table : Table α) :
    look holds (before.map f) (text.map f) (table.map f) =
      (look holds before text table).map f := by
  induction table generalizing before text with
  | nil => cases text <;> rfl
  | cons entry table ih =>
    cases text with
    | nil =>
      have hend := h before none
      simp only [Option.map_none] at hend
      simp only [List.map_nil, map_cons, look, hend]
      split <;> rfl
    | cons c text =>
      have hhere := h before (some c)
      have hlater := ih (some c) text
      simp only [Option.map_some] at hhere hlater
      simp only [List.map_cons, map_cons, look, hhere, hlater]
      split <;> rfl

theorem rounds_map {body body' : Table α → Table α}
    (h : ∀ table, body' (table.map f) = (body table).map f) (isLazy : Bool) (table : Table α)
    (n : Nat) : rounds isLazy body' (table.map f) n = (rounds isLazy body table n).map f := by
  induction n with
  | zero => rfl
  | succ n ih =>
    simp only [rounds, ih, h]
    split <;> exact orElse_map ..

end Table

/-! ### Blind expressions -/

namespace Node

variable {f}

/-- The node does not tell a character from its image. -/
def Blind (f : Char → Char) : Node α → Prop
  | empty => True
  | one accepts => ∀ c, accepts (f c) = accepts c
  | many _ accepts => ∀ c, accepts (f c) = accepts c
  | look holds => ∀ before after, holds (before.map f) (after.map f) = holds before after
  | seq first second => first.Blind f ∧ second.Blind f
  | alt first second => first.Blind f ∧ second.Blind f
  | star _ body => body.Blind f
  | group _ body => body.Blind f

/-- The table of a blind node on the image of a text is the image of its table. -/
theorem run_map {node : Node α} (h : node.Blind f) (text : List Char) (table : Table α) :
    node.run (text.map f) (table.map f) = (node.run text table).map f := by
  -- what follows a node has its table replaced first, so any table must do
  induction node generalizing table with
  | empty => rfl
  | one accepts => exact Table.one_map h text table
  | many isLazy accepts => exact Table.many_map h isLazy text table
  | look holds => exact Table.look_map h none text table
  | seq first second ihFirst ihSecond =>
    simp only [run, ihSecond h.2, ihFirst h.1]
  | alt first second ihFirst ihSecond =>
    simp only [run, ihFirst h.1, ihSecond h.2, Table.orElse_map]
  | star isLazy body ih =>
    -- the image of a text is as long as the text, so the bound on the rounds is the same
    rw [run, run, List.length_map]
    exact Table.rounds_map (ih h) isLazy table text.length
  | group label body ih =>
    have henter : (Step.enter label).map f = .enter label := rfl
    have hleave : (Step.leave label).map f = .leave label := rfl
    simp only [run, Table.prepend_map hleave, ih h, Table.prepend_map henter]

section Search

variable {node : Node α}

theorem table_map (h : node.Blind f) (text : List Char) :
    node.table (text.map f) = (node.table text).map f := by
  rw [table, table, ← run_map h, Table.map_replicate, List.length_map]
  rfl

theorem leftmost?_map (text : List Char) (table : Table α) :
    leftmost? (text.map f) (table.map f) =
      (leftmost? text table).map fun (before, trace, rest) =>
        (before.map f, Trace.map f trace, rest.map f) := by
  induction table generalizing text with
  | nil => cases text <;> rfl
  | cons entry table ih =>
    cases entry with
    | some trace => cases text <;> rfl
    | none =>
      cases text with
      | nil => rfl
      | cons c text =>
        simp only [List.map_cons, Table.map_cons, Option.map_none, leftmost?, ih, Option.map_map]
        rfl

theorem matchWhole?_map (h : node.Blind f) (text : List Char) :
    node.matchWhole? (text.map f) = (node.matchWhole? text).map (Trace.map f) := by
  have hend : (List.replicate text.length none ++ [some []] : Table α) =
      Table.map f (List.replicate text.length none ++ [some []]) := by
    rw [Table.map_append, Table.map_replicate]
    rfl
  rw [matchWhole?, matchWhole?, List.length_map, ← Table.here_map, ← run_map h, ← hend]

theorem find?_map (h : node.Blind f) (text : List Char) :
    node.find? (text.map f) = (node.find? text).map (·.map f) := by
  simp only [find?, table_map h, leftmost?_map, Option.map_map]
  congr 1
  funext (before, trace, rest)
  simp [Found.map, Trace.text_map]

theorem findAtStart?_map (h : node.Blind f) (text : List Char) :
    node.findAtStart? (text.map f) = (node.findAtStart? text).map (·.map f) := by
  simp only [findAtStart?, table_map h, Table.here_map, Option.map_map]
  congr 1
  funext trace
  simp [Found.map, Trace.text_map]

end Search

/-! ### Blind expressions put together -/

namespace Blind

variable {node : Node α}

theorem seqs {nodes : List (Node α)} (h : ∀ node ∈ nodes, node.Blind f) :
    (Node.seqs nodes).Blind f := by
  induction nodes with
  | nil => trivial
  | cons node nodes ih =>
    have hfirst := h node List.mem_cons_self
    have hrest := ih fun other hother => h other (List.mem_cons_of_mem _ hother)
    cases nodes with
    | nil => exact hfirst
    | cons next nodes => exact ⟨hfirst, hrest⟩

theorem opt (h : node.Blind f) (isLazy : Bool) : (node.opt isLazy).Blind f := by
  cases isLazy with
  | true => exact ⟨trivial, h⟩
  | false => exact ⟨h, trivial⟩

theorem times (h : node.Blind f) : ∀ n, (Node.times n node).Blind f
  | 0 => trivial
  | 1 => h
  | n + 2 => ⟨h, times h (n + 1)⟩

theorem upTo (h : node.Blind f) (isLazy : Bool) : ∀ n, (Node.upTo isLazy n node).Blind f
  | 0 => trivial
  | n + 1 => by
    have hround : (Node.seq node (.upTo isLazy n node)).Blind f := ⟨h, upTo h isLazy n⟩
    exact opt hround isLazy

end Blind

theorem blind_atStart : (look atStart : Node α).Blind f := by
  intro before after
  cases before <;> rfl

theorem blind_atEnd : (look atEnd : Node α).Blind f := by
  intro before after
  cases after <;> rfl

end Node

end MediaShelf.Regex
