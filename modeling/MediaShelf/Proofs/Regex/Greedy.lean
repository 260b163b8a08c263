import MediaShelf.Proofs.Regex.Find

/-!
# Greedy repetitions

A greedy repetition that nothing has to match behind takes all that it can: it runs to the first
character that is not accepted. So of an expression that ends with such a run only the part in front
of it can match in several ways.

## Main results

* `Node.run_seqs_append` — a row of expressions is its front followed by its back
* `entry_many_replicate` — a greedy run takes all accepted characters
* `Node.preferred?_stops` — a row that ends with such a run leaves none of them behind
-/

namespace MediaShelf.Regex

variable {α : Type} {front rest text : List Char} {accepts : Char → Bool} {label : α}
  {trace : Trace α}

theorem Table.entry_replicate_of_lt {n : Nat} (h : front.length < n) (entry : Option (Trace α)) :
    Table.entry (List.replicate n entry) front = entry := by
  rw [Table.entry, List.getElem?_replicate_of_lt h, Option.join_some]

/-- A greedy run up to where everything goes on alike takes all characters that it accepts. -/
theorem entry_many_replicate (later : Trace α) :
    (Table.many false accepts (front ++ rest)
      (List.replicate ((front ++ rest).length + 1) (some later))).entry front =
        some ((rest.takeWhile accepts).map .char ++ later) := by
  have hstop (front rest : List Char) : Table.entry
      (List.replicate ((front ++ rest).length + 1) (some later)) front = some later :=
    Table.entry_replicate_of_lt (by rw [List.length_append]; omega) _
  -- the run goes on from the next place, where the text in front is longer by a character
  induction rest generalizing front with
  | nil =>
    rw [Table.entry_many List.length_replicate, hstop]
    rfl
  | cons c rest ih =>
    have hnext := @ih (front ++ [c])
    rw [List.append_assoc, List.singleton_append] at hnext
    rw [Table.entry_many List.length_replicate, hstop, List.head?_cons, Option.bind_some, hnext,
      Table.either, Table.pass]
    by_cases hc : accepts c <;> simp [hc]

namespace Node

theorem run_seqs_cons (node : Node α) (nodes : List (Node α)) (text : List Char)
    (table : Table α) :
    (seqs (node :: nodes)).run text table = node.run text ((seqs nodes).run text table) := by
  cases nodes <;> rfl

/-- The table of a row of expressions is that of its front, followed by that of its back. -/
theorem run_seqs_append (nodes others : List (Node α)) (text : List Char) (table : Table α) :
    (seqs (nodes ++ others)).run text table =
      (seqs nodes).run text ((seqs others).run text table) := by
  induction nodes with
  | nil => rfl
  | cons node nodes ih => rw [List.cons_append, run_seqs_cons, ih, run_seqs_cons]

/-- A group of accepted characters takes all of them, if there are any. -/
theorem preferred?_group_plus
    (h : (group label (plus accepts)).preferred? front rest = some trace) :
    rest.takeWhile accepts ≠ [] ∧
      trace = .enter label :: ((rest.takeWhile accepts).map .char ++ [.leave label]) := by
  rw [preferred?, table, run, Table.entry_prepend] at h
  obtain ⟨inner, hinner, rfl⟩ := Option.map_eq_some_iff.mp h
  rw [Table.prepend, List.map_replicate, Option.map_some, plus, run, run, run,
    Table.entry_one (Table.length_many List.length_replicate)] at hinner
  obtain ⟨c, hc, hpass⟩ := Option.bind_eq_some_iff.mp hinner
  obtain ⟨rest, rfl⟩ := List.head?_eq_some_iff.mp hc
  obtain ⟨haccepts, later, hlater, rfl⟩ := Table.pass_eq_some.mp hpass
  have hmany := @entry_many_replicate α (front ++ [c]) rest accepts [.leave label]
  rw [List.append_assoc, List.singleton_append] at hmany
  obtain rfl := Option.some.inj (hlater.symm.trans hmany)
  simp [haccepts]

/-- A row that ends with a group of accepted characters leaves none of them behind. -/
theorem preferred?_stops (nodes : List (Node α)) {after : List Char}
    (h : (seqs (nodes ++ [group label (plus accepts)])).preferred? front
      (Trace.text trace ++ after) = some trace) :
    ∀ c ∈ after.head?, accepts c = false := by
  rw [preferred?, table, run_seqs_append] at h
  obtain ⟨lead, later, behind, htrace, hrest, -, hlater⟩ :=
    reads_of_entry (length_run _ List.length_replicate) h
  rw [hrest, ← List.append_assoc] at hlater
  obtain ⟨-, rfl⟩ := preferred?_group_plus hlater
  -- what the front of the row has left is the run of accepted characters and the text behind it
  rw [htrace, Trace.text_append, Trace.text_group, Trace.text_chars, List.append_assoc] at hrest
  have hbehind : behind.takeWhile accepts ++ after =
      behind.takeWhile accepts ++ behind.dropWhile accepts := by
    rw [List.takeWhile_append_dropWhile]
    exact List.append_cancel_left hrest
  rw [List.append_cancel_left hbehind]
  intro c hc
  have hstop := List.head?_dropWhile_not accepts behind
  rw [hc] at hstop
  simpa using hstop

end Node

end MediaShelf.Regex
