import MediaShelf.Proofs.Regex.Table

/-!
# Lazy repetitions

An expression that starts with a lazy repetition ends it at the first place from which the rest of
the expression matches. So of all the ways to match a text it takes the one whose first group is the
shortest.

## Main results

* `shortest_of_entry_many` — a lazy run ends at the first place that has an entry
* `Node.shortest_of_matchWhole?`, `Node.shortest_of_matchWhole?_plus` — the first group of a match
  is the shortest that there is
-/

namespace MediaShelf.Regex

variable {α : Type} {table : Table α} {accepts : Char → Bool} {front rest text : List Char}
  {trace : Trace α}

/-- What a lazy repetition runs over: no place before its end has an entry. -/
theorem shortest_of_entry_many (h : table.length = (front ++ rest).length + 1)
    (hentry : (Table.many true accepts (front ++ rest) table).entry front = some trace) :
    ∃ run later after, trace = run.map .char ++ later ∧ rest = run ++ after ∧
      table.entry (front ++ run) = some later ∧
      ∀ shorter, shorter <+: run → shorter ≠ run → table.entry (front ++ shorter) = none := by
  induction rest generalizing front trace with
  | nil =>
    rw [Table.entry_many h] at hentry
    have hstop := (Table.either_eq_some hentry).resolve_right (by simp)
    refine ⟨[], trace, [], rfl, rfl, by rwa [List.append_nil], fun shorter hprefix hne => ?_⟩
    exact absurd (List.prefix_nil.mp hprefix) hne
  | cons c rest ih =>
    rw [Table.entry_many h] at hentry
    cases hstop : table.entry front with
    | some later =>
      -- here the repetition may end, and so it does
      rw [hstop] at hentry
      obtain rfl : later = trace := by simpa [Table.either] using hentry
      refine ⟨[], later, c :: rest, rfl, rfl, by rwa [List.append_nil],
        fun shorter hprefix hne => ?_⟩
      exact absurd (List.prefix_nil.mp hprefix) hne
    | none =>
      rw [hstop] at hentry
      have hmore : Table.pass accepts c
          ((Table.many true accepts (front ++ c :: rest) table).entry (front ++ [c])) =
            some trace := by simpa [Table.either] using hentry
      obtain ⟨-, behind, hbehind, rfl⟩ := Table.pass_eq_some.mp hmore
      have hsplit : front ++ c :: rest = front ++ [c] ++ rest := by simp
      rw [hsplit] at h hbehind
      obtain ⟨run, later, after, rfl, rfl, hlater, hshorter⟩ := ih h hbehind
      rw [Table.entry_append] at hlater
      refine ⟨c :: run, later, after, rfl, rfl, hlater, fun shorter hprefix hne => ?_⟩
      cases shorter with
      | nil => rwa [List.append_nil]
      | cons d shorter =>
        obtain ⟨rfl, hshort⟩ := List.cons_prefix_cons.mp hprefix
        rw [← Table.entry_append]
        exact hshorter shorter hshort fun heq => hne (heq ▸ rfl)

namespace Node

/-- An entry of the table from which the whole text is matched is a way to match the rest of it. -/
theorem reads_of_entry_whole {node : Node α}
    (h : (node.run (front ++ rest) (List.replicate (front ++ rest).length none ++ [some []])).entry
      front = some trace) : Trace.text trace = rest ∧ node.Reads front.getLast? [] trace := by
  obtain ⟨taken, later, after, rfl, rfl, hreads, hlater⟩ := reads_of_entry (by simp) h
  obtain ⟨hend, rfl⟩ := entry_whole.mp hlater
  obtain rfl : after = [] := by simpa using hend
  rw [List.append_nil, List.append_nil]
  exact ⟨rfl, hreads⟩

/-- Where there is a way to match the rest of the text, that table has an entry. -/
theorem isSome_entry_whole {node : Node α} (htext : text = front ++ Trace.text trace)
    (h : node.Reads front.getLast? [] trace) :
    ((node.run text (List.replicate text.length none ++ [some []])).entry front).isSome := by
  refine isSome_entry_of_reads (by rwa [List.append_nil]) (by simp) h ?_
  rw [Option.isSome_iff_exists]
  exact ⟨[], entry_whole.mpr ⟨by rw [htext], rfl⟩⟩

/-- The table of a group that ends there, with the rest of the expression behind it. -/
theorem length_prepend_run (node : Node α) (step : Step α) :
    (Table.prepend step (node.run text (List.replicate text.length none ++ [some []]))).length =
      text.length + 1 := by
  have htable := length_run node (show (List.replicate text.length none ++ [some []] :
    Table α).length = text.length + 1 by simp)
  simpa [Table.prepend] using htable

/-- A lazy run at the end of a group: nothing shorter in its place lets the rest match. -/
theorem shortest_of_entry_group (front : List Char) {label : α} {behind : Node α}
    (h : (Table.many true accepts (front ++ rest) (Table.prepend (.leave label)
      (behind.run (front ++ rest) (List.replicate (front ++ rest).length none ++ [some []])))).entry
        front = some trace) :
    ∃ run back, trace = run.map .char ++ .leave label :: back ∧ rest = run ++ Trace.text back ∧
      behind.Reads (front ++ run).getLast? [] back ∧
      ∀ shorter taken, rest = shorter ++ Trace.text taken →
        behind.Reads (front ++ shorter).getLast? [] taken → run.length ≤ shorter.length := by
  obtain ⟨run, _, after, rfl, rfl, hlater, hshortest⟩ :=
    shortest_of_entry_many (length_prepend_run behind _) h
  rw [Table.entry_prepend] at hlater
  obtain ⟨back, hbehind, rfl⟩ := Option.map_eq_some_iff.mp hlater
  rw [← List.append_assoc] at hbehind
  obtain ⟨rfl, hreads⟩ := reads_of_entry_whole hbehind
  refine ⟨run, back, rfl, rfl, hreads, fun shorter taken hrest hother => ?_⟩
  -- a shorter run would end at a place that has no entry
  by_contra hlt
  have hprefix : shorter <+: run :=
    List.prefix_of_prefix_length_le ⟨_, hrest.symm⟩ ⟨_, rfl⟩ (by omega)
  have hnone := hshortest shorter hprefix (by rintro rfl; omega)
  rw [Table.entry_prepend, Option.map_eq_none_iff, hrest] at hnone
  have hsome := isSome_entry_whole (List.append_assoc front shorter _).symm hother
  rw [hnone] at hsome
  cases hsome

/-- A match that starts with a lazy group: nothing shorter in its place lets the rest match. -/
theorem shortest_of_matchWhole? {label : α} {behind : Node α}
    (h : (seq (group label (many true accepts)) behind).matchWhole? text = some trace) :
    ∃ run back, trace = .enter label :: (run.map .char ++ [.leave label]) ++ back ∧
      text = run ++ Trace.text back ∧ behind.Reads run.getLast? [] back ∧
      ∀ shorter taken, text = shorter ++ Trace.text taken →
        behind.Reads shorter.getLast? [] taken → run.length ≤ shorter.length := by
  rw [matchWhole?, Table.here_eq_entry, run, run, Table.entry_prepend] at h
  obtain ⟨_, hinner, rfl⟩ := Option.map_eq_some_iff.mp h
  obtain ⟨run, back, rfl, hrest, hreads, hshortest⟩ := shortest_of_entry_group [] hinner
  exact ⟨run, back, by simp, hrest, hreads, hshortest⟩

/-- A match that starts with a lazy group of at least one character: nothing shorter in its place
lets the rest match. -/
theorem shortest_of_matchWhole?_plus {label : α} {behind : Node α}
    (h : (seq (group label (plus accepts true)) behind).matchWhole? text = some trace) :
    ∃ run back, trace = .enter label :: (run.map .char ++ [.leave label]) ++ back ∧ run ≠ [] ∧
      text = run ++ Trace.text back ∧ behind.Reads run.getLast? [] back ∧
      ∀ shorter taken, shorter ≠ [] → text = shorter ++ Trace.text taken →
        behind.Reads shorter.getLast? [] taken → run.length ≤ shorter.length := by
  rw [matchWhole?, Table.here_eq_entry, run, run, Table.entry_prepend] at h
  obtain ⟨_, hinner, rfl⟩ := Option.map_eq_some_iff.mp h
  -- one character is taken for sure, and the lazy run starts behind it
  rw [plus, Node.run, Node.run, Node.run] at hinner
  have hlength : (Table.many true accepts text (Table.prepend (.leave label) (behind.run text
      (List.replicate text.length none ++ [some []])))).length = ([] ++ text).length + 1 :=
    Table.length_many (length_prepend_run behind _)
  have hone := (Table.entry_one hlength).symm.trans hinner
  obtain ⟨c, hc, hpass⟩ := Option.bind_eq_some_iff.mp hone
  obtain ⟨rest, rfl⟩ := List.head?_eq_some_iff.mp hc
  obtain ⟨-, later, hlater, rfl⟩ := Table.pass_eq_some.mp hpass
  obtain ⟨run, back, rfl, rfl, hreads, hshortest⟩ := shortest_of_entry_group [c] hlater
  refine ⟨c :: run, back, by simp, List.cons_ne_nil c run, rfl, hreads, ?_⟩
  intro shorter taken hne htext hother
  obtain ⟨d, shorter, rfl⟩ := List.exists_cons_of_ne_nil hne
  obtain ⟨rfl, hrest⟩ := List.cons.inj htext
  simpa using hshortest shorter taken hrest hother

end Node

end MediaShelf.Regex
