import MediaShelf.Proofs.Regex.Reads

/-!
# Tables and what expressions match

An entry of a table stands for the place behind the texts of one length. The table of a node has an
entry at a place exactly if the node matches from there up to a place where the table of what
follows has one.

## Main definitions

* `Table.entry` — the entry of the place behind a text
* `Table.either` — an end of a repetition or one round more, whichever it prefers

## Main results

* `Node.reads_of_entry` — an entry is a way to match
* `Node.isSome_entry_of_reads` — where there is a way to match there is an entry
* `Node.matchWhole?_reads`, `Node.isSome_matchWhole?` — the same of matches of a whole text
-/

namespace MediaShelf.Regex

variable {α : Type} {table other : Table α} {front rest text : List Char} {trace : Trace α}
  {accepts : Char → Bool} {isLazy : Bool}

namespace Table

/-- The entry of the place behind the text. -/
def entry (table : Table α) (front : List Char) : Option (Trace α) := table[front.length]?.join

@[simp] theorem entry_nil (e : Option (Trace α)) : entry (e :: table) [] = e := by
  simp [entry]

@[simp] theorem entry_cons (e : Option (Trace α)) (c : Char) :
    entry (e :: table) (c :: front) = entry table front := by
  simp [entry]

theorem here_eq_entry (table : Table α) : here table = entry table [] := by
  cases table <;> simp [here, entry]

/-! ### Lengths -/

theorem length_one (h : table.length = text.length + 1) :
    (one accepts text table).length = text.length + 1 := by
  induction text generalizing table with
  | nil => cases table <;> rfl
  | cons c text ih =>
    cases table with
    | nil => cases h
    | cons e table => simpa [one] using ih (by simpa using h)

theorem length_many (h : table.length = text.length + 1) :
    (many isLazy accepts text table).length = text.length + 1 := by
  induction text generalizing table with
  | nil => exact h
  | cons c text ih =>
    cases table with
    | nil => cases h
    | cons e table => simpa [many] using ih (by simpa using h)

theorem length_look {holds : Assertion} {before : Option Char}
    (h : table.length = text.length + 1) :
    (look holds before text table).length = text.length + 1 := by
  induction text generalizing table before with
  | nil =>
    cases table with
    | nil => cases h
    | cons e table => rfl
  | cons c text ih =>
    cases table with
    | nil => cases h
    | cons e table => simpa [look] using ih (by simpa using h)

theorem length_orElse {n : Nat} (h : table.length = n) (hother : other.length = n) :
    (orElse table other).length = n := by
  simp [orElse, h, hother]

theorem length_rounds {body : Table α → Table α} {n : Nat} (h : table.length = n)
    (hbody : ∀ {table : Table α}, table.length = n → (body table).length = n) (count : Nat) :
    (rounds isLazy body table count).length = n := by
  induction count with
  | zero => exact h
  | succ count ih =>
    rw [rounds]
    split
    · exact length_orElse h (hbody ih)
    · exact length_orElse (hbody ih) h

/-! ### Entries -/

/-- The end of a repetition or a way to go on, in the order that it prefers. -/
def either (isLazy : Bool) (stop more : Option (Trace α)) : Option (Trace α) :=
  if isLazy then stop.or more else more.or stop

theorem either_eq_some {stop more : Option (Trace α)} (h : either isLazy stop more = some trace) :
    stop = some trace ∨ more = some trace := by
  unfold either at h
  split at h
  · exact (Option.or_eq_some_iff.mp h).imp_right And.right
  · exact (Option.or_eq_some_iff.mp h).symm.imp_left And.right

theorem isSome_either {stop more : Option (Trace α)} :
    (either isLazy stop more).isSome ↔ stop.isSome ∨ more.isSome := by
  unfold either
  split
  · rw [Option.isSome_or, Bool.or_eq_true]
  · rw [Option.isSome_or, Bool.or_eq_true, or_comm]

theorem entry_one (h : table.length = (front ++ rest).length + 1) :
    (one accepts (front ++ rest) table).entry front =
      rest.head?.bind fun c => pass accepts c (table.entry (front ++ [c])) := by
  induction front generalizing table with
  | nil =>
    cases table with
    | nil => cases h
    | cons e table =>
      cases rest with
      | nil => rfl
      | cons c rest => simp [one, here_eq_entry]
  | cons c front ih =>
    cases table with
    | nil => cases h
    | cons e table =>
      simp only [List.cons_append, one, entry_cons]
      exact ih (by simpa using h)

theorem entry_many (h : table.length = (front ++ rest).length + 1) :
    (many isLazy accepts (front ++ rest) table).entry front =
      either isLazy (table.entry front) (rest.head?.bind fun c =>
        pass accepts c ((many isLazy accepts (front ++ rest) table).entry (front ++ [c]))) := by
  induction front generalizing table with
  | nil =>
    cases table with
    | nil => cases h
    | cons e table =>
      cases rest with
      | nil => cases isLazy <;> simp [many, either]
      | cons c rest => simp [many, either, here_eq_entry]
  | cons c front ih =>
    cases table with
    | nil => cases h
    | cons e table =>
      simp only [List.cons_append, many, entry_cons]
      exact ih (by simpa using h)

theorem entry_look {holds : Assertion} {before : Option Char}
    (h : table.length = (front ++ rest).length + 1) :
    (look holds before (front ++ rest) table).entry front =
      if holds (front.getLast?.or before) rest.head? then table.entry front else none := by
  induction front generalizing table before with
  | nil =>
    cases table with
    | nil => cases h
    | cons e table => cases rest <;> simp [look]
  | cons c front ih =>
    cases table with
    | nil => cases h
    | cons e table =>
      simp only [List.cons_append, look, entry_cons]
      rw [ih (by simpa using h), List.getLast?_cons]
      cases front.getLast? <;> rfl

theorem entry_orElse (h : table.length = other.length) :
    (orElse table other).entry front = (table.entry front).or (other.entry front) := by
  simp only [entry, orElse, List.getElem?_zipWith]
  by_cases hfront : front.length < table.length
  · simp [hfront, h ▸ hfront]
  · simp [hfront, h ▸ hfront]

theorem isSome_entry_orElse (h : table.length = other.length) :
    ((orElse table other).entry front).isSome ↔
      (table.entry front).isSome ∨ (other.entry front).isSome := by
  rw [entry_orElse h, Option.isSome_or, Bool.or_eq_true]

/-- At every place one round more is the end or what the body leads to. -/
theorem entry_rounds_succ {body : Table α → Table α} {count : Nat}
    (h : table.length = (body (rounds isLazy body table count)).length) :
    (rounds isLazy body table (count + 1)).entry front =
      either isLazy (table.entry front) ((body (rounds isLazy body table count)).entry front) := by
  rw [rounds, either]
  split
  · exact entry_orElse h
  · exact entry_orElse h.symm

theorem entry_prepend (step : Step α) :
    (prepend step table).entry front = (table.entry front).map (step :: ·) := by
  simp only [entry, prepend, List.getElem?_map]
  cases table[front.length]? <;> rfl

theorem pass_eq_some {c : Char} {later : Option (Trace α)} :
    pass accepts c later = some trace ↔
      accepts c ∧ ∃ behind, later = some behind ∧ trace = .char c :: behind := by
  unfold pass
  split
  · rename_i hc
    rw [Option.map_eq_some_iff]
    exact ⟨fun ⟨behind, hbehind, htrace⟩ => ⟨hc, behind, hbehind, htrace.symm⟩,
      fun ⟨_, behind, hbehind, htrace⟩ => ⟨behind, hbehind, htrace.symm⟩⟩
  · rename_i hc
    simp [hc]

theorem entry_append (front text : List Char) (c : Char) :
    table.entry (front ++ [c] ++ text) = table.entry (front ++ c :: text) := by
  rw [List.append_assoc, List.singleton_append]

end Table

open Table (rounds)

/-! ### Entries are ways to match -/

/-- What runs over accepted characters. -/
theorem run_of_entry_many (h : table.length = (front ++ rest).length + 1)
    (hentry : (Table.many isLazy accepts (front ++ rest) table).entry front = some trace) :
    ∃ run later after, trace = run.map .char ++ later ∧ rest = run ++ after ∧
      (∀ c ∈ run, accepts c) ∧ table.entry (front ++ run) = some later := by
  induction rest generalizing front trace with
  | nil =>
    rw [Table.entry_many h] at hentry
    have hstop := (Table.either_eq_some hentry).resolve_right (by simp)
    exact ⟨[], trace, [], rfl, rfl, by simp, by rwa [List.append_nil]⟩
  | cons c rest ih =>
    -- either the run ends here, or it goes on behind the next character
    have hcases : table.entry front = some trace ∨ Table.pass accepts c
        ((Table.many isLazy accepts (front ++ c :: rest) table).entry (front ++ [c])) =
          some trace := by
      rw [Table.entry_many h] at hentry
      exact Table.either_eq_some hentry
    rcases hcases with hstop | hmore
    · exact ⟨[], trace, c :: rest, rfl, rfl, by simp, by rwa [List.append_nil]⟩
    · obtain ⟨hc, behind, hbehind, rfl⟩ := Table.pass_eq_some.mp hmore
      have hsplit : front ++ c :: rest = front ++ [c] ++ rest := by simp
      rw [hsplit] at h hbehind
      obtain ⟨run, later, after, rfl, rfl, hrun, hlater⟩ := ih h hbehind
      refine ⟨c :: run, later, after, rfl, rfl, fun d hd => ?_, ?_⟩
      · rcases List.mem_cons.mp hd with rfl | hd
        · exact hc
        · exact hrun d hd
      · rwa [Table.entry_append] at hlater

namespace Node

theorem length_run (node : Node α) (h : table.length = text.length + 1) :
    (node.run text table).length = text.length + 1 := by
  induction node generalizing table with
  | empty => exact h
  | one accepts => exact Table.length_one h
  | many isLazy accepts => exact Table.length_many h
  | look holds => exact Table.length_look h
  | seq first second ihFirst ihSecond => exact ihFirst (ihSecond h)
  | alt first second ihFirst ihSecond => exact Table.length_orElse (ihFirst h) (ihSecond h)
  | star isLazy body ih => exact Table.length_rounds h ih _
  | group label body ih =>
    have htable : (Table.prepend (.leave label) table).length = text.length + 1 := by
      simpa [Table.prepend] using h
    simpa [run, Table.prepend] using ih htable

/-- What rounds of a body run over, if the body runs over what it matches. -/
theorem rounds_of_entry {body : Node α} {count : Nat}
    (h : table.length = (front ++ rest).length + 1)
    (hbody : ∀ {table : Table α} {front rest : List Char} {trace : Trace α},
      table.length = (front ++ rest).length + 1 →
      (body.run (front ++ rest) table).entry front = some trace →
      ∃ taken later after, trace = taken ++ later ∧ rest = Trace.text taken ++ after ∧
        body.Reads front.getLast? after taken ∧
        table.entry (front ++ Trace.text taken) = some later)
    (hentry : (rounds isLazy (body.run (front ++ rest)) table count).entry front = some trace) :
    ∃ taken later after, trace = taken ++ later ∧ rest = Trace.text taken ++ after ∧
      Rounds body.Reads front.getLast? after taken ∧
      table.entry (front ++ Trace.text taken) = some later := by
  induction count generalizing front rest trace with
  | zero => exact ⟨[], trace, rest, rfl, rfl, .nil, by simpa [Trace.text, rounds] using hentry⟩
  | succ count ih =>
    have hlength : (rounds isLazy (body.run (front ++ rest)) table count).length =
        (front ++ rest).length + 1 := Table.length_rounds h (length_run body) count
    have hcases : table.entry front = some trace ∨ (body.run (front ++ rest)
        (rounds isLazy (body.run (front ++ rest)) table count)).entry front = some trace := by
      rw [Table.entry_rounds_succ (h.trans (length_run body hlength).symm)] at hentry
      exact Table.either_eq_some hentry
    rcases hcases with hstop | hmore
    · exact ⟨[], trace, rest, rfl, rfl, .nil, by simpa [Trace.text] using hstop⟩
    · obtain ⟨first, behind, after, rfl, rfl, hfirst, hbehind⟩ := hbody hlength hmore
      rw [← List.append_assoc] at h hbehind
      obtain ⟨taken, later, end', rfl, rfl, htaken, hlater⟩ := ih h hbehind
      rw [List.getLast?_append] at htaken
      refine ⟨first ++ taken, later, end', by simp, by simp, .cons hfirst htaken, ?_⟩
      rwa [Trace.text_append, ← List.append_assoc]

/-- An entry is a way to match up to a place with an entry. -/
theorem reads_of_entry {node : Node α} (h : table.length = (front ++ rest).length + 1)
    (hentry : (node.run (front ++ rest) table).entry front = some trace) :
    ∃ taken later after, trace = taken ++ later ∧ rest = Trace.text taken ++ after ∧
      node.Reads front.getLast? after taken ∧
      table.entry (front ++ Trace.text taken) = some later := by
  -- the table of what follows a node is that of its successor, so any table must do
  induction node generalizing table front rest trace with
  | empty => exact ⟨[], trace, rest, rfl, rfl, rfl, by simpa [Trace.text, run] using hentry⟩
  | one accepts =>
    rw [run, Table.entry_one h] at hentry
    obtain ⟨c, hc, hpass⟩ := Option.bind_eq_some_iff.mp hentry
    obtain ⟨rest, rfl⟩ := List.head?_eq_some_iff.mp hc
    obtain ⟨haccepts, later, hlater, rfl⟩ := Table.pass_eq_some.mp hpass
    exact ⟨[.char c], later, rest, rfl, rfl, ⟨c, haccepts, rfl⟩, hlater⟩
  | many isLazy accepts =>
    obtain ⟨run, later, after, rfl, rfl, hrun, hlater⟩ := run_of_entry_many h hentry
    exact ⟨run.map .char, later, after, rfl, by simp, ⟨run, hrun, rfl⟩, by simpa using hlater⟩
  | look holds =>
    rw [run, Table.entry_look h, Option.or_none] at hentry
    split at hentry
    · rename_i hholds
      exact ⟨[], trace, rest, rfl, rfl, ⟨hholds, rfl⟩, by simpa [Trace.text] using hentry⟩
    · cases hentry
  | seq first second ihFirst ihSecond =>
    -- the first node leads to an entry of the second one's table, which leads on from there
    obtain ⟨front', behind, after, rfl, rfl, hfirst, hbehind⟩ :=
      ihFirst (length_run second h) hentry
    rw [← List.append_assoc] at h hbehind
    obtain ⟨back, later, end', rfl, rfl, hsecond, hlater⟩ := ihSecond h hbehind
    rw [List.getLast?_append] at hsecond
    refine ⟨front' ++ back, later, end', by simp, by simp, ⟨front', back, hfirst, hsecond, rfl⟩, ?_⟩
    rwa [Trace.text_append, ← List.append_assoc]
  | alt first second ihFirst ihSecond =>
    rw [run, Table.entry_orElse ((length_run first h).trans (length_run second h).symm)] at hentry
    rcases Option.or_eq_some_iff.mp hentry with hfirst | ⟨-, hsecond⟩
    · obtain ⟨taken, later, after, htrace, hrest, hreads, hlater⟩ := ihFirst h hfirst
      exact ⟨taken, later, after, htrace, hrest, .inl hreads, hlater⟩
    · obtain ⟨taken, later, after, htrace, hrest, hreads, hlater⟩ := ihSecond h hsecond
      exact ⟨taken, later, after, htrace, hrest, .inr hreads, hlater⟩
  | star isLazy body ih => exact rounds_of_entry h ih hentry
  | group label body ih =>
    rw [run, Table.entry_prepend] at hentry
    obtain ⟨_, hinner, rfl⟩ := Option.map_eq_some_iff.mp hentry
    obtain ⟨inner, behind, after, rfl, rfl, hreads, hbehind⟩ :=
      ih (by simpa [Table.prepend] using h) hinner
    rw [Table.entry_prepend] at hbehind
    obtain ⟨later, hlater, rfl⟩ := Option.map_eq_some_iff.mp hbehind
    exact ⟨.enter label :: (inner ++ [.leave label]), later, after, by simp, by simp,
      ⟨inner, hreads, rfl⟩, by simpa using hlater⟩

end Node

/-! ### Ways to match have entries -/

theorem Table.isSome_pass {c : Char} {later : Option (Trace α)} (hc : accepts c)
    (hlater : later.isSome) : (pass accepts c later).isSome := by
  simpa [pass, hc] using hlater

/-- A run over accepted characters up to a place with an entry has an entry. -/
theorem isSome_entry_of_run {run after : List Char}
    (h : table.length = (front ++ (run ++ after)).length + 1) (hrun : ∀ c ∈ run, accepts c)
    (hlater : (table.entry (front ++ run)).isSome) :
    ((Table.many isLazy accepts (front ++ (run ++ after)) table).entry front).isSome := by
  induction run generalizing front with
  | nil =>
    rw [Table.entry_many h, Table.isSome_either]
    exact .inl (by simpa using hlater)
  | cons c run ih =>
    rw [Table.entry_many h, Table.isSome_either]
    refine .inr (Table.isSome_pass (hrun c List.mem_cons_self) ?_)
    have hsplit : front ++ (c :: run ++ after) = front ++ [c] ++ (run ++ after) := by simp
    rw [hsplit] at h ⊢
    exact ih h (fun d hd => hrun d (List.mem_cons_of_mem _ hd))
      (by rwa [Table.entry_append])

namespace Node

/-- Rounds of a body have an entry, if the ways to match the body have: only rounds that pass over
characters count. -/
theorem isSome_entry_rounds {body : Node α} {taken : Trace α} {after : List Char}
    {before : Option Char} {count : Nat} (hrounds : Rounds body.Reads before after taken)
    (hbefore : before = front.getLast?) (htext : text = front ++ (Trace.text taken ++ after))
    (h : table.length = text.length + 1)
    (hbody : ∀ {table : Table α} {front after : List Char} {taken : Trace α},
      text = front ++ (Trace.text taken ++ after) → table.length = text.length + 1 →
      body.Reads front.getLast? after taken → (table.entry (front ++ Trace.text taken)).isSome →
      ((body.run text table).entry front).isSome)
    (hlater : (table.entry (front ++ Trace.text taken)).isSome)
    (hcount : (Trace.text taken).length ≤ count) :
    ((rounds isLazy (body.run text) table count).entry front).isSome := by
  have hlength (count : Nat) : (rounds isLazy (body.run text) table count).length =
    text.length + 1 := Table.length_rounds h (length_run body) count
  have hround (count : Nat) : (body.run text (rounds isLazy (body.run text) table count)).length =
    text.length + 1 := length_run body (hlength count)
  -- each round that counts is longer than nothing, so `count` rounds are enough for the text
  induction hrounds generalizing front count with
  | nil =>
    have hstop : (table.entry front).isSome := by simpa [Trace.text] using hlater
    cases count with
    | zero => exact hstop
    | succ count =>
      rw [Table.entry_rounds_succ (h.trans (hround count).symm), Table.isSome_either]
      exact .inl hstop
  | @cons before after first rest hfirst hrest ih =>
    rw [Trace.text_append] at htext hlater hcount
    by_cases hempty : Trace.text first = []
    · -- an empty round changes nothing
      rw [hempty, List.nil_append] at htext hlater hcount
      exact ih (by rw [hempty]; exact hbefore) htext hlater hcount
    · have hpos := List.length_pos_iff.mpr hempty
      rw [List.length_append] at hcount
      obtain ⟨count, rfl⟩ : ∃ fewer, count = fewer + 1 := Nat.exists_eq_add_one.mpr (by omega)
      have hbehind : ((rounds isLazy (body.run text) table count).entry
          (front ++ Trace.text first)).isSome := by
        refine ih ?_ (by simp [htext]) (by simpa using hlater) (by omega)
        rw [List.getLast?_append, hbefore]
      have hmore := hbody (by simp [htext]) (hlength count) (hbefore ▸ hfirst) hbehind
      rw [Table.entry_rounds_succ (h.trans (hround count).symm), Table.isSome_either]
      exact .inr hmore

/-- Where there is a way to match, up to a place with an entry, there is an entry. -/
theorem isSome_entry_of_reads {node : Node α} {taken : Trace α} {after : List Char}
    (htext : text = front ++ (Trace.text taken ++ after)) (h : table.length = text.length + 1)
    (hreads : node.Reads front.getLast? after taken)
    (hlater : (table.entry (front ++ Trace.text taken)).isSome) :
    ((node.run text table).entry front).isSome := by
  induction node generalizing table front after taken with
  | empty =>
    obtain rfl := hreads
    simpa [Trace.text, run] using hlater
  | one accepts =>
    obtain ⟨c, hc, rfl⟩ := hreads
    rw [htext] at h ⊢
    rw [run, Table.entry_one h]
    exact Table.isSome_pass hc hlater
  | many isLazy accepts =>
    obtain ⟨run, hrun, rfl⟩ := hreads
    rw [Trace.text_chars] at htext hlater
    rw [htext] at h ⊢
    exact isSome_entry_of_run h hrun hlater
  | look holds =>
    obtain ⟨hholds, rfl⟩ := hreads
    have hlater : (table.entry front).isSome := by simpa [Trace.text] using hlater
    have htext : text = front ++ after := htext
    rw [htext] at h ⊢
    rw [run, Table.entry_look h, Option.or_none, if_pos hholds]
    exact hlater
  | seq first second ihFirst ihSecond =>
    obtain ⟨front', back, hfirst, hsecond, rfl⟩ := hreads
    rw [Trace.text_append] at htext hlater
    have hbehind : ((second.run text table).entry (front ++ Trace.text front')).isSome := by
      have htext' : text = front ++ Trace.text front' ++ (Trace.text back ++ after) := by
        simp [htext]
      refine ihSecond htext' h ?_ (by simpa using hlater)
      rwa [List.getLast?_append]
    exact ihFirst (by simp [htext]) (length_run second h) hfirst hbehind
  | alt first second ihFirst ihSecond =>
    refine (Table.isSome_entry_orElse
      ((length_run first h).trans (length_run second h).symm)).mpr ?_
    exact hreads.imp (ihFirst htext h · hlater) (ihSecond htext h · hlater)
  | star isLazy body ih =>
    refine isSome_entry_rounds hreads rfl htext h ih hlater ?_
    simp only [htext, List.length_append]
    omega
  | group label body ih =>
    obtain ⟨inner, hinner, rfl⟩ := hreads
    rw [Trace.text_group] at htext hlater
    rw [run, Table.entry_prepend, Option.isSome_map]
    refine ih htext (by simpa [Table.prepend] using h) hinner ?_
    rw [Table.entry_prepend, Option.isSome_map]
    exact hlater

/-! ### Whole texts -/

/-- The table of the end of a text, from which a match of the whole text starts. -/
theorem entry_whole {front : List Char} :
    (List.replicate text.length none ++ [some []] : Table α).entry front = some trace ↔
      front.length = text.length ∧ trace = [] := by
  rcases Nat.lt_trichotomy front.length text.length with h | h | h
  · simp [Table.entry, List.getElem?_append, h, Nat.ne_of_lt h]
  · simp [Table.entry, h, eq_comm]
  · have hpast : front.length - text.length ≠ 0 := by omega
    simp [Table.entry, List.getElem?_append, Nat.not_lt.mpr (Nat.le_of_lt h), hpast,
      Nat.ne_of_gt h]

/-- The match of a whole text is a way to match it. -/
theorem matchWhole?_reads {node : Node α} (h : node.matchWhole? text = some trace) :
    node.Reads none [] trace ∧ Trace.text trace = text := by
  rw [matchWhole?, Table.here_eq_entry] at h
  have hlength : (List.replicate text.length none ++ [some []] : Table α).length =
      ([] ++ text).length + 1 := by simp
  obtain ⟨taken, later, after, rfl, rfl, hreads, hlater⟩ := reads_of_entry hlength h
  obtain ⟨hend, rfl⟩ := entry_whole.mp hlater
  obtain rfl : after = [] := by simpa using hend
  rw [List.append_nil, List.append_nil]
  exact ⟨hreads, rfl⟩

/-- A text that there is a way to match is matched. -/
theorem isSome_matchWhole? {node : Node α} (h : node.Reads none [] trace) :
    (node.matchWhole? (Trace.text trace)).isSome := by
  rw [matchWhole?, Table.here_eq_entry]
  have htext : Trace.text trace = [] ++ (Trace.text trace ++ []) := by simp
  refine isSome_entry_of_reads htext (by simp) h ?_
  rw [List.nil_append, Option.isSome_iff_exists]
  exact ⟨[], entry_whole.mpr ⟨rfl, rfl⟩⟩

end Node

end MediaShelf.Regex
