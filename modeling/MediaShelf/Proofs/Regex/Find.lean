import MediaShelf.Proofs.Regex.Table

/-!
# Matches in a text

A match that a search finds divides the text into what stands before it, its own text, and what
stands behind it.

## Main definitions

* `Node.preferred?` — the match at a place of a text
* `Node.MatchesAt` — a way to match at a place of a text

## Main results

* `Node.preferred?_eq_some`, `Node.isSome_preferred?` — it is a way to match, and there is one if
  there is a way to match
* `Node.preferred?_of_unique`, `Node.preferred?_eq_none` — which it is, and where there is none
* `Node.find?_eq_some`, `Node.findAtStart?_eq_some` — a match is a way to match, and with the text
  around it makes up the text
* `Node.find?_of_preferred?` — a search stops at the first place with a match
* `Node.isSome_find?_iff`, `Node.find?_of_first` — where a search stops, in terms of the ways to
  match
* `Trace.mem_text_of_group?` — the text of a group stands in the text of the match
-/

namespace MediaShelf.Regex

variable {α : Type} {text front : List Char} {table : Table α}

/-! ### Groups -/

namespace Trace

variable [DecidableEq α] {label : α} {trace : Trace α} {c : Char}

theorem mem_text_of_upTo (h : c ∈ upTo label trace) : c ∈ Trace.text trace := by
  induction trace with
  | nil => cases h
  | cons step trace ih =>
    cases step with
    | char d =>
      rcases List.mem_cons.mp h with rfl | h
      · exact List.mem_cons_self
      · exact List.mem_cons_of_mem _ (ih h)
    | enter other => exact ih h
    | leave other =>
      rw [upTo] at h
      split at h
      · cases h
      · exact ih h

/-- What a group passed over stands in the text of the match. -/
theorem mem_text_of_group? {run : List Char} (h : group? label trace = some run) (hc : c ∈ run) :
    c ∈ Trace.text trace := by
  induction trace with
  | nil => cases h
  | cons step trace ih =>
    cases step with
    | char d => exact List.mem_cons_of_mem _ (ih h)
    | leave other => exact ih h
    | enter other =>
      rw [group?] at h
      split at h
      · obtain rfl := Option.some.inj h
        exact mem_text_of_upTo hc
      · exact ih h

end Trace

/-! ### The leftmost match -/

namespace Node

/-- The entry that a search takes, and the text up to its place. -/
theorem leftmost?_eq_some {before rest : List Char} {trace : Trace α}
    (h : leftmost? text table = some (before, trace, rest)) :
    text = before ++ rest ∧ table.entry before = some trace := by
  -- each entry that fails moves the place on by one character
  induction table generalizing text before with
  | nil => cases text <;> cases h
  | cons entry table ih =>
    cases entry with
    | some first =>
      have hfirst : ([], first, text) = (before, trace, rest) := by
        cases text <;> exact Option.some.inj h
      cases hfirst
      exact ⟨rfl, Table.entry_nil _⟩
    | none =>
      cases text with
      | nil => cases h
      | cons c text =>
        obtain ⟨⟨front, found⟩, hfound, hpair⟩ := Option.map_eq_some_iff.mp h
        cases hpair
        obtain ⟨rfl, hentry⟩ := ih hfound
        exact ⟨rfl, by rwa [Table.entry_cons]⟩

/-- Where a table has an entry, a search of the text ends there or earlier. -/
theorem leftmost?_of_entry {rest : List Char} (h : (table.entry front).isSome) :
    ∃ before trace after, leftmost? (front ++ rest) table = some (before, trace, after) ∧
      before <+: front := by
  induction table generalizing front with
  | nil => simp [Table.entry] at h
  | cons entry table ih =>
    cases entry with
    | some trace =>
      exact ⟨[], trace, front ++ rest, by cases front ++ rest <;> rfl, List.nil_prefix⟩
    | none =>
      cases front with
      | nil => simp at h
      | cons c front =>
        rw [Table.entry_cons] at h
        obtain ⟨before, trace, after, hfound, hbegins⟩ := ih h
        refine ⟨c :: before, trace, after, ?_, List.cons_prefix_cons.mpr ⟨rfl, hbegins⟩⟩
        simp [leftmost?, hfound]

/-- In the table of the end of a text nothing follows any place. -/
theorem entry_replicate {n : Nat} {trace : Trace α}
    (h : Table.entry (List.replicate n (some [])) front = some trace) : trace = [] := by
  rw [Table.entry, List.getElem?_replicate] at h
  split at h
  · exact (Option.some.inj h).symm
  · cases h

/-! ### The preferred match at a place -/

/-- The match at the start of `rest`, behind the text `front`. -/
def preferred? (node : Node α) (front rest : List Char) : Option (Trace α) :=
  (node.table (front ++ rest)).entry front

variable {node : Node α} {trace : Trace α} {rest : List Char}

/-- It is a way to match what stands there. -/
theorem preferred?_eq_some (h : node.preferred? front rest = some trace) :
    ∃ after, rest = Trace.text trace ++ after ∧ node.Reads front.getLast? after trace := by
  obtain ⟨taken, later, after, rfl, rfl, hreads, hlater⟩ :=
    reads_of_entry List.length_replicate h
  obtain rfl := entry_replicate hlater
  exact ⟨after, by rw [List.append_nil], by rwa [List.append_nil]⟩

/-- There is one if there is a way to match. -/
theorem isSome_preferred? {after : List Char} (h : node.Reads front.getLast? after trace) :
    (node.preferred? front (Trace.text trace ++ after)).isSome := by
  refine isSome_entry_of_reads rfl List.length_replicate h ?_
  have hplace : (front ++ Trace.text trace).length <
      (front ++ (Trace.text trace ++ after)).length + 1 := by
    simp only [List.length_append]
    omega
  rw [Table.entry, List.getElem?_replicate_of_lt hplace]
  rfl

/-- If there is a way to match that no other can be preferred to, it is the match. -/
theorem preferred?_of_unique {after : List Char} (h : node.Reads front.getLast? after trace)
    (hunique : ∀ (other : Trace α) (behind : List Char),
      Trace.text trace ++ after = Trace.text other ++ behind →
      node.Reads front.getLast? behind other →
      node.preferred? front (Trace.text other ++ behind) = some other → other = trace) :
    node.preferred? front (Trace.text trace ++ after) = some trace := by
  obtain ⟨other, hother⟩ := Option.isSome_iff_exists.mp (isSome_preferred? h)
  obtain ⟨behind, htext, hreads⟩ := preferred?_eq_some hother
  rw [hother, hunique other behind htext hreads (htext ▸ hother)]

/-- Where there is no way to match there is no match. -/
theorem preferred?_eq_none (h : ∀ (other : Trace α) (behind : List Char),
      rest = Trace.text other ++ behind → ¬ node.Reads front.getLast? behind other) :
    node.preferred? front rest = none := by
  cases hother : node.preferred? front rest with
  | none => rfl
  | some other =>
    obtain ⟨behind, htext, hreads⟩ := preferred?_eq_some hother
    exact absurd hreads (h other behind htext)

/-- A search stops at a place with a match, and takes the match there. -/
theorem find?_eq_preferred? {found : Found α} (h : node.find? text = some found) :
    ∃ rest, text = found.before ++ rest ∧
      node.preferred? found.before rest = some found.trace ∧
      found.rest = rest.drop (Trace.text found.trace).length := by
  obtain ⟨⟨before, trace, rest⟩, hleftmost, rfl⟩ := Option.map_eq_some_iff.mp h
  obtain ⟨rfl, hentry⟩ := leftmost?_eq_some hleftmost
  exact ⟨rest, rfl, hentry, rfl⟩

/-- It stops at the first of all places with a match. -/
theorem find?_of_preferred? (h : (node.preferred? front rest).isSome) :
    ∃ found, node.find? (front ++ rest) = some found ∧ found.before <+: front := by
  obtain ⟨before, trace, after, hleftmost, hbegins⟩ := leftmost?_of_entry h
  refine ⟨⟨before, trace, after.drop (Trace.text trace).length⟩, ?_, hbegins⟩
  rw [find?, hleftmost, Option.map_some]

/-- The match at the start of a text stands behind nothing. -/
theorem findAtStart?_eq_preferred? (text : List Char) :
    node.findAtStart? text = (node.preferred? [] text).map fun trace =>
      ⟨[], trace, text.drop (Trace.text trace).length⟩ := by
  rw [findAtStart?, Table.here_eq_entry]
  rfl

/-- A match that was found is a way to match, and makes up the text with what is around it. -/
theorem find?_eq_some {found : Found α} (h : node.find? text = some found) :
    text = found.before ++ Trace.text found.trace ++ found.rest ∧
      node.Reads found.before.getLast? found.rest found.trace := by
  obtain ⟨rest, htext, hfound, hrest⟩ := find?_eq_preferred? h
  obtain ⟨after, rfl, hreads⟩ := preferred?_eq_some hfound
  rw [List.drop_left] at hrest
  rw [hrest, List.append_assoc]
  exact ⟨htext, hreads⟩

/-- So is the match at the start of a text, with nothing in front of it. -/
theorem findAtStart?_eq_some {found : Found α} (h : node.findAtStart? text = some found) :
    found.before = [] ∧ text = Trace.text found.trace ++ found.rest ∧
      node.Reads none found.rest found.trace := by
  rw [findAtStart?_eq_preferred?] at h
  obtain ⟨trace, hfound, rfl⟩ := Option.map_eq_some_iff.mp h
  obtain ⟨after, rfl, hreads⟩ := preferred?_eq_some hfound
  rw [List.drop_left]
  exact ⟨rfl, rfl, hreads⟩

/-! ### Places with a match -/

/-- The trace is a way to match the node in the text, between `front` and `after`. -/
structure MatchesAt (node : Node α) (text front : List Char) (trace : Trace α)
    (after : List Char) : Prop where
  text_eq : text = front ++ (Trace.text trace ++ after)
  reads : node.Reads front.getLast? after trace

theorem matchesAt_of_find? {found : Found α} (h : node.find? text = some found) :
    node.MatchesAt text found.before found.trace found.rest := by
  obtain ⟨htext, hreads⟩ := find?_eq_some h
  exact ⟨by rw [htext, List.append_assoc], hreads⟩

/-- A search stops no later than at any place with a match. -/
theorem MatchesAt.exists_find? {after : List Char} (h : node.MatchesAt text front trace after) :
    ∃ found, node.find? text = some found ∧ found.before <+: front := by
  rw [h.text_eq]
  exact find?_of_preferred? (isSome_preferred? h.reads)

/-- A search stops if there is a place with a match. -/
theorem isSome_find?_iff :
    (node.find? text).isSome ↔ ∃ front trace after, node.MatchesAt text front trace after := by
  constructor
  · intro h
    obtain ⟨found, hfound⟩ := Option.isSome_iff_exists.mp h
    exact ⟨_, _, _, matchesAt_of_find? hfound⟩
  · rintro ⟨front, trace, after, h⟩
    obtain ⟨found, hfound, -⟩ := h.exists_find?
    rw [hfound, Option.isSome_some]

/-- It stops at the first of them. -/
theorem find?_of_first {after : List Char} (h : node.MatchesAt text front trace after)
    (hfirst : ∀ earlier other behind, node.MatchesAt text earlier other behind →
      front.length ≤ earlier.length) :
    ∃ other behind, node.find? text = some ⟨front, other, behind⟩ ∧
      node.MatchesAt text front other behind := by
  obtain ⟨⟨before, other, behind⟩, hfound, hprefix⟩ := h.exists_find?
  have hmatches := matchesAt_of_find? hfound
  obtain rfl : before = front :=
    hprefix.eq_of_length (Nat.le_antisymm hprefix.length_le (hfirst _ _ _ hmatches))
  exact ⟨other, behind, hfound, hmatches⟩

end Node

end MediaShelf.Regex
