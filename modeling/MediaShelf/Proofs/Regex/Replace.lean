import MediaShelf.Proofs.Regex.Find

/-!
# Replacing matches

What becomes of a text whose matches are replaced is told place by place: a place without a match
keeps its character, and a match gives way to the replacement, unless it is empty.

## Main definitions

* `Node.Solid` — the node never matches the empty text
* `Node.replaceBehind` — the rest of a text with its matches replaced

## Main results

* `Node.replaceBehind_pass`, `Node.replaceBehind_swap` — a place without a match, and one with a
  match
* `Node.replaceAll_eq_self` — a text without matches stays as it is
-/

namespace MediaShelf.Regex.Node

variable {α : Type} {node : Node α} {replacement front run rest : List Char} {c : Char}
  {trace : Trace α} {table : Table α}

/-- The node never matches the empty text. -/
def Solid (node : Node α) : Prop :=
  ∀ before after trace, node.Reads before after trace → Trace.text trace ≠ []

/-- What becomes of the text `rest` behind the text `front`. -/
def replaceBehind (node : Node α) (replacement front rest : List Char) : List Char :=
  replaceFrom replacement 0 false rest ((node.table (front ++ rest)).drop front.length)

theorem replaceAll_eq_replaceBehind (text : List Char) :
    node.replaceAll replacement text = node.replaceBehind replacement [] text := rfl

theorem here_drop_table (front rest : List Char) :
    Table.here ((node.table (front ++ rest)).drop front.length) = node.preferred? front rest := by
  rw [Table.here, List.head?_drop, preferred?, Table.entry]

/-- Nothing comes of the end of a text, if nothing is matched there. -/
theorem replaceBehind_nil (h : node.preferred? front [] = none) :
    node.replaceBehind replacement front [] = [] := by
  simp only [replaceBehind, replaceFrom, here_drop_table, h]

/-- A character stays where nothing is matched. -/
theorem replaceBehind_pass (h : node.preferred? front (c :: rest) = none) :
    node.replaceBehind replacement front (c :: rest) =
      c :: node.replaceBehind replacement (front ++ [c]) rest := by
  have htable : ((node.table (front ++ c :: rest)).drop front.length).tail =
      (node.table (front ++ [c] ++ rest)).drop (front ++ [c]).length := by
    simp
  rw [replaceBehind, replaceFrom, here_drop_table, h]
  simp only [htable]
  rfl

/-- A run of characters stays where nothing is matched at any of them. -/
theorem replaceBehind_passes (h : ∀ lead d behind, run = lead ++ d :: behind →
      node.preferred? (front ++ lead) (d :: (behind ++ rest)) = none) :
    node.replaceBehind replacement front (run ++ rest) =
      run ++ node.replaceBehind replacement (front ++ run) rest := by
  induction run generalizing front with
  | nil => simp
  | cons c run ih =>
    have hfirst := h [] c run rfl
    rw [List.append_nil] at hfirst
    rw [List.cons_append, replaceBehind_pass hfirst, ih, List.append_assoc, List.singleton_append,
      List.cons_append]
    intro lead d behind hsplit
    have hlater := h (c :: lead) d behind (by rw [hsplit, List.cons_append])
    rwa [List.append_cons] at hlater

/-- A text without matches stays as it is. -/
theorem replaceAll_eq_self {text : List Char}
    (h : ∀ front trace after, ¬ node.MatchesAt text front trace after) :
    node.replaceAll replacement text = text := by
  have hnone {front rest : List Char} (htext : text = front ++ rest) :
      node.preferred? front rest = none :=
    preferred?_eq_none fun other behind hrest hreads =>
      h front other behind ⟨by rw [htext, hrest], hreads⟩
  have hall := @replaceBehind_passes α node replacement [] text [] fun lead d behind hsplit =>
    hnone (by simpa using hsplit)
  rw [List.append_nil, List.nil_append] at hall
  rw [replaceAll_eq_replaceBehind, hall, replaceBehind_nil (hnone (by simp)), List.append_nil]

/-- The rest of a match is passed over. -/
theorem replaceFrom_skip (run rest : List Char) :
    replaceFrom replacement run.length (run.length == 0) (run ++ rest) table =
      replaceFrom replacement 0 true rest (table.drop run.length) := by
  induction run generalizing table with
  | nil => rfl
  | cons c run ih =>
    rw [List.length_cons, List.cons_append, replaceFrom, ih, List.drop_tail]

/-- Whether a match has just ended only matters for an empty one. -/
theorem replaceFrom_fresh (h : ∀ trace, Table.here table = some trace → Trace.text trace ≠ [])
    (hend : rest = [] → Table.here table = none) :
    replaceFrom replacement 0 true rest table = replaceFrom replacement 0 false rest table := by
  cases rest with
  | nil => simp [replaceFrom, hend rfl]
  | cons c rest =>
    cases hhere : Table.here table with
    | none => simp only [replaceFrom, hhere]
    | some trace =>
      obtain ⟨d, more, hmore⟩ := List.exists_cons_of_ne_nil (h trace hhere)
      simp only [replaceFrom, hhere, hmore, List.length_cons]

/-- A match is replaced, and the text behind it comes next. -/
theorem replaceFrom_match (h : Table.here table = some trace) (hrun : Trace.text trace = c :: run) :
    replaceFrom replacement 0 false (c :: (run ++ rest)) table =
      replacement ++ replaceFrom replacement 0 true rest (table.drop (run.length + 1)) := by
  simp only [replaceFrom, h, hrun, List.length_cons]
  rw [replaceFrom_skip, List.drop_tail]

/-- A match gives way to the replacement. -/
theorem replaceBehind_swap (hsolid : node.Solid)
    (h : node.preferred? front (Trace.text trace ++ rest) = some trace) :
    node.replaceBehind replacement front (Trace.text trace ++ rest) =
      replacement ++ node.replaceBehind replacement (front ++ Trace.text trace) rest := by
  obtain ⟨after, -, hreads⟩ := preferred?_eq_some h
  obtain ⟨c, run, hrun⟩ := List.exists_cons_of_ne_nil (hsolid _ _ trace hreads)
  have hdrop : ((node.table (front ++ (Trace.text trace ++ rest))).drop front.length).drop
      (run.length + 1) = (node.table (front ++ Trace.text trace ++ rest)).drop
        (front ++ Trace.text trace).length := by
    rw [List.append_assoc, List.drop_drop, List.length_append, hrun, List.length_cons]
  have hbehind : Table.here ((node.table (front ++ Trace.text trace ++ rest)).drop
      (front ++ Trace.text trace).length) = node.preferred? (front ++ Trace.text trace) rest :=
    here_drop_table _ _
  have hmatch : replaceFrom replacement 0 false (c :: (run ++ rest)) _ = _ :=
    replaceFrom_match ((here_drop_table _ _).trans h) hrun
  rw [hdrop, replaceFrom_fresh] at hmatch
  · rw [replaceBehind, replaceBehind, ← hmatch, hrun, List.cons_append]
  · -- no empty match follows
    intro other hother
    obtain ⟨_, -, hlater⟩ := preferred?_eq_some (hbehind.symm.trans hother)
    exact hsolid _ _ other hlater
  · rintro rfl
    rw [hbehind]
    refine preferred?_eq_none fun other behind hnil hlater => hsolid _ _ other hlater ?_
    exact (List.append_eq_nil_iff.mp hnil.symm).1

end MediaShelf.Regex.Node
