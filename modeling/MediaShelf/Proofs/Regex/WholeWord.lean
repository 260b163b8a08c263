import MediaShelf.Proofs.Regex.Replace
import MediaShelf.Proofs.Text.Split

/-!
# Expressions for whole words

An expression that stands for words between edges of words matches a text word by word: a longest
run of word characters is matched as a whole or not at all. So its matches are replaced word by
word.

## Main definitions

* `Node.Spells` — the node matches the words of a list, in any letter case
* `Node.IsWholeWord` — it does so between edges of words
* `Node.KeepsToWords` — in a given text it matches word characters only

## Main results

* `Node.spells_alts`, `Node.isWholeWord_seqs` — expressions that are put together from words
* `Node.IsWholeWord.replaceBehind_gap`, `Node.IsWholeWord.replaceBehind_spelt`,
  `Node.IsWholeWord.replaceBehind_other` — what becomes of characters between words, of words that
  are matched and of other words
* `Node.IsWholeWord.replaceBehind_joinWith` — what becomes of a text that separators divide
-/

namespace MediaShelf.Regex

variable {α : Type} {before : Option Char} {after : List Char} {trace : Trace α}

namespace Node

/-- The text is one of the words in any letter case. -/
def Spelt (words : List (List Char)) (text : List Char) : Prop :=
  ∃ word ∈ words, List.Forall₂ (fun c d => Text.sameLetter c d) word text

/-- The node matches the words of the list, in any letter case. -/
structure Spells (node : Node α) (words : List (List Char)) : Prop where
  reads_iff : ∀ {before : Option Char} {after : List Char} {trace : Trace α},
    node.Reads before after trace ↔ ∃ run, Spelt words run ∧ trace = run.map .char

theorem spells_text (word : List Char) : (text word : Node α).Spells [word] :=
  ⟨by simp [reads_text, Spelt]⟩

section Row

variable {nodes : List (Node α)} {words : List (List Char)} (h : (seqs nodes).Spells words)
include h

/-- A letter in front of words. -/
theorem spells_letter_cons (c : Char) : (seqs (letter c :: nodes)).Spells (words.map (c :: ·)) where
  reads_iff := by
    intro before after trace
    rw [reads_seqs_cons]
    constructor
    · rintro ⟨_, _, ⟨d, hd, rfl⟩, hback, rfl⟩
      obtain ⟨run, ⟨word, hword, hrun⟩, rfl⟩ := h.reads_iff.mp hback
      exact ⟨d :: run, ⟨c :: word, List.mem_map_of_mem hword, .cons hd hrun⟩, rfl⟩
    · rintro ⟨run, ⟨_, hmem, hrun⟩, rfl⟩
      obtain ⟨word, hword, rfl⟩ := List.mem_map.mp hmem
      obtain _ | ⟨hd, hrest⟩ := hrun
      exact ⟨_, _, ⟨_, hd, rfl⟩, h.reads_iff.mpr ⟨_, ⟨word, hword, hrest⟩, rfl⟩, rfl⟩

/-- Letters in a row in front of words. -/
theorem spells_letters_append (front : List Char) :
    (seqs (front.map letter ++ nodes)).Spells (words.map (front ++ ·)) := by
  induction front with
  | nil => simpa using h
  | cons c front ih => simpa [Function.comp_def] using spells_letter_cons ih c

/-- A letter in front of words that may be left out. -/
theorem spells_opt_cons (c : Char) :
    (seqs ((letter c).opt :: nodes)).Spells (words.map (c :: ·) ++ words) where
  reads_iff := by
    intro before after trace
    have hsplit : (seqs ((letter c).opt :: nodes)).Reads before after trace ↔
        (seqs (letter c :: nodes)).Reads before after trace ∨
          (seqs nodes).Reads before after trace := by
      rw [reads_seqs_cons, reads_seqs_cons]
      constructor
      · rintro ⟨front, back, hfront | rfl, hback, rfl⟩
        · exact .inl ⟨front, back, hfront, hback, rfl⟩
        · exact .inr hback
      · rintro (⟨front, back, hfront, hback, rfl⟩ | hback)
        · exact ⟨front, back, .inl hfront, hback, rfl⟩
        · exact ⟨[], trace, .inr rfl, hback, rfl⟩
    rw [hsplit, (spells_letter_cons h c).reads_iff, h.reads_iff, ← exists_or]
    simp only [Spelt, List.mem_append, or_and_right, exists_or]

end Row

/-- Any of several nodes. -/
theorem spells_alts {nodes : List (Node α)} {words : List (List (List Char))}
    (h : List.Forall₂ Spells nodes words) : (alts nodes).Spells words.flatten where
  reads_iff := by
    intro before after trace
    induction h with
    | nil => simp [alts, Reads, Spelt]
    | @cons node own nodes words hnode hnodes ih =>
      have hsplit : (∃ run, Spelt (own :: words).flatten run ∧ trace = run.map .char) ↔
          node.Reads before after trace ∨
            ∃ run, Spelt words.flatten run ∧ trace = run.map .char := by
        rw [hnode.reads_iff, ← exists_or]
        simp only [Spelt, List.flatten_cons, List.mem_append, or_and_right, exists_or]
      rw [hsplit, ← ih]
      cases nodes with
      | nil => simp [alts, Reads]
      | cons next nodes => rfl

/-- The node matches the words of the list, in any letter case, between edges of words. -/
structure IsWholeWord (node : Node α) (words : List (List Char)) : Prop where
  reads_iff : ∀ {before : Option Char} {after : List Char} {trace : Trace α},
    node.Reads before after trace ↔ ∃ run, Spelt words run ∧ trace = run.map .char ∧
      atWordEdge before run.head? ∧ atWordEdge run.getLast? after.head?
  ne_nil : [] ∉ words

theorem isWholeWord_seqs {body : Node α} {words : List (List Char)} (h : body.Spells words)
    (hne : [] ∉ words) :
    (seqs [empty, look atWordEdge, body, look atWordEdge]).IsWholeWord words where
  ne_nil := hne
  reads_iff := by
    intro before after trace
    have hsome {run : List Char} (hrun : Spelt words run) : run ≠ [] := by
      rintro rfl
      obtain ⟨word, hword, hnil⟩ := hrun
      cases hnil
      exact hne hword
    constructor
    · rintro ⟨_, _, rfl, ⟨_, _, ⟨hbefore, rfl⟩, ⟨_, _, hbody, ⟨hafter, rfl⟩, rfl⟩, rfl⟩, rfl⟩
      obtain ⟨run, hrun, rfl⟩ := h.reads_iff.mp hbody
      obtain ⟨c, run, rfl⟩ := List.exists_cons_of_ne_nil (hsome hrun)
      exact ⟨c :: run, hrun, by simp, by simpa [Trace.text] using hbefore,
        by simpa [Trace.text, List.getLast?_cons] using hafter⟩
    · rintro ⟨run, hrun, rfl, hbefore, hafter⟩
      obtain ⟨c, run, rfl⟩ := List.exists_cons_of_ne_nil (hsome hrun)
      refine ⟨[], _, rfl, ⟨[], _, ⟨?_, rfl⟩, ⟨(c :: run).map .char, [],
        h.reads_iff.mpr ⟨_, hrun, rfl⟩, ⟨?_, rfl⟩, rfl⟩, rfl⟩, by simp⟩
      · simpa [Trace.text] using hbefore
      · simpa [Trace.text, List.getLast?_cons] using hafter

/-! ### Replacing words -/

section Edge

variable {run : List Char} (hrun : ∀ c ∈ run, Text.isWordChar c) (hne : run ≠ [])
include hrun hne

/-- A word starts at an edge if no word character stands in front of it. -/
theorem atWordEdge_before_iff : atWordEdge before run.head? ↔
    ∀ c ∈ before, Text.isWordChar c = false := by
  obtain ⟨c, run, rfl⟩ := List.exists_cons_of_ne_nil hne
  cases before <;> simp [atWordEdge, isWordAt, hrun c List.mem_cons_self]

/-- A word ends at an edge if no word character stands behind it. -/
theorem atWordEdge_behind_iff {next : Option Char} : atWordEdge run.getLast? next ↔
    ∀ c ∈ next, Text.isWordChar c = false := by
  obtain ⟨c, hc⟩ := Option.isSome_iff_exists.mp (List.getLast?_isSome.mpr hne)
  rw [hc]
  cases next <;> simp [atWordEdge, isWordAt, hrun c (List.mem_of_getLast? hc)]

end Edge

/-- What the node matches in the text are word characters. -/
def KeepsToWords (node : Node α) (text : List Char) : Prop :=
  ∀ front trace after, node.MatchesAt text front trace after →
    ∀ c ∈ Trace.text trace, Text.isWordChar c

variable {node : Node α} {words : List (List Char)} {replacement front run rest : List Char}
  {c : Char}

namespace IsWholeWord

variable (h : node.IsWholeWord words)
include h

theorem ne_nil_of_spelt (hrun : Spelt words run) : run ≠ [] := by
  rintro rfl
  obtain ⟨word, hword, hnil⟩ := hrun
  cases hnil
  exact h.ne_nil hword

theorem solid : node.Solid := by
  intro before after trace hreads
  obtain ⟨run, hrun, rfl, -⟩ := h.reads_iff.mp hreads
  rw [Trace.text_chars]
  exact h.ne_nil_of_spelt hrun

/-- No match starts between words. -/
theorem replaceBehind_gap (hwords : node.KeepsToWords (front ++ c :: rest))
    (hc : Text.isWordChar c = false) : node.replaceBehind replacement front (c :: rest) =
      c :: node.replaceBehind replacement (front ++ [c]) rest := by
  refine replaceBehind_pass (preferred?_eq_none fun other behind htext hreads => ?_)
  obtain ⟨d, more, hmore⟩ := List.exists_cons_of_ne_nil (h.solid _ _ other hreads)
  have hword := hwords front other behind ⟨by rw [htext], hreads⟩ d (by simp [hmore])
  rw [hmore, List.cons_append] at htext
  rw [← (List.cons.inj htext).1, hc] at hword
  cases hword

section Word

variable (hrun : ∀ c ∈ run, Text.isWordChar c) (hrest : ∀ c ∈ rest.head?, Text.isWordChar c = false)
  (hwords : node.KeepsToWords (front ++ (run ++ rest)))
include hrun hrest hwords

/-- What is matched at the start of a word is the word. -/
theorem eq_of_reads {other : Trace α} {behind : List Char}
    (htext : run ++ rest = Trace.text other ++ behind)
    (hreads : node.Reads front.getLast? behind other) :
    Trace.text other = run ∧ Spelt words run := by
  have hother := hwords front other behind ⟨by rw [htext], hreads⟩
  obtain ⟨word, hword, rfl, -, hedge⟩ := h.reads_iff.mp hreads
  rw [Trace.text_chars] at htext hother ⊢
  obtain ⟨rfl, -⟩ := Text.run_unique hrun hother hrest
    ((atWordEdge_behind_iff hother (h.ne_nil_of_spelt hword)).mp hedge) htext
  exact ⟨rfl, hword⟩

/-- A word that the node matches gives way to the replacement. -/
theorem replaceBehind_spelt (hfront : ∀ c ∈ front.getLast?, Text.isWordChar c = false)
    (hspelt : Spelt words run) : node.replaceBehind replacement front (run ++ rest) =
      replacement ++ node.replaceBehind replacement (front ++ run) rest := by
  have hne := h.ne_nil_of_spelt hspelt
  have hreads : node.Reads front.getLast? rest (run.map .char) := h.reads_iff.mpr ⟨run, hspelt, rfl,
    (atWordEdge_before_iff hrun hne).mpr hfront, (atWordEdge_behind_iff hrun hne).mpr hrest⟩
  have hsome := isSome_preferred? hreads
  rw [Trace.text_chars] at hsome
  obtain ⟨other, hother⟩ := Option.isSome_iff_exists.mp hsome
  obtain ⟨behind, htext, hfound⟩ := preferred?_eq_some hother
  obtain ⟨hrun, -⟩ := h.eq_of_reads hrun hrest hwords htext hfound
  rw [← hrun] at hother ⊢
  exact replaceBehind_swap h.solid hother

/-- A word that the node does not match stays. -/
theorem replaceBehind_other (hother : ¬Spelt words run) :
    node.replaceBehind replacement front (run ++ rest) =
      run ++ node.replaceBehind replacement (front ++ run) rest := by
  refine replaceBehind_passes fun lead c behind hsplit =>
    preferred?_eq_none fun other later htext hreads => ?_
  cases List.eq_nil_or_concat lead with
  | inl hnil =>
    subst hnil
    rw [List.append_nil] at hreads
    refine hother (h.eq_of_reads hrun hrest hwords ?_ hreads).2
    rw [hsplit]
    exact htext
  | inr hlast =>
    -- within a word there is no edge
    obtain ⟨start, last, rfl⟩ := hlast
    obtain ⟨word, hword, rfl, hedge, -⟩ := h.reads_iff.mp hreads
    obtain ⟨d, word, rfl⟩ := List.exists_cons_of_ne_nil (h.ne_nil_of_spelt hword)
    rw [Trace.text_chars, List.cons_append] at htext
    have hd : Text.isWordChar d := hrun d (by rw [hsplit, ← (List.cons.inj htext).1]; simp)
    have hlast : Text.isWordChar last := hrun last (by rw [hsplit]; simp)
    simp [atWordEdge, isWordAt, hd, hlast] at hedge

end Word

/-! ### Words between separators -/

/-- What stands between words stays. -/
theorem replaceBehind_gaps (hrun : ∀ c ∈ run, Text.isWordChar c = false)
    (hwords : node.KeepsToWords (front ++ (run ++ rest))) :
    node.replaceBehind replacement front (run ++ rest) =
      run ++ node.replaceBehind replacement (front ++ run) rest := by
  induction run generalizing front with
  | nil => simp
  | cons c run ih =>
    obtain ⟨hc, hrest⟩ := List.forall_mem_cons.mp hrun
    rw [List.cons_append] at hwords ⊢
    rw [h.replaceBehind_gap hwords hc, ih hrest (by simpa using hwords), List.append_assoc,
      List.singleton_append, List.cons_append]

variable {junk : List Char → Bool} {separator : Char}

/-- A piece of a text that separators divide. -/
theorem replaceBehind_piece {piece : List Char} (hjunk : junk piece ↔ Spelt words piece)
    (hpiece : (∀ c ∈ piece, Text.isWordChar c) ∨
      junk piece = false ∧ ∀ c ∈ piece, Text.isWordChar c = false)
    (hfront : ∀ c ∈ front.getLast?, Text.isWordChar c = false)
    (hrest : ∀ c ∈ rest.head?, Text.isWordChar c = false)
    (hwords : node.KeepsToWords (front ++ (piece ++ rest))) :
    node.replaceBehind replacement front (piece ++ rest) =
      (if junk piece then replacement else piece) ++
        node.replaceBehind replacement (front ++ piece) rest := by
  rcases hpiece with hword | ⟨hfalse, hgap⟩
  · by_cases hspelt : junk piece
    · rw [if_pos hspelt]
      exact h.replaceBehind_spelt hword hrest hwords hfront (hjunk.mp hspelt)
    · rw [if_neg hspelt]
      exact h.replaceBehind_other hword hrest hwords (mt hjunk.mpr hspelt)
  · rw [hfalse, if_neg Bool.false_ne_true]
    exact h.replaceBehind_gaps hgap hwords

theorem replaceBehind_joinWith (hseparator : Text.isWordChar separator = false)
    {pieces : List (List Char)} (hjunk : ∀ piece ∈ pieces, junk piece ↔ Spelt words piece)
    (hpieces : ∀ piece ∈ pieces, (∀ c ∈ piece, Text.isWordChar c) ∨
      junk piece = false ∧ ∀ c ∈ piece, Text.isWordChar c = false)
    (hfront : ∀ c ∈ front.getLast?, Text.isWordChar c = false)
    (hwords : node.KeepsToWords (front ++ Text.joinWith [separator] pieces)) :
    node.replaceBehind replacement front (Text.joinWith [separator] pieces) =
      Text.joinWith [separator]
        (pieces.map fun piece => if junk piece then replacement else piece) := by
  have hend (front : List Char) : node.replaceBehind replacement front [] = [] :=
    replaceBehind_nil (preferred?_eq_none fun other behind hnil hreads =>
      h.solid _ _ other hreads (List.append_eq_nil_iff.mp hnil.symm).1)
  induction pieces using Text.joinWith.induct generalizing front with
  | case1 => exact hend front
  | case2 piece =>
    have hlast : node.replaceBehind replacement front (piece ++ []) = _ :=
      h.replaceBehind_piece (hjunk piece (by simp)) (hpieces piece (by simp)) hfront (by simp)
        (by simpa [Text.joinWith] using hwords)
    simpa [Text.joinWith, hend] using hlast
  | case3 piece next pieces ih =>
    obtain ⟨hfirst, hothers⟩ := List.forall_mem_cons.mp hjunk
    obtain ⟨hpiece, hrest⟩ := List.forall_mem_cons.mp hpieces
    have htext : Text.joinWith [separator] (piece :: next :: pieces) =
        piece ++ separator :: Text.joinWith [separator] (next :: pieces) := by
      simp [Text.joinWith]
    rw [htext] at hwords ⊢
    rw [h.replaceBehind_piece hfirst hpiece hfront (by simp [hseparator]) hwords,
      h.replaceBehind_gap (by simpa using hwords) hseparator,
      ih hothers hrest (by simp [hseparator]) (by simpa using hwords)]
    simp [Text.joinWith]

end IsWholeWord

end Node

end MediaShelf.Regex
