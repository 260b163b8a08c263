import MediaShelf.Config.MediaDirectory
import MediaShelf.Proofs.Regex.WholeWord

/-!
# The usual junk

A directory that names no junk of its own has four expressions for it. Three of them stand for whole
words: release formats, codecs and resolutions. The last one stands for what is in square brackets.

## Main definitions

* `formatWords`, `codecWords`, `resolutionWords` — the words of the first three
* `formatToken`, `codecToken`, `resolutionToken`, `bracketToken` — the expressions

## Main results

* `isWholeWord_formatToken`, `isWholeWord_codecToken`, `isWholeWord_resolutionToken` — the first
  three match their words and nothing else
* `exists_compileAll_defaultStripTokens` — the usual junk is read as these expressions
-/

namespace MediaShelf

namespace Regex

/-- What stands in square brackets, between which the characters `accepts` may stand. -/
def bracketToken (accepts : Char → Bool) : Plain :=
  .seqs [.one (· == '['), .many false accepts, .one (· == ']')]

/-! ### Reading the expression of square brackets -/

section Brackets

variable {n : Nat} {rest : List Char} {branches : Branches} {draft : ClassDraft}

theorem readClassItems?_close :
    readClassItems? {} (n + 1) draft (']' :: rest) = some (draft.close {}, rest) := by
  rw [readClassItems?]
  rfl

theorem readClassItems?_escaped :
    readClassItems? {} (n + 1) draft ('\\' :: ']' :: ']' :: rest) =
      readClassItems? {} n (draft.add (· == ']')) (']' :: rest) := by
  rw [readClassItems?]
  rfl

/-- The class of all characters but the closing bracket. -/
theorem exists_readClass? (n : Nat) (rest : List Char) : ∃ accepts,
    readClass? {} (n + 3) ('^' :: '\\' :: ']' :: ']' :: rest) = some (accepts, rest) := by
  refine ⟨fun c => !((ClassDraft.start.add (· == ']')).close {}) c, ?_⟩
  rw [readClass?]
  show (readClassItems? _ _ ClassDraft.start ('\\' :: ']' :: ']' :: rest)).map _ = _
  rw [readClassItems?_escaped, readClassItems?_close]
  rfl

theorem readGroup?_opening : readGroup? 0 [] (n + 1) {} branches ('\\' :: '[' :: rest) =
    readGroup? 0 [] n {} (branches.add (.one (· == '['))) rest := by
  rw [readGroup?]
  rfl

theorem readGroup?_class : readGroup? 0 [] (n + 1) {} branches ('[' :: rest) =
    (readClass? {} rest.length rest).bind fun (accepts, rest) =>
      readGroup? 0 [] n {} (branches.add (.one accepts)) rest := by
  rw [readGroup?]
  rfl

theorem readGroup?_star {finished : List Plain} {items : List (Bool × Plain)}
    {accepts : Char → Bool} :
    readGroup? 0 [] (n + 1) {} ⟨finished, (true, .one accepts) :: items⟩ ('*' :: '\\' :: rest) =
      readGroup? 0 [] n {} ⟨finished, (true, .many false accepts) :: items⟩ ('\\' :: rest) := by
  rw [readGroup?]
  rfl

theorem readGroup?_closing : readGroup? 0 [] (n + 1) {} branches ('\\' :: ']' :: rest) =
    readGroup? 0 [] n {} (branches.add (.one (· == ']'))) rest := by
  rw [readGroup?]
  rfl

theorem readGroup?_nil :
    readGroup? 0 [] (n + 1) {} branches [] = some (branches.close, [], []) := by
  rw [readGroup?]
  rfl

/-- The expression is read step by step, since its class can only be opened one lemma at a time. -/
theorem exists_compile?_brackets : ∃ accepts,
    compile? "\\[[^\\]]*\\]" = some ⟨"\\[[^\\]]*\\]", bracketToken accepts⟩ := by
  obtain ⟨accepts, haccepts⟩ := exists_readClass? 4 ['*', '\\', ']']
  have htext : "\\[[^\\]]*\\]".toList = ['\\', '[', '[', '^', '\\', ']', ']', '*', '\\', ']'] := rfl
  have hclass : ['^', '\\', ']', ']', '*', '\\', ']'].length = 4 + 3 := rfl
  have hread : readGroup? 0 [] 11 {} .start "\\[[^\\]]*\\]".toList =
      some (bracketToken accepts, [], []) := by
    rw [htext, readGroup?_opening, readGroup?_class, hclass, haccepts, Option.bind_some]
    dsimp only [Branches.add, Branches.start]
    rw [readGroup?_star, readGroup?_closing, readGroup?_nil]
    rfl
  have hfuel : "\\[[^\\]]*\\]".toList.length + 1 = 11 := rfl
  refine ⟨accepts, ?_⟩
  rw [compile?]
  simp only [hfuel, hread]

end Brackets

end Regex

namespace MediaDirectory

open Regex (Node Plain)

/-! ### Words -/

/-- Release formats. -/
def formatWords : List (List Char) :=
  ["dvdrip".toList, "dvd-rip".toList, "bdrip".toList, "brrip".toList, "bluray".toList,
    "web-dl".toList, "webdl".toList, "webrip".toList, "hdtv".toList, "pdtv".toList,
    "dvdscr".toList]

/-- Codecs. -/
def codecWords : List (List Char) :=
  ["xvid".toList, "divx".toList, "x264".toList, "x265".toList, "h.264".toList, "h264".toList,
    "hevc".toList, "aac".toList, "ac3".toList]

/-- Resolutions. -/
def resolutionWords : List (List Char) :=
  ["480p".toList, "576p".toList, "720p".toList, "1080p".toList, "2160p".toList]

/-- Any of the words between edges of words. -/
def wholeWord (bodies : List Plain) : Plain :=
  .seqs [.empty, .look Regex.atWordEdge, .alts bodies, .look Regex.atWordEdge]

/-- A word with a character in it that may be left out. -/
def spelling (front : List Char) (c : Char) (back : List Char) : Plain :=
  .seqs (front.map .letter ++ (Node.letter c).opt :: back.map .letter)

/-- The expression of release formats. -/
def formatToken : Plain := wholeWord (
  ["dvdrip".toList, "dvd-rip".toList, "bdrip".toList, "brrip".toList, "bluray".toList].map .text ++
    spelling "web".toList '-' "dl".toList ::
      ["webrip".toList, "hdtv".toList, "pdtv".toList, "dvdscr".toList].map .text)

/-- The expression of codecs. -/
def codecToken : Plain := wholeWord (
  ["xvid".toList, "divx".toList, "x264".toList, "x265".toList].map .text ++
    spelling "h".toList '.' "264".toList ::
      ["hevc".toList, "aac".toList, "ac3".toList].map .text)

/-- The expression of resolutions. -/
def resolutionToken : Plain := wholeWord (resolutionWords.map .text)

theorem spells_spelling (front : List Char) (c : Char) (back : List Char) :
    (spelling front c back).Spells [front ++ c :: back, front ++ back] := by
  have hback : (Node.seqs (back.map .letter) : Plain).Spells [back] := Node.spells_text back
  exact Node.spells_letters_append (Node.spells_opt_cons hback c) front

theorem spells_texts (words : List (List Char)) :
    List.Forall₂ Node.Spells (words.map .text : List Plain) (words.map ([·])) := by
  induction words with
  | nil => exact .nil
  | cons word words ih => exact .cons (Node.spells_text word) ih

theorem isWholeWord_wholeWord {bodies : List Plain} {wordss : List (List (List Char))}
    (h : List.Forall₂ Node.Spells bodies wordss) (hne : [] ∉ wordss.flatten) :
    (wholeWord bodies).IsWholeWord wordss.flatten :=
  Node.isWholeWord_seqs (Node.spells_alts h) hne

theorem isWholeWord_formatToken : formatToken.IsWholeWord formatWords :=
  isWholeWord_wholeWord
    (List.rel_append (spells_texts _) (.cons (spells_spelling _ _ _) (spells_texts _))) (by decide)

theorem isWholeWord_codecToken : codecToken.IsWholeWord codecWords :=
  isWholeWord_wholeWord
    (List.rel_append (spells_texts _) (.cons (spells_spelling _ _ _) (spells_texts _))) (by decide)

theorem isWholeWord_resolutionToken : resolutionToken.IsWholeWord resolutionWords :=
  isWholeWord_wholeWord (spells_texts resolutionWords) (by decide)

/-- Expressions that can all be read are compiled one by one. -/
theorem exists_compileAll {sources : List String} {nodes : List Plain}
    (h : List.Forall₂ (fun source node => Regex.compile? source = some ⟨source, node⟩)
      sources nodes) :
    ∃ tokens, compileAll sources = .ok tokens ∧ tokens.map (·.node) = nodes := by
  induction h with
  | nil => exact ⟨[], rfl, rfl⟩
  | @cons source node sources nodes hfirst _ ih =>
    obtain ⟨tokens, hrest, rfl⟩ := ih
    refine ⟨⟨source, node⟩ :: tokens, ?_, rfl⟩
    rw [compileAll] at hrest ⊢
    rw [List.mapM_cons, hfirst, hrest]
    rfl

/-- The usual junk is read as three expressions for words and one for square brackets. -/
theorem exists_compileAll_defaultStripTokens : ∃ tokens accepts,
    compileAll defaultStripTokens = .ok tokens ∧ tokens.map (·.node) =
      [formatToken, codecToken, resolutionToken, Regex.bracketToken accepts] := by
  obtain ⟨accepts, hbrackets⟩ := Regex.exists_compile?_brackets
  have hread : List.Forall₂ (fun source node => Regex.compile? source = some ⟨source, node⟩)
      defaultStripTokens [formatToken, codecToken, resolutionToken, Regex.bracketToken accepts] :=
    .cons rfl (.cons rfl (.cons rfl (.cons hbrackets .nil)))
  obtain ⟨tokens, htokens, hnodes⟩ := exists_compileAll hread
  exact ⟨tokens, accepts, htokens, hnodes⟩

end MediaDirectory

end MediaShelf
