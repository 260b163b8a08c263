import MediaShelf.Proofs.Path.Components
import MediaShelf.Proofs.Text.Lowercase
import MediaShelf.Proofs.Text.Numeral
import MediaShelf.Store.JsonFiles

/-!
# Names of stored records

Identifiers whose parts are made of small ASCII letters, digits and hyphens keep their parts in the
names of their files, with underscores between them. So no two of them share a file, and what the
identifiers of a season start with is the start of no other season's files. Other identifiers may
share a file, but whatever they start with, the names of their files start with its name: each
character stands for itself in such a name, although small letters are not made one by one.

## Main definitions

* `storedChar` — what stands for a character in the names of files
* `isPartChar` — the characters of parts that are kept as they are
* `CatalogKey.Portable`, `SeasonKey.Portable`, `Query.Portable` — keys made of such parts

## Main results

* `storedName_eq_flatMap` — the name of a file, character by character
* `storedName_isPrefix` — identifiers that start alike have names that start alike
* `storedName_joinWith` — the parts of an identifier in the name of its file
* `episodeStart_isPrefix_iff` — which files the start of a season's episodes hits
-/

namespace MediaShelf

/-- Whether the character is a small ASCII letter, a digit or a hyphen. -/
def isPartChar (c : Char) : Bool := c.isLower || c.isDigit || c == '-'

/-- The text is made of small ASCII letters, digits and hyphens. -/
def IsPart (text : List Char) : Prop := ∀ c ∈ text, isPartChar c

instance (text : List Char) : Decidable (IsPart text) :=
  decidable_of_iff (text.all isPartChar) List.all_eq_true

/-- The ids of the key are made of small ASCII letters, digits and hyphens. -/
structure CatalogKey.Portable (key : CatalogKey) : Prop where
  sourceId : IsPart key.sourceId.toList
  id : IsPart key.id.toList

/-- The ids of the key are made of small ASCII letters, digits and hyphens. -/
structure SeasonKey.Portable (key : SeasonKey) : Prop where
  sourceId : IsPart key.sourceId.toList
  showId : IsPart key.showId.toList

/-- The term is made of ASCII letters, digits and hyphens, the year of digits if there is one. -/
structure Query.Portable (query : Query) : Prop where
  term : ∀ c ∈ query.term.toList, c.isAlphanum ∨ c = '-'
  year : ∀ year ∈ query.year, ∀ c ∈ year.toList, c.isDigit

/-! ### Beginnings -/

/-- What stands for a character in the names of files, whatever stands next to it. -/
def storedChar (c : Char) : List Char :=
  if c.toNat == 0x130 then ['i', '_']
  else
    let lower := Text.lowerChar c
    [if lower.isAlphanum || lower == '-' then lower else '_']

/-- What stands around a capital sigma tells its small form, but no form of it is kept. -/
theorem map_lowercaseAfter (before text : List Char) :
    ((Text.lowercaseAfter before text).map fun c => if c.isAlphanum || c == '-' then c else '_') =
      text.flatMap storedChar := by
  induction text generalizing before with
  | nil => rfl
  | cons c text ih =>
    rw [Text.lowercaseAfter, List.map_append, ih, List.flatMap_cons]
    congr 1
    unfold storedChar
    split
    · -- the combining dot behind the small letter is replaced
      decide
    · split
      · rename_i hsigma
        simp only [Bool.and_eq_true, beq_iff_eq, and_assoc] at hsigma
        have hc : c = Char.ofNat 0x3A3 := by rw [← hsigma.1, Char.ofNat_toNat]
        rw [hc]
        decide +kernel
      · rfl

/-- The name of a file is made character by character. -/
theorem storedName_eq_flatMap (text : List Char) : storedName text = text.flatMap storedChar :=
  map_lowercaseAfter [] text

theorem storedName_append (front back : List Char) :
    storedName (front ++ back) = storedName front ++ storedName back := by
  rw [storedName_eq_flatMap, storedName_eq_flatMap, storedName_eq_flatMap, List.flatMap_append]

/-- Texts that start alike have names that start alike. -/
theorem storedName_isPrefix {start text : List Char} (h : start <+: text) :
    storedName start <+: storedName text := by
  obtain ⟨rest, rfl⟩ := h
  exact ⟨storedName rest, (storedName_append start rest).symm⟩

/-! ### Characters -/

theorem lt_of_isPartChar {c : Char} (h : isPartChar c) : c.toNat < 128 ∧ c.isUpper = false := by
  rw [Bool.eq_false_iff, Ne, Text.isUpper_iff]
  simp only [isPartChar, Bool.or_eq_true, beq_iff_eq, Text.isLower_iff, Text.isDigit_iff] at h
  rcases h with (h | h) | rfl
  · omega
  · omega
  · decide

theorem isAlphanum_of_isPartChar {c : Char} (h : isPartChar c) : c.isAlphanum ∨ c = '-' := by
  simp only [isPartChar, Bool.or_eq_true, beq_iff_eq] at h
  rw [Text.isAlphanum_iff]
  tauto

/-- Small ASCII letters, digits and hyphens are kept, all else of the same kind is replaced. -/
theorem storedName_of_ascii {text : List Char}
    (h : ∀ c ∈ text, c.toNat < 128 ∧ c.isUpper = false) :
    storedName text = text.map fun c => if c.isAlphanum || c == '-' then c else '_' := by
  have hlower : text.map Char.toLower = text := by
    refine (List.map_congr_left fun c hc => ?_).trans (List.map_id text)
    exact Text.toLower_of_not_isUpper (h c hc).2
  rw [storedName, Text.lowercase_of_ascii fun c hc => (h c hc).1, hlower]

theorem map_eq_self_of_isPart {text : List Char} (h : IsPart text) :
    (text.map fun c => if c.isAlphanum || c == '-' then c else '_') = text := by
  refine (List.map_congr_left fun c hc => ?_).trans (List.map_id text)
  rw [if_pos (by simpa using isAlphanum_of_isPartChar (h c hc)), id]

/-- The parts of an identifier stand in the name of its file with underscores between them. -/
theorem storedName_joinWith {parts : List (List Char)} (h : ∀ part ∈ parts, IsPart part) :
    storedName (Text.joinWith ['/'] parts) = Text.joinWith ['_'] parts := by
  have hascii : ∀ c ∈ Text.joinWith ['/'] parts, c.toNat < 128 ∧ c.isUpper = false := by
    intro c hc
    rcases Text.mem_joinWith hc with ⟨part, hpart, hc⟩ | hc
    · exact lt_of_isPartChar (h part hpart c hc)
    · rw [List.mem_singleton.mp hc]
      decide
  rw [storedName_of_ascii hascii]
  clear hascii
  -- slashes are replaced and parts are kept, part by part
  induction parts using Text.joinWith.induct with
  | case1 => rfl
  | case2 part => exact map_eq_self_of_isPart (h part (by simp))
  | case3 part next parts ih =>
    rw [Text.joinWith, Text.joinWith, List.map_append, List.map_append,
      ih fun other hother => h other (List.mem_cons_of_mem _ hother),
      map_eq_self_of_isPart (h part (by simp))]
    rfl

/-! ### Identifiers -/

theorem isPart_decimal (n : Nat) : IsPart (Text.decimal n) := fun c hc => by
  simp [isPartChar, Text.isDigit_of_mem_decimal hc]

theorem no_underscore_of_isPart {part : List Char} (h : IsPart part) : '_' ∉ part :=
  fun hmem => absurd (h '_' hmem) (by decide)

/-- Identifiers of as many parts share a file only if their parts are the same. -/
theorem storedName_injective {parts others : List (List Char)}
    (hparts : ∀ part ∈ parts, IsPart part) (hothers : ∀ part ∈ others, IsPart part)
    (hne : parts ≠ []) (hne' : others ≠ [])
    (h : storedName (Text.joinWith ['/'] parts) = storedName (Text.joinWith ['/'] others)) :
    parts = others := by
  rw [storedName_joinWith hparts, storedName_joinWith hothers] at h
  rw [← Text.splitBy_joinWith hne fun part hpart => no_underscore_of_isPart (hparts part hpart), h,
    Text.splitBy_joinWith hne' fun part hpart => no_underscore_of_isPart (hothers part hpart)]

/-- The parts of the identifier of a season. -/
def SeasonKey.parts (key : SeasonKey) : List (List Char) :=
  [key.sourceId.toList, key.showId.toList, Text.decimal key.season.toNat]

/-- The word for a kind of entry in identifiers. -/
def entryKind (special : Bool) : List Char :=
  if special then ['s', 'p', 'e', 'c', 'i', 'a', 'l'] else ['e', 'p', 'i', 's', 'o', 'd', 'e']

theorem toList_catalogIdentifier (key : CatalogKey) :
    key.identifier.toList = Text.joinWith ['/'] [key.sourceId.toList, key.id.toList] := by
  simp [CatalogKey.identifier, Text.joinWith]

theorem toList_seasonIdentifier (key : SeasonKey) :
    key.identifier.toList = Text.joinWith ['/'] key.parts := by
  simp [SeasonKey.identifier, SeasonKey.parts, Text.joinWith]

theorem toList_episodeStart (key : SeasonKey) (special : Bool) :
    (key.episodeStart special).toList =
      Text.joinWith ['/'] (key.parts ++ [entryKind special, []]) := by
  cases special <;>
    simp [SeasonKey.episodeStart, toList_seasonIdentifier, SeasonKey.parts, Text.joinWith,
      entryKind]

theorem toList_episodeIdentifier (key : EpisodeKey) :
    key.identifier.toList = Text.joinWith ['/']
      (key.season.parts ++ [entryKind key.special, Text.decimal key.number.toNat]) := by
  simp [EpisodeKey.identifier, toList_episodeStart, SeasonKey.parts, Text.joinWith]

theorem isPart_entryKind (special : Bool) : IsPart (entryKind special) := by
  cases special <;> decide

theorem isPart_seasonParts {key : SeasonKey} (h : key.Portable) :
    ∀ part ∈ key.parts, IsPart part := by
  simp only [SeasonKey.parts, List.mem_cons, List.not_mem_nil, or_false, forall_eq_or_imp,
    forall_eq]
  exact ⟨h.sourceId, h.showId, isPart_decimal _⟩

theorem isPart_episodeParts {key : EpisodeKey} (h : key.season.Portable) :
    ∀ part ∈ key.season.parts ++ [entryKind key.special, Text.decimal key.number.toNat],
      IsPart part := by
  intro part hpart
  rcases List.mem_append.mp hpart with hseason | hown
  · exact isPart_seasonParts h part hseason
  · simp only [List.mem_cons, List.not_mem_nil, or_false] at hown
    rcases hown with rfl | rfl
    · exact isPart_entryKind _
    · exact isPart_decimal _

theorem seasonKey_eq_of_parts {key other : SeasonKey} (h : key.parts = other.parts) :
    key = other := by
  obtain ⟨sourceId, showId, season⟩ := key
  simp only [SeasonKey.parts, List.cons.injEq, and_true] at h
  obtain ⟨hsource, hshow, hseason⟩ := h
  rw [String.toList_inj.mp hsource, String.toList_inj.mp hshow,
    UInt32.toNat_inj.mp (Text.decimal_injective hseason)]

theorem entryKind_injective {special other : Bool} (h : entryKind special = entryKind other) :
    special = other := by
  revert h
  cases special <;> cases other <;> decide

/-- Shows of different keys have different files, and so have films. -/
theorem storedName_catalog {key other : CatalogKey} (h : key.Portable) (hother : other.Portable)
    (hsame : storedName key.identifier.toList = storedName other.identifier.toList) :
    key = other := by
  rw [toList_catalogIdentifier, toList_catalogIdentifier] at hsame
  have hparts := storedName_injective
    (by simpa using ⟨h.sourceId, h.id⟩) (by simpa using ⟨hother.sourceId, hother.id⟩)
    (by simp) (by simp) hsame
  obtain ⟨sourceId, id⟩ := key
  simp only [List.cons.injEq, and_true] at hparts
  rw [String.toList_inj.mp hparts.1, String.toList_inj.mp hparts.2]

/-- Seasons of different keys have different files. -/
theorem storedName_season {key other : SeasonKey} (h : key.Portable) (hother : other.Portable)
    (hsame : storedName key.identifier.toList = storedName other.identifier.toList) :
    key = other := by
  rw [toList_seasonIdentifier, toList_seasonIdentifier] at hsame
  exact seasonKey_eq_of_parts <| storedName_injective (isPart_seasonParts h)
    (isPart_seasonParts hother) (by simp [SeasonKey.parts]) (by simp [SeasonKey.parts]) hsame

/-- Episodes of different keys have different files. -/
theorem storedName_episode {key other : EpisodeKey} (h : key.season.Portable)
    (hother : other.season.Portable)
    (hsame : storedName key.identifier.toList = storedName other.identifier.toList) :
    key = other := by
  rw [toList_episodeIdentifier, toList_episodeIdentifier] at hsame
  have hparts := storedName_injective (isPart_episodeParts h) (isPart_episodeParts hother)
    (by simp) (by simp) hsame
  obtain ⟨hseason, hrest⟩ := List.append_inj hparts rfl
  simp only [List.cons.injEq, and_true] at hrest
  have hnumber := UInt32.toNat_inj.mp (Text.decimal_injective hrest.2)
  obtain ⟨season, special, number⟩ := key
  obtain rfl := seasonKey_eq_of_parts hseason
  obtain rfl := entryKind_injective hrest.1
  obtain rfl := hnumber
  rfl

theorem isPart_startParts {key : SeasonKey} (h : key.Portable) (special : Bool) :
    ∀ part ∈ key.parts ++ [entryKind special], IsPart part := by
  intro part hpart
  rcases List.mem_append.mp hpart with hseason | hkind
  · exact isPart_seasonParts h part hseason
  · rw [List.mem_singleton.mp hkind]
    exact isPart_entryKind special

/-- The start of the names of the episodes of a season ends with an underscore. -/
theorem storedName_episodeStart {key : SeasonKey} (h : key.Portable) (special : Bool) :
    storedName (key.episodeStart special).toList =
      Text.joinWith ['_'] (key.parts ++ [entryKind special]) ++ ['_'] := by
  have hparts : ∀ part ∈ key.parts ++ [entryKind special] ++ [[]], IsPart part := by
    intro part hpart
    rcases List.mem_append.mp hpart with hstart | hend
    · exact isPart_startParts h special part hstart
    · rw [List.mem_singleton.mp hend]
      decide
  have happend : key.parts ++ [entryKind special, []] = key.parts ++ [entryKind special] ++ [[]] :=
    by simp
  rw [toList_episodeStart, happend, storedName_joinWith hparts, Text.joinWith_concat (by simp),
    List.append_nil]

theorem storedName_episodeIdentifier {key : EpisodeKey} (h : key.season.Portable) :
    storedName key.identifier.toList =
      Text.joinWith ['_'] (key.season.parts ++ [entryKind key.special]) ++
        '_' :: Text.decimal key.number.toNat := by
  have happend : key.season.parts ++ [entryKind key.special, Text.decimal key.number.toNat] =
      key.season.parts ++ [entryKind key.special] ++ [Text.decimal key.number.toNat] := by simp
  rw [toList_episodeIdentifier, storedName_joinWith (isPart_episodeParts h), happend,
    Text.joinWith_concat (by simp), List.append_assoc]
  rfl

/-- What the episodes of a season start with is the start of the files of this kind of entry of
this season alone; season 1 does not reach season 10. -/
theorem episodeStart_isPrefix_iff {season : SeasonKey} (hseason : season.Portable) (special : Bool)
    {key : EpisodeKey} (hkey : key.season.Portable) :
    storedName (season.episodeStart special).toList <+:
        storedName key.identifier.toList ++ recordSuffix ↔
      key.season = season ∧ key.special = special := by
  rw [storedName_episodeStart hseason, storedName_episodeIdentifier hkey, List.append_assoc,
    List.cons_append]
  constructor
  · rintro ⟨rest, hrest⟩
    -- parts hold no underscores, so the pieces between underscores are the parts
    have hpieces {parts : List (List Char)} (hparts : ∀ part ∈ parts, IsPart part)
        (hne : parts ≠ []) (behind : List Char) :
        Text.splitBy (· == '_') (Text.joinWith ['_'] parts ++ '_' :: behind) =
          parts ++ Text.splitBy (· == '_') behind := by
      rw [Text.splitBy_append_cons (by simp), Text.splitBy_joinWith hne fun part hpart =>
        no_underscore_of_isPart (hparts part hpart)]
    have hsplit := congrArg (Text.splitBy (· == '_')) hrest
    rw [List.append_assoc, List.singleton_append,
      hpieces (isPart_startParts hseason special) (by simp),
      hpieces (isPart_startParts hkey key.special) (by simp)] at hsplit
    obtain ⟨hparts, -⟩ := List.append_inj hsplit rfl
    obtain ⟨hown, hkind⟩ := List.append_inj hparts rfl
    exact ⟨(seasonKey_eq_of_parts hown).symm, (entryKind_injective (by simpa using hkind)).symm⟩
  · rintro ⟨rfl, rfl⟩
    exact ⟨Text.decimal key.number.toNat ++ recordSuffix, by simp⟩

/-! ### Searches -/

/-- Lower case turns ASCII letters into small ones. -/
theorem isPartChar_toLower {c : Char} (h : c.isAlphanum ∨ c = '-') : isPartChar c.toLower := by
  by_cases hupper : c.isUpper
  · have hrange := Text.isUpper_iff.mp hupper
    have hlower : c.toLower.isLower := by
      rw [Text.isLower_iff, Text.toNat_toLower hupper]
      omega
    simp [isPartChar, hlower]
  · rw [Text.toLower_of_not_isUpper (by simpa using hupper)]
    rw [Text.isAlphanum_iff] at h
    simp only [isPartChar, Bool.or_eq_true, beq_iff_eq]
    tauto

theorem mem_queryKey {query : Query} (h : query.Portable) :
    ∀ c ∈ query.key.toList, isPartChar c ∨ c = '_' := by
  have hascii : ∀ c ∈ query.term.toList, c.toNat < 128 := by
    intro c hc
    by_cases hupper : c.isUpper
    · exact Nat.lt_of_le_of_lt (Text.isUpper_iff.mp hupper).2 (by decide)
    · have hpart := isPartChar_toLower (h.term c hc)
      rw [Text.toLower_of_not_isUpper (by simpa using hupper)] at hpart
      exact (lt_of_isPartChar hpart).1
  have hlabel : IsPart query.mode.label.toList := by
    cases query.mode <;> decide
  have hyear : IsPart (query.year.getD "any").toList := by
    cases hquery : query.year with
    | none => decide
    | some year =>
      intro c hc
      simp [isPartChar, h.year year hquery c hc]
  intro c hc
  simp only [Query.key, String.toList_append, String.toList_ofList,
    Text.lowercase_of_ascii hascii, List.mem_append] at hc
  rcases hc with (((hc | hc) | hc) | hc) | hc
  · exact .inl (hlabel c hc)
  · exact .inr (by simpa using hc)
  · obtain ⟨d, hd, rfl⟩ := List.mem_map.mp hc
    exact .inl (isPartChar_toLower (h.term d hd))
  · exact .inr (by simpa using hc)
  · exact .inl (hyear c hc)

/-- Searches are kept under their keys as they are. -/
theorem storedName_queryKey {query : Query} (h : query.Portable) :
    storedName query.key.toList = query.key.toList := by
  have hchars := mem_queryKey h
  have hascii : ∀ c ∈ query.key.toList, c.toNat < 128 ∧ c.isUpper = false := by
    intro c hc
    rcases hchars c hc with hpart | rfl
    · exact lt_of_isPartChar hpart
    · decide
  rw [storedName_of_ascii hascii]
  refine (List.map_congr_left fun c hc => ?_).trans (List.map_id _)
  rcases hchars c hc with hpart | rfl
  · rw [if_pos (by simpa using isAlphanum_of_isPartChar hpart), id]
  · rfl

end MediaShelf
