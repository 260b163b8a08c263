import Mathlib.Data.List.Induction
import MediaShelf.Organize.Identify
import MediaShelf.Proofs.Effects
import MediaShelf.Proofs.Search.Query
import MediaShelf.Source.Call

/-!
# Files with several episodes

A file whose name has several numbers is identified as a whole or not at all. Each number is looked
up in turn, and the first one without a record ends it. One record may stand for several numbers, so
the title is made from the records without repetition; the first record becomes the identity of the
file, widened to the numbers that it does not have.

## Main definitions

* `FirstAppearances` — the items of a list, each where it comes up first
* `FindsRecords` — look-ups in a row, each of which gives a record
* `ShowFound` — the show that the name of a file leads to
* `PlacedBy` — what a file is identified as, and where it belongs

## Main results

* `firstAppearances_eraseDups`, `Episode.widen_eq` — what repetition does to titles and numbers
* `run_findEpisodes_ok_iff`, `run_findEpisodes_missing` — records for all numbers, or the first one
  without a record
* `identify_allOrNothing` — a file with episodes is identified as a whole or not at all
-/

namespace MediaShelf

variable {σ α : Type}

/-! ### Items without repetition -/

/-- The items of a list, each once, in the order in which they first come up. -/
structure FirstAppearances [BEq α] (items distinct : List α) : Prop where
  nodup : distinct.Nodup
  mem_iff : ∀ a, a ∈ distinct ↔ a ∈ items
  ordered : distinct.Pairwise fun a b => items.idxOf a < items.idxOf b

/-- Leaving out what has come up before gives the items in the order of their first appearances. -/
theorem firstAppearances_eraseDups [BEq α] [LawfulBEq α] (items : List α) :
    FirstAppearances items items.eraseDups := by
  -- the last item is one of those before it, or it comes after all of them
  induction items using List.reverseRecOn with
  | nil => exact ⟨List.nodup_nil, by simp, .nil⟩
  | append_singleton items last ih =>
    have hbefore {a : α} (ha : a ∈ items) : (items ++ [last]).idxOf a = items.idxOf a := by
      rw [List.idxOf_append, if_pos ha]
    have hordered : items.eraseDups.Pairwise
        fun a b => (items ++ [last]).idxOf a < (items ++ [last]).idxOf b := by
      refine ih.ordered.imp_of_mem ?_
      intro a b ha hb hlt
      rwa [hbefore ((ih.mem_iff a).mp ha), hbefore ((ih.mem_iff b).mp hb)]
    by_cases hlast : last ∈ items
    · have hsame : (items ++ [last]).eraseDups = items.eraseDups := by
        simp [List.eraseDups_append, List.removeAll, hlast]
      rw [hsame]
      refine ⟨ih.nodup, ?_, hordered⟩
      intro a
      rw [ih.mem_iff, List.mem_append, List.mem_singleton]
      exact ⟨.inl, fun h => h.elim id fun heq => heq ▸ hlast⟩
    · have hnew : (items ++ [last]).eraseDups = items.eraseDups ++ [last] := by
        simp [List.eraseDups_append, List.removeAll, List.eraseDups_cons, hlast]
      have hend : (items ++ [last]).idxOf last = items.length := by
        simp [List.idxOf_append, hlast]
      rw [hnew]
      refine ⟨List.nodup_append.mpr ⟨ih.nodup, List.pairwise_singleton _ _, ?_⟩, ?_, ?_⟩
      · intro a ha b hb heq
        rw [heq, List.mem_singleton.mp hb, ih.mem_iff] at ha
        exact hlast ha
      · intro a
        rw [List.mem_append, List.mem_append, ih.mem_iff]
      · refine List.pairwise_append.mpr ⟨hordered, List.pairwise_singleton _ _, ?_⟩
        intro a ha b hb
        have ha := (ih.mem_iff a).mp ha
        rw [List.mem_singleton.mp hb, hbefore ha, hend]
        exact List.idxOf_lt_length_of_mem ha

/-- An episode is widened by the numbers that it does not have, each where it comes up first. -/
theorem Episode.widen_eq (first : Episode) (numbers : List UInt32) :
    first.widen numbers = { first with
      episodeNumbers := first.episodeNumbers ++
        (numbers.filter fun n => !first.covers n).eraseDups } := by
  -- the episode grows by each number that is new, so it varies
  induction numbers generalizing first with
  | nil => simp [widen]
  | cons n numbers ih =>
    rw [widen, List.foldl_cons, ← widen]
    by_cases hcovers : first.covers n
    · rw [if_pos hcovers, ih, List.filter_cons_of_neg (by simp [hcovers])]
    · have hgrown (m : UInt32) :
          Episode.covers { first with episodeNumbers := first.episodeNumbers ++ [n] } m =
            (first.covers m || m == n) := by
        simp [Episode.covers, Bool.beq_eq_decide_eq]
      have hlater :
          (fun m => !(first.covers m || m == n)) = fun m => !m == n && !first.covers m := by
        funext m
        rw [Bool.not_or, Bool.and_comm]
      rw [if_neg hcovers, ih, List.filter_cons_of_pos (by simp [hcovers]), List.eraseDups_cons,
        List.filter_filter]
      simp only [hgrown, hlater, List.append_assoc, List.singleton_append]

/-! ### Steps that may have nothing to give -/

section Steps

variable {s : σ}

/-- A look-up goes well exactly if it gives something. -/
theorem run_orSkip_ok_iff {reason : SkipReason} {lookup : StateM σ (Except SourceError (Option α))}
    {a : α} {last : σ} :
    (orSkip reason lookup).run s = (.ok a, last) ↔ lookup s = (.ok (some a), last) := by
  unfold orSkip
  simp only [ExceptT.run_mk, Bind.bind, StateT.bind]
  match lookup s with
  | (.ok (some value), mid) => exact ⟨fun h => by cases h; rfl, fun h => by cases h; rfl⟩
  | (.ok none, mid) => exact ⟨nofun, nofun⟩
  | (.error cause, mid) => exact ⟨nofun, nofun⟩

/-- A look-up that gives nothing ends with the reason for that. -/
theorem run_orSkip_none {reason : SkipReason} {lookup : StateM σ (Except SourceError (Option α))}
    {last : σ} (h : lookup s = (.ok none, last)) :
    (orSkip reason lookup).run s = (.error reason, last) := by
  unfold orSkip
  simp only [ExceptT.run_mk, Bind.bind, StateT.bind, h]
  rfl

/-- A search goes well exactly if it finds something. -/
theorem run_orSkipSearch_ok_iff {π : Type} {notFound unparsed : SkipReason}
    {search : StateM σ (Except SourceError (Search.SearchOutcome π))} {result : SearchResult}
    {parsed : π} {last : σ} :
    (orSkipSearch notFound unparsed search).run s = (.ok (result, parsed), last) ↔
      search s = (.ok (.found result parsed), last) := by
  unfold orSkipSearch
  simp only [ExceptT.run_mk, Bind.bind, StateT.bind]
  match search s with
  | (.ok (.found _ _), mid) => exact ⟨fun h => by cases h; rfl, fun h => by cases h; rfl⟩
  | (.ok (.notFound _), mid) => exact ⟨nofun, nofun⟩
  | (.ok .unparsed, mid) => exact ⟨nofun, nofun⟩
  | (.error cause, mid) => exact ⟨nofun, nofun⟩

end Steps

/-! ### Records for numbers -/

section Records

variable {resolver : Resolver (StateM σ)} {season : SeasonKey} {refresh : Bool} {s mid last : σ}
  {numbers rest : List UInt32} {records : List Episode}

/-- Look-ups for numbers in a row, each of which gives a record: one starts where the one before it
has ended. -/
inductive FindsRecords (resolver : Resolver (StateM σ)) (season : SeasonKey) (refresh : Bool) :
    List UInt32 → σ → List Episode → σ → Prop
  | nil {s : σ} : FindsRecords resolver season refresh [] s [] s
  | cons {number : UInt32} {numbers : List UInt32} {s mid last : σ} {record : Episode}
      {records : List Episode}
      (first : resolver.getEpisode ⟨season, false, number⟩ refresh s = (.ok (some record), mid))
      (others : FindsRecords resolver season refresh numbers mid records last) :
      FindsRecords resolver season refresh (number :: numbers) s (record :: records) last

/-- There are records for a file exactly if each look-up in turn gives one. -/
theorem run_findEpisodes_ok_iff {series : Show} :
    (findEpisodes resolver series season refresh numbers).run s = (.ok records, last) ↔
      FindsRecords resolver season refresh numbers s records last := by
  induction numbers generalizing s records with
  | nil =>
    constructor
    · intro h
      cases h
      exact .nil
    · intro h
      cases h
      rfl
  | cons number numbers ih =>
    rw [findEpisodes]
    constructor
    · intro h
      -- a run that ends well has ended well in each of its steps
      obtain ⟨record, mid, hfirst, hrest⟩ := run_bind_ok (congrArg Prod.fst h)
      rw [hrest] at h
      obtain ⟨others, last, hothers, hrest⟩ := run_bind_ok (congrArg Prod.fst h)
      rw [hrest] at h
      cases h
      exact .cons (run_orSkip_ok_iff.mp hfirst) (ih.mp hothers)
    · intro h
      cases h with
      | cons first others =>
        rw [run_bind, run_orSkip_ok_iff.mpr first]
        dsimp only
        rw [run_bind, ih.mpr others]
        rfl

/-- The first look-up that gives nothing ends the search for records, and the reason names its
number. -/
theorem run_findEpisodes_missing {series : Show} {number : UInt32}
    (hfound : FindsRecords resolver season refresh numbers s records mid)
    (hmissing : resolver.getEpisode ⟨season, false, number⟩ refresh mid = (.ok none, last)) :
    (findEpisodes resolver series season refresh (numbers ++ number :: rest)).run s =
      (.error (.episodeMissing series season.season number), last) := by
  -- the records found so far only say in which state the next number is looked up
  induction hfound with
  | nil => rw [List.nil_append, findEpisodes, run_bind, run_orSkip_none hmissing]
  | cons first others ih =>
    rw [List.cons_append, findEpisodes, run_bind, run_orSkip_ok_iff.mpr first]
    dsimp only
    rw [run_bind, ih hmissing]

end Records

/-! ### Files -/

section Files

variable {resolver : Resolver (StateM σ)} {dir : MediaDirectory} {refresh : Bool} {path : Path}
  {s mid last : σ} {parsed : Pattern.ParsedEpisode} {result : SearchResult} {series : Show}
  {records : List Episode} {placement : Placement}

/-- The search for the show of a file. -/
def searchShowOf (resolver : Resolver (StateM σ)) (dir : MediaDirectory) (refresh : Bool)
    (path : Path) : StateM σ (Except SourceError (Search.SearchOutcome Pattern.ParsedEpisode)) :=
  Search.searchShow dir path fun query =>
    resolver.searchMedia { term := query.term, year := query.year, mode := .tvShow } dir.sources
      refresh

/-- The name of a file was parsed, and the search led to a show that the resolver knows. The
look-ups for the numbers start in the state `last`. -/
structure ShowFound (resolver : Resolver (StateM σ)) (dir : MediaDirectory) (refresh : Bool)
    (path : Path) (s : σ) (parsed : Pattern.ParsedEpisode) (result : SearchResult) (series : Show)
    (last : σ) : Prop where
  parsed_eq : dir.pattern.parseEpisode (Search.patternPath (dir.relative path)) = some parsed
  known : ∃ mid, searchShowOf resolver dir refresh path s = (.ok (.found result parsed), mid) ∧
    resolver.getShow ⟨result.sourceId, result.id⟩ refresh mid = (.ok (some series), last)

/-- For a file that was identified a show was found. -/
theorem exists_showFound
    (h : ((identifyEpisode resolver dir refresh path).run s).1 = .ok placement) :
    ∃ parsed result series last,
      ShowFound resolver dir refresh path s parsed result series last := by
  obtain ⟨⟨result, parsed⟩, mid, hsearch, hrest⟩ := run_bind_ok h
  rw [identifyEpisode, hrest] at h
  obtain ⟨series, last, hshow, -⟩ := run_bind_ok h
  -- what is parsed is what the search was about
  have hsearch := run_orSkipSearch_ok_iff.mp hsearch
  obtain ⟨query, hquery, -⟩ := Search.exists_query_of_ask hsearch
  exact ⟨parsed, result, series, last, (Search.showQuery?_asks hquery).parsed_eq, mid, hsearch,
    run_orSkip_ok_iff.mp hshow⟩

/-- The key of the season that the numbers of a file are looked up in. -/
def seasonOf (result : SearchResult) (series : Show) (parsed : Pattern.ParsedEpisode) : SeasonKey :=
  ⟨result.sourceId, series.showId, parsed.season⟩

/-- With a show for it, a file is identified by the records of its numbers. -/
theorem ShowFound.run_identifyEpisode
    (h : ShowFound resolver dir refresh path s parsed result series mid) :
    (identifyEpisode resolver dir refresh path).run s =
      (findEpisodes resolver series (seasonOf result series parsed) refresh parsed.episodes >>=
        fun records => match records with
          | [] => throw .noEpisode
          | first :: _ => pure
            { identity := .episode series (first.widen parsed.episodes)
              destination := dir.pattern.destination dir.root
                (episodeContext path series parsed records) }).run mid := by
  obtain ⟨before, hsearch, hshow⟩ := h.known
  unfold searchShowOf at hsearch
  rw [identifyEpisode, run_bind, run_orSkipSearch_ok_iff.mpr hsearch]
  dsimp only
  rw [run_bind, run_orSkip_ok_iff.mpr hshow]
  rfl

/-- The file is identified by all of its numbers and their records: the title consists of those of
the distinct records, and the first record is widened to the numbers that it does not have. -/
structure PlacedBy (dir : MediaDirectory) (path : Path) (series : Show)
    (parsed : Pattern.ParsedEpisode) (records : List Episode) (placement : Placement) : Prop where
  destination : ∃ distinct, FirstAppearances records distinct ∧
    placement.destination = dir.pattern.destination dir.root
      { showName := some series.name
        season := some parsed.season
        episodes := parsed.episodes
        title := some (String.intercalate " & " (distinct.map (·.title)))
        extension := extensionOf path
        year := series.year
        id := some series.showId }
  identity : ∃ first added, records.head? = some first ∧
    FirstAppearances (parsed.episodes.filter fun n => !first.covers n) added ∧
    placement.identity = .episode series
      { first with episodeNumbers := first.episodeNumbers ++ added } ∧
    ∀ n ∈ parsed.episodes, n ∈ first.episodeNumbers ++ added

/-- What the code makes of the records of all numbers. -/
theorem placedBy_widen {first : Episode} {others : List Episode} :
    PlacedBy dir path series parsed (first :: others)
      { identity := .episode series (first.widen parsed.episodes)
        destination := dir.pattern.destination dir.root
          (episodeContext path series parsed (first :: others)) } where
  destination := ⟨_, firstAppearances_eraseDups (first :: others), rfl⟩
  identity := by
    have hadded := firstAppearances_eraseDups (parsed.episodes.filter fun n => !first.covers n)
    refine ⟨first, _, rfl, hadded, by rw [Episode.widen_eq], ?_⟩
    intro n hn
    -- a number that the record does not have is among those that were added
    rw [List.mem_append, hadded.mem_iff, List.mem_filter]
    by_cases hcovers : first.covers n
    · exact .inl (List.contains_iff_mem.mp hcovers)
    · exact .inr ⟨hn, by simpa using hcovers⟩

/-- A file with episodes is identified as a whole or not at all. If it is identified, each of its
numbers has a record, and place and identity are made of all of them. If the first number without a
record has none because there is nothing to find, the file is left alone and the reason names that
number. -/
theorem identify_allOrNothing (resolver : Resolver (StateM σ)) (dir : MediaDirectory)
    (hmode : dir.mode = .tvShow) (refresh : Bool) (path : Path) (s : σ) :
    (∀ placement, (identify resolver dir refresh path s).1.result = .ok placement →
      ∃ parsed result series mid records last,
        ShowFound resolver dir refresh path s parsed result series mid ∧
        FindsRecords resolver (seasonOf result series parsed) refresh parsed.episodes mid records
          last ∧
        PlacedBy dir path series parsed records placement) ∧
    ∀ parsed result series mid, ShowFound resolver dir refresh path s parsed result series mid →
      ∀ front number rest records before last, parsed.episodes = front ++ number :: rest →
        FindsRecords resolver (seasonOf result series parsed) refresh front mid records before →
        resolver.getEpisode ⟨seasonOf result series parsed, false, number⟩ refresh before =
          (.ok none, last) →
        ∃ reason, (identify resolver dir refresh path s).1.result = .error reason ∧
          reason.message = series.name ++ " has no episode " ++ showNumber number ++
            " in season " ++ showNumber parsed.season := by
  have hrun : (identify resolver dir refresh path s).1.result =
      ((identifyEpisode resolver dir refresh path).run s).1 := by
    unfold identify
    rw [hmode]
    rfl
  rw [hrun]
  constructor
  · intro placement hplacement
    -- the show is found first, and what is left are the numbers
    obtain ⟨parsed, result, series, mid, hfound⟩ := exists_showFound hplacement
    rw [hfound.run_identifyEpisode] at hplacement
    obtain ⟨records, last, hrecords, hrest⟩ := run_bind_ok hplacement
    rw [hrest] at hplacement
    refine ⟨parsed, result, series, mid, records, last, hfound,
      run_findEpisodes_ok_iff.mp hrecords, ?_⟩
    cases records with
    | nil => cases hplacement
    | cons first others =>
      cases hplacement
      exact placedBy_widen
  · intro parsed result series mid hfound front number rest records before last hnumbers hfront
      hnumber
    rw [hfound.run_identifyEpisode, hnumbers, run_bind, run_findEpisodes_missing hfront hnumber]
    exact ⟨_, rfl, rfl⟩

end Files

/-- A record for two numbers. -/
def pilotTwice : Episode :=
  { sourceId := "tvmaze", showId := "7", seasonNumber := 1, episodeNumbers := [1, 2]
    title := "Pilot" }

/-- The record for the number after these. -/
def tabulaRasa : Episode := { pilotTwice with episodeNumbers := [3], title := "Tabula Rasa" }

/-- A catalog of one show with three numbers, whatever is searched for. -/
def threeNumbers : Source.Answers where
  getShow id := .ok (some { sourceId := "tvmaze", showId := id, name := "Lost" })
  getSeason id number := .ok (some
    { sourceId := "tvmaze", showId := id, seasonNumber := number
      episodes := [pilotTwice, tabulaRasa], specials := [] })
  getFilm _ := .ok none
  searchMedia _ := .ok (some { id := "7", sourceId := "tvmaze", mode := .tvShow })

/-- A file whose numbers share a record, in another order than the season, and one with a number
that does not exist. -/
theorem identify_allOrNothing_lost :
    let dir : MediaDirectory :=
      { root := ⟨['/', 't', 'v']⟩, mode := .tvShow
        pattern := ⟨"%n %s %e - %t.%x", [.token .showName, .literal [' '], .token .season,
          .literal [' '], .token .episode, .literal [' ', '-', ' '], .token .title, .literal ['.'],
          .token .extension]⟩
        sources := ["tvmaze"], extensions := ["mkv"], stripTokens := [], ignorePatterns := []
        pruneEmptyDirs := false }
    let resolver : Resolver (StateM Unit) := ⟨[], [.ofAnswers "tvmaze" threeNumbers]⟩
    let path : Path := ⟨"/tv/LOST 1 2&3&1&3 - A.mkv".toList⟩
    let missing : Path := ⟨"/tv/LOST 1 2&4&3 - B.mkv".toList⟩
    let series : Show := { sourceId := "tvmaze", showId := "7", name := "Lost" }
    let placement : Placement :=
      { identity := .episode series { pilotTwice with episodeNumbers := [1, 2, 3] }
        destination := ⟨"/tv/Lost 01 02 & 03 & 01 & 03 - Pilot & Tabula Rasa.mkv".toList⟩ }
    dir.mode = .tvShow ∧ (identify resolver dir false path ()).1.result = .ok placement ∧
    (∃ parsed result series mid records last,
      ShowFound resolver dir false path () parsed result series mid ∧
      FindsRecords resolver (seasonOf result series parsed) false parsed.episodes mid records last ∧
      PlacedBy dir path series parsed records placement) ∧
    ∃ reason, (identify resolver dir false missing ()).1.result = .error reason ∧
      reason.message = "Lost has no episode 4 in season 1" := by
  intro dir resolver path missing series placement
  have hplacement : (identify resolver dir false path ()).1.result = .ok placement := by
    decide +kernel
  have hfound : ShowFound resolver dir false missing () ⟨1, [2, 4, 3], .pattern, some "LOST"⟩
      { id := "7", sourceId := "tvmaze", mode := .tvShow } series () :=
    ⟨by decide +kernel, (), Prod.ext (by decide +kernel) (Subsingleton.elim _ _), rfl⟩
  have hfront : FindsRecords resolver ⟨"tvmaze", "7", 1⟩ false [2] () [pilotTwice] () :=
    .cons rfl .nil
  obtain ⟨reason, hreason, hmessage⟩ :=
    (identify_allOrNothing resolver dir rfl false missing ()).2 _
    _ _ _ hfound [2] 4 [3] _ _ () rfl hfront rfl
  refine ⟨rfl, hplacement, (identify_allOrNothing resolver dir rfl false path ()).1 _ hplacement,
    reason, hreason, ?_⟩
  rw [hmessage]
  decide +kernel

end MediaShelf
