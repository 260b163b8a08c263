import MediaShelf.Proofs.Search.Show
import MediaShelf.Search.Film

/-!
# Searches ask well, and once

A search hands the resolver one query or none. Whether it does is settled before: a name that gives
no query is never asked about, and the outcome for any other name is told by the answer alone. To
count the calls, each query is written into a log together with the answer to it.

## Main definitions

* `logged` — a resolver that keeps a log of what it is asked
* `Asked` — what a search may lead to, with the log behind it
* `FilmDetails.Asks` — a query for a film as it should be

## Main results

* `asked_ask` — a search asks once if there is a query, and never otherwise
* `search_asked` — both searches ask nothing but well-formed queries
-/

namespace MediaShelf.Search

variable {σ ρ π : Type}

/-- What a resolver answers. -/
abbrev Answer := Except SourceError (Option SearchResult)

/-- The resolver with a log of its queries and of the answers to them. -/
def logged (resolve : ρ → StateM σ Answer) (query : ρ) : StateM (List (ρ × Answer) × σ) Answer :=
  fun (log, s) =>
    let (answer, last) := resolve query s
    (answer, (log ++ [(query, answer)], last))

/-- What a search may lead to: its outcome, the log of the resolver and the state it leaves. Here
`asks query parsed` says that the query is as it should be for what the name was parsed to. -/
inductive Asked (asks : ρ → π → Prop) (resolve : ρ → StateM σ Answer) (s : σ) :
    Except SourceError (SearchOutcome π) → List (ρ × Answer) → σ → Prop
  /-- There is no query. -/
  | unparsed : Asked asks resolve s (.ok .unparsed) [] s
  | found {query : ρ} {parsed : π} {result : SearchResult} {last : σ} (hasks : asks query parsed)
      (hanswer : resolve query s = (.ok (some result), last)) :
      Asked asks resolve s (.ok (.found result parsed)) [(query, .ok (some result))] last
  | notFound {query : ρ} {parsed : π} {last : σ} (hasks : asks query parsed)
      (hanswer : resolve query s = (.ok none, last)) :
      Asked asks resolve s (.ok (.notFound parsed)) [(query, .ok none)] last
  | failed {query : ρ} {parsed : π} {cause : SourceError} {last : σ} (hasks : asks query parsed)
      (hanswer : resolve query s = (.error cause, last)) :
      Asked asks resolve s (.error cause) [(query, .error cause)] last

variable {resolve : ρ → StateM σ Answer} {query? : Option (ρ × π)} {s last : σ}

/-- If there is a query, what comes of it is the answer of the resolver. -/
theorem ask_some {query : ρ} {parsed : π} {answer : Answer} (h : resolve query s = (answer, last)) :
    ask (some (query, parsed)) resolve s = (answer.map (SearchOutcome.ofAnswer parsed), last) := by
  simp only [ask, Bind.bind, StateT.bind, h]
  rfl

/-- A search asks once if there is a query, and never otherwise. -/
theorem asked_ask {asks : ρ → π → Prop}
    (h : ∀ query parsed, query? = some (query, parsed) → asks query parsed) (s : σ) :
    let run := ask query? (logged resolve) ([], s)
    Asked asks resolve s run.1 run.2.1 run.2.2 := by
  match query? with
  | none => exact .unparsed
  | some (query, parsed) =>
    have hasks := h query parsed rfl
    match hanswer : resolve query s with
    | (answer, last) =>
      -- the log is empty before the only call
      have hlogged : logged resolve query ([], s) = (answer, ([(query, answer)], last)) := by
        simp only [logged, hanswer, List.nil_append]
      rw [ask_some hlogged]
      match answer with
      | .ok (some result) => exact .found hasks hanswer
      | .ok none => exact .notFound hasks hanswer
      | .error cause => exact .failed hasks hanswer

/-- Where something was found there was a query for it, and the resolver knew the answer. -/
theorem exists_query_of_ask {result : SearchResult} {parsed : π}
    (h : ask query? resolve s = (.ok (.found result parsed), last)) :
    ∃ query, query? = some (query, parsed) ∧ resolve query s = (.ok (some result), last) := by
  match query? with
  | none => cases h
  | some (query, told) =>
    match hanswer : resolve query s with
    | (answer, mid) =>
      rw [ask_some hanswer] at h
      match answer with
      | .ok (some known) =>
        cases h
        exact ⟨query, rfl, hanswer⟩
      | .ok none => cases h
      | .error cause => cases h

/-! ### Films -/

/-- The query asks for a title that is a term, and it is what the name of the file was parsed to. -/
structure FilmDetails.Asks (query parsed : Pattern.FilmDetails) : Prop where
  parsed_eq : query = parsed
  term_ne : query.term ≠ ""
  term_normal : Text.normalize query.term = query.term

/-- What a release name tells has a term. -/
theorem exists_isTerm_of_detailsOfName? {stripTokens : List Regex} {name : List Char}
    {details : Pattern.FilmDetails} (h : detailsOfName? stripTokens name = some details) :
    ∃ term, IsTerm term ∧ details.term = String.ofList term := by
  obtain ⟨hne, hdetails⟩ := Option.ite_none_left_eq_some.mp h
  obtain rfl := Option.some.inj hdetails
  exact ⟨_, isTerm_cleanTerm (by simpa using hne), rfl⟩

/-- What a film file tells has a term, which its pattern cannot change. -/
theorem exists_isTerm_of_filmDetails? {dir : MediaDirectory} {file : Path}
    {details : Pattern.FilmDetails} (h : filmDetails? dir file = some details) :
    ∃ term, IsTerm term ∧ details.term = String.ofList term := by
  -- a title that the pattern found is read like a release name
  rcases Option.or_eq_some_iff.mp h with hpattern | ⟨-, hname⟩
  · simp only [detailsOfPattern?, Option.bind_eq_bind, Option.pure_def, Option.bind_eq_some_iff,
      Option.some.injEq] at hpattern
    obtain ⟨raw, -, refined, hrefined, rfl⟩ := hpattern
    have hterm := exists_isTerm_of_detailsOfName? hrefined
    exact hterm
  · obtain ⟨stem, -, hstem⟩ := Option.bind_eq_some_iff.mp hname
    exact exists_isTerm_of_detailsOfName? hstem

/-- Searches for shows and films ask the resolver at most once, with a well-formed query: not at all
exactly if the name gives no query, and otherwise the outcome is told by the answer. -/
theorem search_asked (dir : MediaDirectory) (file : Path) :
    (∀ {σ : Type} (resolve : ShowQuery → StateM σ Answer) (s : σ),
      let run := searchShow dir file (logged resolve) ([], s)
      Asked (ShowQuery.Asks dir file) resolve s run.1 run.2.1 run.2.2) ∧
    ∀ {σ : Type} (resolve : Pattern.FilmDetails → StateM σ Answer) (s : σ),
      let run := searchFilm dir file (logged resolve) ([], s)
      Asked FilmDetails.Asks resolve s run.1 run.2.1 run.2.2 := by
  constructor
  · intro σ resolve s
    exact asked_ask (fun query parsed hquery => showQuery?_asks hquery) s
  · intro σ resolve s
    apply asked_ask
    intro query parsed hquery
    obtain ⟨details, hdetails, hpair⟩ := Option.map_eq_some_iff.mp hquery
    obtain ⟨rfl, rfl⟩ := Prod.mk.inj hpair
    obtain ⟨term, hterm, heq⟩ := exists_isTerm_of_filmDetails? hdetails
    exact ⟨rfl, heq ▸ hterm.toString_ne, heq ▸ hterm.normalize_eq⟩

end MediaShelf.Search
