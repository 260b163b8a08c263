import MediaShelf.Organize.Basic
import MediaShelf.Proofs.Resolver.Lift

/-!
# What is told while a directory is organized

Identifying files takes stores and sources that may fail at any time. Whatever they do, every file
that was found has its outcome, in the order in which the files were found, and is told of twice:
when its turn comes, and when it is known what became of it. Only a directory that cannot be
searched ends the run early.

A resolver is put to work in a world that also holds what has been told. Since it does not notice,
what is told depends on the outcomes alone, and these are the ones that files have without anybody
listening.

## Main definitions

* `Event.log` — adds an event to those that were told
* `Resolver.besideLog` — a resolver in a world that also holds what was told
* `progress` — what is told of files

## Main results

* `identify_lift` — nothing is told while a single file is identified
* `identifyAll_log` — what is told of files in a row, and their outcomes
* `organize_log` — what is told of a whole directory
-/

namespace MediaShelf

open Search (SearchOutcome)

/-! ### Single files in a larger world -/

section Lift

variable {m n : Type → Type} [Monad m] [Monad n] [MonadLiftT m n] [LawfulMonadLiftT m n]
  {α β ε π : Type}

theorem run_orSkip_lift (reason : SkipReason) (lookup : m (Except SourceError (Option α))) :
    (orSkip reason (liftM lookup : n _)).run = liftM (orSkip reason lookup).run := by
  simp only [orSkip, ExceptT.run_mk, liftM_bind]
  refine congrArg _ (funext fun answer => ?_)
  match answer with
  | .ok (some value) => exact (liftM_pure _).symm
  | .ok none => exact (liftM_pure _).symm
  | .error cause => exact (liftM_pure _).symm

theorem run_orSkipSearch_lift (notFound unparsed : SkipReason)
    (search : m (Except SourceError (SearchOutcome π))) :
    (orSkipSearch notFound unparsed (liftM search : n _)).run =
      liftM (orSkipSearch notFound unparsed search).run := by
  simp only [orSkipSearch, ExceptT.run_mk, liftM_bind]
  refine congrArg _ (funext fun answer => ?_)
  match answer with
  | .ok (.found result parsed) => exact (liftM_pure _).symm
  | .ok (.notFound parsed) => exact (liftM_pure _).symm
  | .ok .unparsed => exact (liftM_pure _).symm
  | .error cause => exact (liftM_pure _).symm

theorem ask_lift {ρ : Type} (query? : Option (ρ × π))
    (resolve : ρ → m (Except SourceError (Option SearchResult))) :
    Search.ask query? (fun query => (liftM (resolve query) : n _)) =
      liftM (Search.ask query? resolve) := by
  cases query? with
  | none => exact (liftM_pure _).symm
  | some pair => simp only [Search.ask, liftM_bind, liftM_pure]

theorem run_pure_lift (a : α) :
    (pure a : ExceptT ε n α).run = liftM (pure a : ExceptT ε m α).run :=
  (liftM_pure (.ok a : Except ε α)).symm

/-- Effects in a row up to the first failure. -/
theorem run_bind_lift {first : ExceptT ε n β} {first' : ExceptT ε m β}
    {next : β → ExceptT ε n α} {next' : β → ExceptT ε m α} (hfirst : first.run = liftM first'.run)
    (hnext : ∀ b, (next b).run = liftM (next' b).run) :
    (first >>= next).run = liftM (first' >>= next').run := by
  rw [ExceptT.run_bind, ExceptT.run_bind, hfirst, liftM_bind]
  refine congrArg _ (funext fun result => ?_)
  cases result with
  | ok b => exact hnext b
  | error e => exact (liftM_pure _).symm

variable (resolver : Resolver m) (dir : MediaDirectory) (refresh : Bool) (path : Path)

theorem run_findEpisodes_lift (series : Show) (season : SeasonKey) (numbers : List UInt32) :
    (findEpisodes (resolver.lift (n := n) liftM) series season refresh numbers).run =
      liftM (findEpisodes resolver series season refresh numbers).run := by
  induction numbers with
  | nil => exact run_pure_lift []
  | cons number numbers ih =>
    refine run_bind_lift ?_ fun episode => run_bind_lift ih fun episodes => run_pure_lift _
    rw [Resolver.getEpisode_lift, run_orSkip_lift]

theorem run_identifyEpisode_lift :
    (identifyEpisode (resolver.lift (n := n) liftM) dir refresh path).run =
      liftM (identifyEpisode resolver dir refresh path).run := by
  refine run_bind_lift ?_ ?_
  · simp only [Search.searchShow, Resolver.searchMedia_lift, ask_lift, run_orSkipSearch_lift]
  · rintro ⟨result, parsed⟩
    refine run_bind_lift ?_ fun series => ?_
    · rw [Resolver.getShow_lift, run_orSkip_lift]
    · refine run_bind_lift (run_findEpisodes_lift resolver refresh series _ _) fun records => ?_
      cases records with
      | nil => exact (liftM_pure (.error SkipReason.noEpisode : Except _ Placement)).symm
      | cons first rest => exact run_pure_lift _

theorem run_identifyFilm_lift :
    (identifyFilm (resolver.lift (n := n) liftM) dir refresh path).run =
      liftM (identifyFilm resolver dir refresh path).run := by
  refine run_bind_lift ?_ ?_
  · simp only [Search.searchFilm, Resolver.searchMedia_lift, ask_lift, run_orSkipSearch_lift]
  · rintro ⟨result, details⟩
    refine run_bind_lift ?_ fun film => run_pure_lift _
    rw [Resolver.getFilm_lift, run_orSkip_lift]

theorem identify_lift :
    identify (resolver.lift (n := n) liftM) dir refresh path =
      liftM (identify resolver dir refresh path) := by
  unfold identify
  cases dir.mode with
  | tvShow => simp only [run_identifyEpisode_lift, liftM_bind, liftM_pure]
  | film => simp only [run_identifyFilm_lift, liftM_bind, liftM_pure]

end Lift

/-! ### Files in a row -/

/-- Adds an event to those that were told. -/
def Event.log {m : Type → Type} [Monad m] (event : Event) : StateT (List Event) m Unit :=
  modify (· ++ [event])

/-- The resolver in a world that also holds what was told. -/
def Resolver.besideLog {σ : Type} (resolver : Resolver (StateM σ)) :
    Resolver (StateT (List Event) (StateM σ)) :=
  resolver.lift liftM

/-- What is told of files, the first of which has the number `index` of `total`. -/
def progress (total index : Nat) (outcomes : List FileOutcome) : List Event :=
  (outcomes.zipIdx index).flatMap fun (outcome, place) =>
    [.processing place total outcome.path, outcome.event]

section Run

variable {σ : Type} (resolver : Resolver (StateM σ)) (dir : MediaDirectory) (refresh : Bool)

theorem path_identify (file : Path) (world : σ) :
    (identify resolver dir refresh file world).1.path = file :=
  rfl

theorem mapM_identify_cons (file : Path) (files : List Path) (world : σ) :
    (file :: files).mapM (identify resolver dir refresh) world =
      let (outcome, between) := identify resolver dir refresh file world
      let (outcomes, after) := files.mapM (identify resolver dir refresh) between
      (outcome :: outcomes, after) := by
  rw [List.mapM_cons]
  rfl

/-- The outcomes of files are about these files. -/
theorem map_path_mapM_identify (files : List Path) (world : σ) :
    (files.mapM (identify resolver dir refresh) world).1.map (·.path) = files := by
  induction files generalizing world with
  | nil => rfl
  | cons file files ih =>
    rw [mapM_identify_cons]
    exact congrArg (file :: ·) (ih _)

theorem progress_cons (total index : Nat) (outcome : FileOutcome) (outcomes : List FileOutcome) :
    progress total index (outcome :: outcomes) =
      [.processing index total outcome.path, outcome.event] ++
        progress total (index + 1) outcomes :=
  rfl

/-- A file is told of, identified and told of again before the next one. -/
theorem identifyAll_cons_log (total index : Nat) (file : Path) (files : List Path)
    (told : List Event) (world : σ) :
    identifyAll resolver.besideLog dir refresh Event.log total index (file :: files) told world =
      let (outcome, between) := identify resolver dir refresh file world
      let ((outcomes, told), after) :=
        identifyAll resolver.besideLog dir refresh Event.log total (index + 1) files
          (told ++ [.processing index total file] ++ [outcome.event]) between
      ((outcome :: outcomes, told), after) := by
  rw [identifyAll, Resolver.besideLog, identify_lift]
  rfl

/-- Whatever became of a file, the next one is seen to, and each is told of. -/
theorem identifyAll_log (total index : Nat) (files : List Path) (told : List Event) (world : σ) :
    identifyAll resolver.besideLog dir refresh Event.log total index files told world =
      let (outcomes, after) := files.mapM (identify resolver dir refresh) world
      ((outcomes, told ++ progress total index outcomes), after) := by
  -- files get their numbers as they come, and each adds to what was told
  induction files generalizing index told world with
  | nil => exact congrArg (fun events => (([], events), world)) (List.append_nil told).symm
  | cons file files ih =>
    rw [identifyAll_cons_log, mapM_identify_cons]
    have hpath := path_identify resolver dir refresh file world
    cases hone : identify resolver dir refresh file world with
    | mk outcome between =>
      rw [hone] at hpath
      obtain rfl : outcome.path = file := hpath
      simp only [ih]
      cases files.mapM (identify resolver dir refresh) between with
      | mk outcomes after =>
        simp only [progress_cons, List.append_assoc, List.cons_append, List.nil_append]

/-! ### A whole directory -/

/-- The files that were identified and those that were not are all there are. -/
theorem length_sub_length_filter (outcomes : List FileOutcome) :
    outcomes.length - (outcomes.filter (·.isResolved)).length =
      outcomes.countP (!·.isResolved) := by
  have htotal := List.length_eq_countP_add_countP (·.isResolved) (l := outcomes)
  simp only [Bool.not_eq_true, Bool.decide_eq_false] at htotal
  rw [← List.countP_eq_length_filter]
  omega

/-- What was found is identified between the events that open and close a run. -/
theorem organize_ok_log {tree : FileTree} {files : List Path} (hscan : dir.scan tree = .ok files)
    (world : σ) :
    organize resolver.besideLog tree dir refresh Event.log [] world =
      let ((outcomes, told), after) :=
        identifyAll resolver.besideLog dir refresh Event.log files.length 0 files
          [.started dir.root dir.mode, .scanning, .found files.length] world
      ((.ok outcomes, told ++ [.complete (outcomes.countP (·.isResolved))
        (outcomes.countP (!·.isResolved))]), after) := by
  have hresolved (outcomes : List FileOutcome) :
      outcomes.countP (·.isResolved) = (outcomes.filter (·.isResolved)).length :=
    List.countP_eq_length_filter
  simp only [hresolved, ← length_sub_length_filter, organize, hscan]
  rfl

/-- A directory that can be searched has an outcome for each file found, in order, and each is told
of twice before the numbers of those that were identified and of those that were not; one that
cannot be searched is the only cause of a failure. -/
theorem organize_log (tree : FileTree) (world : σ) :
    let run := organize resolver.besideLog tree dir refresh Event.log [] world
    match dir.scan tree with
    | .error e => run = ((.error e, [.started dir.root dir.mode, .scanning]), world)
    | .ok files =>
      ∃ outcomes after,
        files.mapM (identify resolver dir refresh) world = (outcomes, after) ∧
        outcomes.map (·.path) = files ∧
        run = ((.ok outcomes,
          [.started dir.root dir.mode, .scanning, .found files.length] ++
            progress files.length 0 outcomes ++
            [.complete (outcomes.countP (·.isResolved)) (outcomes.countP (!·.isResolved))]),
          after) := by
  intro run
  cases hscan : dir.scan tree with
  | error e =>
    simp only [run, organize, hscan]
    rfl
  | ok files =>
    refine ⟨_, _, rfl, map_path_mapM_identify resolver dir refresh files world, ?_⟩
    refine (organize_ok_log resolver dir refresh hscan world).trans ?_
    rw [identifyAll_log]
    rfl

end Run

end MediaShelf
