import MediaShelf.Config.Basic
import MediaShelf.Resolver
import MediaShelf.Source.TvMaze
import MediaShelf.Store.JsonFiles
import MediaShelf.Store.Memory

/-!
# The state of a run

## Main definitions

* `Workspace` — the disk and the records met so far
* `onDisk`, `onMemory` — effects on either, seen as effects on both
* `openResolver` — the resolver that a configuration asks for
-/

namespace MediaShelf

/-- What changes while the program runs. -/
structure Workspace where
  disk : Disk := {}
  memory : MemoryStore := {}

variable {n : Type → Type} [Monad n] {α : Type}

/-- An effect on the disk. -/
def onDisk (effect : StateM Disk α) : StateT Workspace n α := fun workspace =>
  let (value, disk) := effect workspace.disk
  pure (value, { workspace with disk })

/-- An effect on the records met so far. -/
def onMemory (effect : StateM MemoryStore α) : StateT Workspace n α := fun workspace =>
  let (value, memory) := effect workspace.memory
  pure (value, { workspace with memory })

/-- The store on disk, if the settings ask for one. Its time to live is computed before anything is
made on disk, and the program may break off at it. -/
def openDiskStore (settings : CacheSettings) (home : Path) :
    StateM Disk (Except Breakdown (Except CacheError (Option JsonStore))) := do
  if settings.enabled then
    match settings.ttl with
    | .error breakdown => pure (.error breakdown)
    | .ok ttl =>
      let store ← JsonStore.make (settings.dir.getD (Config.defaultCacheDir home)) ttl
      pure (.ok (store.map some))
  else pure (.ok (.ok none))

/-- The records of the process come first, then those on disk if they are kept. TVMaze is the only
source. -/
def openResolver (config : Config) (home : Path) (fetch : TvMaze.Fetch n) :
    StateT Workspace n (Except Breakdown (Except StoreError (Resolver (StateT Workspace n)))) := do
  match ← onDisk (openDiskStore config.cache home) with
  | .error breakdown => pure (.error breakdown)
  | .ok (.error cause) => pure (.ok (.error (.cache cause)))
  | .ok (.ok store) =>
    let memory := MemoryStore.tier.lift onMemory
    let kept := store.toList.map fun store => store.tier.lift onDisk
    let source := TvMaze.source (fun url => liftM (fetch url)) TvMaze.address
    pure (.ok (.ok ⟨memory :: kept, [source]⟩))

end MediaShelf
