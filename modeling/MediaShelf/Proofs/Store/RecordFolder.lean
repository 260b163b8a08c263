import MediaShelf.Proofs.FileTree.Folder
import MediaShelf.Store.RecordFolder

/-!
# Records in an open folder

A folder without a time to live is a map from file names to records: storing a record changes what
is loaded under its own file name alone, removing by a start takes away the names that start so, and
changes of other folders do not matter.

## Main definitions

* `RecordFolder.fileName` — the name of the file of an identifier
* `RecordFolder.OpenAt` — the folder is a directory with usable names in it
* `RecordFolder.isFresh` — an entry is young enough to be loaded
* `RecordFolder.IsCurrent` — all entries are young enough to be loaded
* `RecordFolder.doomed` — the names that a removal by a start takes out of some
* `Codec.ReadsBack` — a record is read as it was written

## Main results

* `RecordFolder.load_of_locate` — what is loaded from the place that a path names
* `RecordFolder.load_of_longer` — what is loaded with a longer time to live
* `RecordFolder.load_store` — what is loaded after a record was stored
* `RecordFolder.OpenAt.tree_store` — what storing a record may do, also when it fails
* `RecordFolder.load_removePrefixed` — what is loaded after records were removed
* `RecordFolder.removePrefixed_keeps` — what a removal by a start keeps, also when it fails
* `RecordFolder.OpenAt.load_elsewhere` — changes of another folder
-/

namespace MediaShelf

/-- The record is read from the text that it is written as. -/
def Codec.ReadsBack {α : Type} (codec : Codec α) (value : α) : Prop :=
  (Json.read? (Json.write (codec.toJson value))).bind codec.ofJson? = some value

instance {α : Type} [DecidableEq α] (codec : Codec α) (value : α) :
    Decidable (codec.ReadsBack value) := inferInstanceAs (Decidable (_ = some value))

/-- The text is read as the characters that were written, without a way through bytes. -/
theorem Codec.readsBack_iff {α : Type} {codec : Codec α} {value : α} :
    codec.ReadsBack value ↔
      let text := Json.writeAt 0 (codec.toJson value)
      ((Json.readValue (text.length + 1) text).bind fun (read, rest) =>
        if (Json.skipGap rest).isEmpty then codec.ofJson? read else none) = some value := by
  simp only [ReadsBack, Json.read?, Json.write, String.toList_ofList, Option.bind_eq_bind,
    Option.bind_assoc]
  refine Eq.congr_left (Option.bind_congr fun (read, rest) _ => ?_)
  split <;> rfl

namespace RecordFolder

open FileTree (ChangesIn)

variable {α : Type} {folder : RecordFolder α} {place other : Location} {disk next : Disk}
  {identifier : String} {name : List Char}

/-- The name of the file of an identifier. -/
def fileName (identifier : String) : List Char := storedName identifier.toList ++ recordSuffix

/-- A name that can stand in a path and that an operating system takes. -/
structure IsFileName (name : List Char) : Prop where
  isName : Path.IsName name
  no_null : '\x00' ∉ name

theorem mem_storedName {text : List Char} {c : Char} (h : c ∈ storedName text) :
    c.isAlphanum ∨ c = '-' ∨ c = '_' := by
  obtain ⟨d, -, rfl⟩ := List.mem_map.mp h
  split
  · rename_i hkept
    simpa [← or_assoc] using Or.inl (by simpa using hkept)
  · exact .inr (.inr rfl)

theorem isFileName_storedName {text : List Char} (hne : storedName text ≠ []) :
    IsFileName (storedName text) := by
  have hmem (c : Char) (hc : ¬(c.isAlphanum ∨ c = '-' ∨ c = '_')) : c ∉ storedName text :=
    fun h => hc (mem_storedName h)
  refine ⟨⟨hne, ?_, ?_, hmem '/' (by decide)⟩, hmem '\x00' (by decide)⟩
  · intro heq
    exact hmem '.' (by decide) (heq ▸ List.mem_cons_self)
  · intro heq
    exact hmem '.' (by decide) (heq ▸ List.mem_cons_self)

theorem isFileName_fileName (identifier : String) : IsFileName (fileName identifier) := by
  have hmem (c : Char) (hc : ¬(c.isAlphanum ∨ c = '-' ∨ c = '_')) (hend : c ∉ recordSuffix) :
      c ∉ fileName identifier := fun h =>
    (List.mem_append.mp h).elim (fun h => hc (mem_storedName h)) hend
  -- the letter of the suffix keeps the name from being a full stop or two
  have hj : 'j' ∈ fileName identifier := List.mem_append_right _ (by decide)
  refine ⟨⟨List.ne_nil_of_mem hj, ?_, ?_, hmem '/' (by decide) (by decide)⟩,
    hmem '\x00' (by decide) (by decide)⟩
  · intro heq
    rw [heq] at hj
    revert hj
    decide
  · intro heq
    rw [heq] at hj
    revert hj
    decide

/-- The suffix of file names is of no importance to what they start with. -/
theorem storedName_isPrefix_fileName_iff {text : List Char} :
    storedName text <+: fileName identifier ↔
      storedName text <+: storedName identifier.toList := by
  refine ⟨?_, fun h => h.trans (List.prefix_append _ _)⟩
  rintro ⟨rest, hrest⟩
  obtain ⟨middle, hname, -⟩ | ⟨middle, hstart, hend⟩ := List.append_eq_append_iff.mp hrest
  · exact ⟨middle, hname.symm⟩
  · cases middle with
    | nil => exact ⟨[], by simp [hstart]⟩
    | cons c middle =>
      -- the full stop of the suffix would stand in the name of the text
      obtain ⟨rfl, -⟩ := List.cons.inj hend
      have hstop : '.' ∈ storedName text := by simp [hstart]
      exact absurd (mem_storedName hstop) (by decide)

/-- The folder is the directory at the place, and the names in it are file names. -/
structure OpenAt (folder : RecordFolder α) (place : Location) (tree : FileTree) : Prop where
  formed : tree.WellFormed
  locate : tree.locate folder.path = .ok place
  directory : tree.get? place = some .directory
  names : ∀ {name entry}, tree.get? (place ++ [name]) = some entry → IsFileName name

theorem OpenAt.children_eq {tree : FileTree} (h : folder.OpenAt place tree) :
    tree.children folder.path = .ok (tree.childNames place) :=
  FileTree.children_eq_ok.mpr ⟨place, h.locate, h.directory, rfl⟩

/-! ### Loading -/

/-- What is loaded from an entry. -/
def decode (folder : RecordFolder α) (path : Path) : Option Entry → Except CacheError (Option α)
  | none => .ok none
  | some .directory => .error (.readFailed path .isADirectory)
  | some (.file content _) =>
    match String.fromUTF8? content with
    | none => .error (.readFailed path .invalidText)
    | some text =>
      match (Json.read? text).bind folder.codec.ofJson? with
      | some value => .ok (some value)
      | none => .error (.deserializationFailed path)

theorem OpenAt.locate_push {tree : FileTree} (h : folder.OpenAt place tree)
    (hname : IsFileName name) :
    tree.locate (folder.path.push name) =
      if FileTree.nameSize name > FileTree.nameLimit then .error .nameTooLong
      else .ok (place ++ [name]) :=
  FileTree.locate_push h.locate h.directory hname.isName hname.no_null

/-- The path of a file that leads anywhere leads to its name in the folder. -/
theorem OpenAt.of_locate {tree : FileTree} (h : folder.OpenAt place tree) (hname : IsFileName name)
    {found : Location} (hlocate : tree.locate (folder.path.push name) = .ok found) :
    FileTree.nameSize name ≤ FileTree.nameLimit ∧ found = place ++ [name] := by
  rw [h.locate_push hname] at hlocate
  split at hlocate
  · cases hlocate
  · rename_i hsize
    exact ⟨Nat.not_lt.mp hsize, (Except.ok.inj hlocate).symm⟩

/-- Whether an entry is young enough at a time to be loaded. A file of a later time is, and what is
no file has no age. -/
def isFresh (folder : RecordFolder α) (now : Nat) : Entry → Bool
  | .directory => true
  | .file _ modified => folder.ttl.all fun ttl => now ≤ modified + ttl * nanoseconds

theorem isExpired_of_entryAt {path : Path} {entry : Entry}
    (h : disk.tree.entryAt path = .ok (place, entry)) :
    folder.isExpired disk path = !folder.isFresh disk.now entry := by
  unfold isExpired isFresh Disk.age?
  rw [h]
  cases entry with
  | directory => cases folder.ttl <;> rfl
  | file content modified =>
    cases folder.ttl with
    | none => rfl
    | some ttl =>
      by_cases hpast : modified ≤ disk.now
      · simp only [if_pos hpast, Option.all_some, ← decide_not, decide_eq_decide]
        omega
      · simp only [if_neg hpast, Option.all_some]
        simp
        omega

/-- Nothing is loaded where no path leads. -/
theorem load_of_locate_error {cause : IoError}
    (h : disk.tree.locate (folder.entryPath identifier) = .error cause) :
    folder.load disk identifier = .ok none := by
  have hmissing : disk.tree.hasEntry (folder.entryPath identifier) = false := by
    simp [FileTree.hasEntry, FileTree.entryAt, h, Bind.bind, Except.bind, Except.isOk,
      Except.toBool]
  simp [load, hmissing]

/-- Loading reads the entry that the path of the identifier leads to, if it is young enough. -/
theorem load_of_locate (h : disk.tree.locate (folder.entryPath identifier) = .ok place) :
    folder.load disk identifier =
      folder.decode (folder.entryPath identifier)
        ((disk.tree.get? place).filter (folder.isFresh disk.now)) := by
  unfold load
  cases hget : disk.tree.get? place with
  | none =>
    have hmissing : disk.tree.hasEntry (folder.entryPath identifier) = false := by
      rw [Bool.eq_false_iff]
      intro hentry
      obtain ⟨found, hfound, hsome⟩ := FileTree.hasEntry_iff.mp hentry
      rw [Except.ok.inj (hfound.symm.trans h), hget] at hsome
      cases hsome
    simp [hmissing, decode]
  | some entry =>
    have hentry := FileTree.entryAt_eq_ok.mpr ⟨h, hget⟩
    have hthere : disk.tree.hasEntry (folder.entryPath identifier) = true :=
      FileTree.hasEntry_iff.mpr ⟨_, h, by simp [hget]⟩
    simp only [hthere, isExpired_of_entryAt hentry, Bool.not_true, Bool.false_or]
    cases hfresh : folder.isFresh disk.now entry with
    | false => simp [Option.filter, hfresh, decode]
    | true =>
      simp only [Bool.not_true, Bool.false_eq_true, if_false, FileTree.readText,
        FileTree.readBytes, hentry, Option.filter, hfresh, if_true]
      cases entry with
      | directory => rfl
      | file content modified =>
        simp only [Bind.bind, Except.bind, Pure.pure, Except.pure, decode]
        cases String.fromUTF8? content <;> rfl

/-- Loading reads the entry under the file name, unless that is too long for any. -/
theorem load_eq (h : folder.OpenAt place disk.tree) (httl : folder.ttl = none) :
    folder.load disk identifier =
      if FileTree.nameSize (fileName identifier) > FileTree.nameLimit then .ok none
      else folder.decode (folder.entryPath identifier)
        (disk.tree.get? (place ++ [fileName identifier])) := by
  have hlocate := h.locate_push (isFileName_fileName identifier)
  by_cases hsize : FileTree.nameSize (fileName identifier) > FileTree.nameLimit
  · -- nothing can be there, so nothing is read
    rw [if_pos hsize] at hlocate ⊢
    exact load_of_locate_error hlocate
  · rw [if_neg hsize] at hlocate ⊢
    rw [load_of_locate hlocate]
    congr 1
    -- without a time to live no entry is too old
    cases disk.tree.get? (place ++ [fileName identifier]) with
    | none => rfl
    | some entry => cases entry <;> simp [Option.filter, isFresh, httl]

/-- What is not too old for a time to live is not too old for one that is no shorter. -/
theorem isExpired_of_longer {path : Path} {longer : Option Nat}
    (hlonger : ∀ seconds ∈ longer, ∃ fewer ∈ folder.ttl, fewer ≤ seconds)
    (h : folder.isExpired disk path = false) :
    { folder with ttl := longer }.isExpired disk path = false := by
  cases longer with
  | none => rfl
  | some seconds =>
    obtain ⟨fewer, httl, hle⟩ := hlonger seconds rfl
    unfold isExpired at h ⊢
    cases hage : disk.age? path with
    | none => rfl
    | some age =>
      simp only [Option.mem_def.mp httl, hage, decide_eq_false_iff_not, Nat.not_lt] at h ⊢
      exact Nat.le_trans h (Nat.mul_le_mul_right _ hle)

/-- What is loaded in time is loaded with every time to live that is no shorter. -/
theorem load_of_longer {value : α} {longer : Option Nat}
    (hlonger : ∀ seconds ∈ longer, ∃ fewer ∈ folder.ttl, fewer ≤ seconds)
    (h : folder.load disk identifier = .ok (some value)) :
    { folder with ttl := longer }.load disk identifier = .ok (some value) := by
  -- the time to live decides about the age alone, not about what is read
  simp only [load] at h ⊢
  split at h
  · cases h
  · rename_i hgood
    rw [Bool.or_eq_true, not_or] at hgood
    have hunexpired := isExpired_of_longer hlonger (Bool.eq_false_iff.mpr hgood.2)
    rw [if_neg]
    · exact h
    · rw [Bool.or_eq_true, not_or]
      exact ⟨hgood.1, Bool.eq_false_iff.mp hunexpired⟩

/-- So it would be loaded without a time to live. -/
theorem load_of_some {value : α} (h : folder.load disk identifier = .ok (some value)) :
    { folder with ttl := none }.load disk identifier = .ok (some value) :=
  load_of_longer (by simp) h

/-- Nothing in the folder is too old to be loaded. -/
def IsCurrent (folder : RecordFolder α) (disk : Disk) : Prop :=
  ∀ identifier, folder.isExpired disk (folder.entryPath identifier) = false

/-- As long as nothing is too old, the time to live is of no importance. -/
theorem IsCurrent.load_eq (h : folder.IsCurrent disk) (identifier : String) :
    folder.load disk identifier = { folder with ttl := none }.load disk identifier := by
  simp only [load, h identifier]
  rfl

/-- What is loaded depends on the entry under the file name alone. -/
theorem load_congr (h : folder.OpenAt place disk.tree) (hnext : folder.OpenAt place next.tree)
    (httl : folder.ttl = none)
    (hsame : next.tree.get? (place ++ [fileName identifier]) =
      disk.tree.get? (place ++ [fileName identifier])) :
    folder.load next identifier = folder.load disk identifier := by
  rw [load_eq h httl, load_eq hnext httl, hsame]

/-- A folder stays open while the names in it are file names. -/
theorem OpenAt.changed {before after : FileTree} (h : folder.OpenAt place before)
    (hchange : ChangesIn other before after)
    (hnames : ∀ {name entry}, after.get? (place ++ [name]) = some entry → IsFileName name) :
    folder.OpenAt place after :=
  ⟨hchange.formed, hchange.keeps.locate h.locate, hchange.keeps.directory h.directory, hnames⟩

/-- A folder stays open when another one changes. -/
theorem OpenAt.elsewhere {before after : FileTree} (h : folder.OpenAt place before)
    (hne : place ≠ other) (hchange : ChangesIn other before after) :
    folder.OpenAt place after := by
  refine h.changed hchange fun {name entry} hentry => ?_
  rw [hchange.elsewhere fun _ heq => hne (List.append_inj' heq rfl).1] at hentry
  exact h.names hentry

/-- A folder stays open when files of its own are taken away. -/
theorem OpenAt.without {before after : FileTree} {gone : List Char → Prop} [DecidablePred gone]
    (h : folder.OpenAt place before) (hchange : ChangesIn place before after)
    (hget : ∀ name, after.get? (place ++ [name]) =
      if gone name then none else before.get? (place ++ [name])) :
    folder.OpenAt place after := by
  refine h.changed hchange fun {name entry} hentry => ?_
  rw [hget] at hentry
  split at hentry
  · cases hentry
  · exact h.names hentry

/-- What is loaded stays the same when another folder changes. -/
theorem OpenAt.load_elsewhere (h : folder.OpenAt place disk.tree) (httl : folder.ttl = none)
    (hne : place ≠ other) (hchange : ChangesIn other disk.tree next.tree) (identifier : String) :
    folder.load next identifier = folder.load disk identifier :=
  load_congr h (h.elsewhere hne hchange) httl
    (hchange.elsewhere fun _ heq => hne (List.append_inj' heq rfl).1)

/-! ### Storing -/

theorem fromUTF8?_toUTF8 (text : String) : String.fromUTF8? text.toUTF8 = some text :=
  dif_pos text.isValidUTF8

theorem mapError_eq_ok {ε δ β : Type} {answer : Except ε β} {f : ε → δ} {value : β} :
    answer.mapError f = .ok value ↔ answer = .ok value := by
  cases answer <;> simp [Except.mapError]

theorem store_eq (identifier : String) (value : α) (disk : Disk) :
    let written := Disk.perform (.write (folder.entryPath identifier)
      (Json.write (folder.codec.toJson value)).toUTF8) disk
    folder.store identifier value disk =
      (written.1.mapError (.writeFailed (folder.entryPath identifier)), written.2) := by
  simp only [store, Bind.bind, StateT.bind]
  rcases Disk.perform (.write (folder.entryPath identifier)
    (Json.write (folder.codec.toJson value)).toUTF8) disk with ⟨_ | ⟨⟩, _⟩ <;> rfl

/-- Storing a record writes the file of its identifier, or leaves everything as it was. -/
theorem OpenAt.tree_store (h : folder.OpenAt place disk.tree) (identifier : String) (value : α) :
    (folder.store identifier value disk).2.tree = disk.tree ∨
      FileTree.nameSize (fileName identifier) ≤ FileTree.nameLimit ∧
        disk.tree.get? (place ++ [fileName identifier]) ≠ some .directory ∧
        (folder.store identifier value disk).2.tree = disk.tree.put (place ++ [fileName identifier])
          (.file (Json.write (folder.codec.toJson value)).toUTF8 disk.now) := by
  rw [store_eq]
  cases hdone : (Disk.perform (.write (folder.entryPath identifier)
      (Json.write (folder.codec.toJson value)).toUTF8) disk).1 with
  | error cause => exact .inl (FileTree.tree_of_perform_error (by simp) (by simp) hdone)
  | ok done =>
    obtain ⟨found, hlocate, hfree, htree⟩ := FileTree.perform_write hdone
    obtain ⟨hsize, rfl⟩ := h.of_locate (isFileName_fileName identifier) hlocate
    exact .inr ⟨hsize, hfree, htree⟩

/-- After a record was stored it is loaded under its file name, and nothing else changed. -/
theorem load_store (h : folder.OpenAt place disk.tree) (httl : folder.ttl = none) {value : α}
    (hreads : folder.codec.ReadsBack value)
    (hstored : (folder.store identifier value disk).1 = .ok ()) :
    ChangesIn place disk.tree (folder.store identifier value disk).2.tree ∧
      folder.OpenAt place (folder.store identifier value disk).2.tree ∧
      ∀ other, folder.load (folder.store identifier value disk).2 other =
        if fileName other = fileName identifier then .ok (some value)
        else folder.load disk other := by
  rw [store_eq] at hstored ⊢
  obtain ⟨found, hlocate, hfree, htree⟩ := FileTree.perform_write (mapError_eq_ok.mp hstored)
  generalize (Disk.perform (.write (folder.entryPath identifier)
    (Json.write (folder.codec.toJson value)).toUTF8) disk).2 = next at htree
  have hname := isFileName_fileName identifier
  -- the write succeeded, so the name is not too long to be found again
  obtain ⟨hfits, rfl⟩ := h.of_locate hname hlocate
  have hsize : ¬FileTree.nameSize (fileName identifier) > FileTree.nameLimit := Nat.not_lt.mpr hfits
  have hchange : ChangesIn place disk.tree next.tree := by
    rw [htree]
    exact ChangesIn.put h.formed h.directory hfree
  have hget (name : List Char) : next.tree.get? (place ++ [name]) =
      if name = fileName identifier then
        some (.file (Json.write (folder.codec.toJson value)).toUTF8 disk.now)
      else disk.tree.get? (place ++ [name]) := by
    rw [htree, FileTree.get?_put (by simp)]
    by_cases heq : name = fileName identifier <;> simp [heq]
  have hopen : folder.OpenAt place next.tree := by
    refine h.changed hchange fun {name entry} hentry => ?_
    rw [hget] at hentry
    split at hentry
    · rename_i heq
      exact heq ▸ hname
    · exact h.names hentry
  refine ⟨hchange, hopen, fun other => ?_⟩
  by_cases heq : fileName other = fileName identifier
  · rw [if_pos heq, load_eq hopen httl, heq, if_neg hsize, hget, if_pos rfl]
    have hread : (Json.read? (Json.write (folder.codec.toJson value))).bind folder.codec.ofJson? =
        some value := hreads
    simp only [decode, fromUTF8?_toUTF8, hread]
  · rw [if_neg heq]
    exact load_congr h hopen httl ((hget _).trans (if_neg heq))

/-! ### Removing -/

theorem removeAll_cons (path : Path) (paths : List Path) (disk : Disk) :
    removeAll (path :: paths) disk =
      match Disk.perform (.removeFile path) disk with
      | (.error cause, next) => (.error (.removeFailed path cause), next)
      | (.ok (), next) => ((removeAll paths next).1.map (· + 1), (removeAll paths next).2) := by
  simp only [removeAll, Bind.bind, StateT.bind]
  rcases Disk.perform (.removeFile path) disk with ⟨_ | ⟨⟩, _⟩ <;> rfl

/-- What is kept when a file is to be removed is kept when some are, also if that fails on the
way. -/
theorem removeAll_keeps (keeps : Disk → Prop)
    (hremove : ∀ disk path, keeps disk → keeps (Disk.perform (.removeFile path) disk).2)
    (paths : List Path) (h : keeps disk) : keeps (removeAll paths disk).2 := by
  induction paths generalizing disk with
  | nil => exact h
  | cons path paths ih =>
    have hnext := hremove disk path h
    rw [removeAll_cons]
    generalize Disk.perform (.removeFile path) disk = performed at hnext ⊢
    obtain ⟨_ | ⟨⟩, next⟩ := performed
    · exact hnext
    · exact ih hnext

/-- The number that is returned is that of the paths. -/
theorem length_of_removeAll {paths : List Path} {count : Nat}
    (h : (removeAll paths disk).1 = .ok count) : count = paths.length := by
  induction paths generalizing disk count with
  | nil => exact (Except.ok.inj h).symm
  | cons path paths ih =>
    rw [removeAll_cons] at h
    generalize Disk.perform (.removeFile path) disk = performed at h
    obtain ⟨_ | ⟨⟩, next⟩ := performed
    · cases h
    · dsimp only at h
      cases hrest : (removeAll paths next).1 with
      | error e => simp [hrest, Except.map] at h
      | ok rest =>
        rw [hrest] at h
        rw [List.length_cons, ← ih hrest, ← Except.ok.inj h]

/-- After some files of a folder were removed they are gone, and nothing else changed. -/
theorem get?_removeAll {names : List (List Char)} (h : folder.OpenAt place disk.tree)
    (hnames : ∀ name ∈ names, IsFileName name) {count : Nat}
    (hremoved : (removeAll (names.map folder.path.push) disk).1 = .ok count) :
    ChangesIn place disk.tree (removeAll (names.map folder.path.push) disk).2.tree ∧
      ∀ name, (removeAll (names.map folder.path.push) disk).2.tree.get? (place ++ [name]) =
        if name ∈ names then none else disk.tree.get? (place ++ [name]) := by
  induction names generalizing disk count with
  | nil => exact ⟨.refl h.formed, fun name => (if_neg List.not_mem_nil).symm⟩
  | cons first names ih =>
    rw [List.map_cons, removeAll_cons] at hremoved ⊢
    -- what a success says, put down before the answer is generalized
    have hstep : ∀ next, Disk.perform (.removeFile (folder.path.push first)) disk = (.ok (), next) →
        ∃ place content modified, disk.tree.locate (folder.path.push first) = .ok place ∧
          disk.tree.get? place = some (.file content modified) ∧
          next.tree = disk.tree.remove place := by
      intro next hperform
      simpa [hperform] using FileTree.perform_removeFile (congrArg Prod.fst hperform)
    generalize Disk.perform (.removeFile (folder.path.push first)) disk = performed
      at hremoved hstep ⊢
    obtain ⟨_ | ⟨⟩, next⟩ := performed
    · cases hremoved
    · obtain ⟨found, content, modified, hlocate, hfile, htree⟩ := hstep next rfl
      obtain ⟨-, rfl⟩ := h.of_locate (hnames first List.mem_cons_self) hlocate
      have hchange : ChangesIn place disk.tree next.tree := by
        rw [htree]
        exact ChangesIn.remove h.formed hfile
      have hget (name : List Char) : next.tree.get? (place ++ [name]) =
          if name = first then none else disk.tree.get? (place ++ [name]) := by
        rw [htree, FileTree.get?_remove (by simp)]
        by_cases heq : name = first <;> simp [heq]
      have hopen : folder.OpenAt place next.tree := h.without hchange hget
      obtain ⟨rest, hcount⟩ : ∃ rest,
          (removeAll (names.map folder.path.push) next).1 = .ok rest := by
        cases hrest : (removeAll (names.map folder.path.push) next).1 with
        | error e => simp [hrest, Except.map] at hremoved
        | ok rest => exact ⟨rest, rfl⟩
      obtain ⟨hrest, hleft⟩ := ih hopen
        (fun name hname => hnames name (List.mem_cons_of_mem _ hname)) hcount
      refine ⟨hchange.trans hrest, fun name => ?_⟩
      dsimp only
      rw [hleft, hget]
      by_cases hfirst : name = first <;> by_cases hmem : name ∈ names <;> simp [hfirst, hmem]

/-- The names that a removal by a start takes out of some. -/
def doomed (start : String) (names : List (List Char)) : List (List Char) :=
  names.filter fun name =>
    (storedName start.toList).isPrefixOf name && recordSuffix.isSuffixOf name

theorem mem_doomed {start : String} {names : List (List Char)} :
    name ∈ doomed start names ↔
      name ∈ names ∧ storedName start.toList <+: name ∧ recordSuffix <:+ name := by
  simp [doomed]

theorem removePrefixed_eq (folder : RecordFolder α) (start : String) (disk : Disk) :
    folder.removePrefixed start disk =
      match disk.tree.children folder.path with
      | .error cause => (.error (.readFailed folder.path cause), disk)
      | .ok names => removeAll ((doomed start names).map folder.path.push) disk := by
  simp only [removePrefixed, Bind.bind, StateT.bind, get, getThe, MonadStateOf.get, StateT.get,
    Pure.pure]
  cases disk.tree.children folder.path <;> rfl

/-- What is kept when a file is to be removed is kept by a removal by a start. -/
theorem removePrefixed_keeps (keeps : Disk → Prop)
    (hremove : ∀ disk path, keeps disk → keeps (Disk.perform (.removeFile path) disk).2)
    (folder : RecordFolder α) (start : String) (h : keeps disk) :
    keeps (folder.removePrefixed start disk).2 := by
  rw [removePrefixed_eq]
  cases disk.tree.children folder.path with
  | error cause => exact h
  | ok names => exact removeAll_keeps keeps hremove _ h

/-- After records were removed by a start, those whose file names have it are gone, and nothing
else changed. -/
theorem load_removePrefixed (h : folder.OpenAt place disk.tree) (httl : folder.ttl = none)
    {start : String} {count : Nat} (hremoved : (folder.removePrefixed start disk).1 = .ok count) :
    ChangesIn place disk.tree (folder.removePrefixed start disk).2.tree ∧
      folder.OpenAt place (folder.removePrefixed start disk).2.tree ∧
      ∀ other, folder.load (folder.removePrefixed start disk).2 other =
        if storedName start.toList <+: fileName other then .ok none
        else folder.load disk other := by
  rw [removePrefixed_eq, h.children_eq] at hremoved ⊢
  dsimp only at hremoved ⊢
  have hnames : ∀ name ∈ doomed start (disk.tree.childNames place), IsFileName name := by
    intro name hname
    obtain ⟨entry, hentry⟩ := Option.isSome_iff_exists.mp
      (FileTree.mem_childNames.mp (mem_doomed.mp hname).1)
    exact h.names hentry
  obtain ⟨hchange, hget⟩ := get?_removeAll h hnames hremoved
  generalize (removeAll ((doomed start (disk.tree.childNames place)).map folder.path.push) disk).2 =
    next at hchange hget ⊢
  have hopen : folder.OpenAt place next.tree := h.without hchange hget
  refine ⟨hchange, hopen, fun other => ?_⟩
  by_cases hstart : storedName start.toList <+: fileName other
  · -- a file with the start was there and is removed, or there was none
    have hgone : next.tree.get? (place ++ [fileName other]) = none := by
      rw [hget]
      split
      · rfl
      · rename_i hkept
        rw [← Option.not_isSome_iff_eq_none, ← FileTree.mem_childNames]
        intro hmem
        exact hkept (mem_doomed.mpr ⟨hmem, hstart, List.suffix_append _ _⟩)
    rw [if_pos hstart, load_eq hopen httl, hgone]
    split <;> rfl
  · rw [if_neg hstart]
    exact load_congr h hopen httl
      ((hget _).trans (if_neg fun hmem => hstart (mem_doomed.mp hmem).2.1))

/-! ### Opening -/

theorem make_eq (base : Path) (name : String) (ttl : Option Nat) (codec : Codec α) (disk : Disk) :
    let path := base.push (storedName name.toList)
    let made := Disk.perform (.makeDirectory path) disk
    make base name ttl codec disk =
      ((made.1.map fun _ => ⟨path, ttl, codec⟩).mapError (.directoryCreationFailed path),
        made.2) := by
  simp only [make, Bind.bind, StateT.bind]
  rcases Disk.perform (.makeDirectory (base.push (storedName name.toList))) disk with
    ⟨_ | ⟨⟩, _⟩ <;> rfl

/-- A folder that was opened is the one with the name. -/
theorem eq_of_make {base : Path} {name : String} {ttl : Option Nat} {codec : Codec α}
    {opened : RecordFolder α} (h : (make base name ttl codec disk).1 = .ok opened) :
    opened = ⟨base.push (storedName name.toList), ttl, codec⟩ := by
  rw [make_eq] at h
  cases hmade : (Disk.perform (.makeDirectory (base.push (storedName name.toList))) disk).1 with
  | error e => simp [hmade, Except.map, Except.mapError] at h
  | ok value =>
    simp only [hmade, Except.map, Except.mapError, Except.ok.injEq] at h
    exact h.symm

/-- A folder that was opened is a directory below its base, and nothing else changed. -/
theorem tree_make {base : Path} {name : String} {ttl : Option Nat} {codec : Codec α}
    {opened : RecordFolder α} (hlocate : disk.tree.locate base = .ok place)
    (hplace : disk.tree.get? place = some .directory) (hname : storedName name.toList ≠ [])
    (h : (make base name ttl codec disk).1 = .ok opened) :
    FileTree.nameSize (storedName name.toList) ≤ FileTree.nameLimit ∧
      (disk.tree.get? (place ++ [storedName name.toList]) = some .directory ∧
          (make base name ttl codec disk).2.tree = disk.tree ∨
        disk.tree.get? (place ++ [storedName name.toList]) = none ∧
          (make base name ttl codec disk).2.tree =
            disk.tree.put (place ++ [storedName name.toList]) .directory) := by
  rw [make_eq] at h ⊢
  have hfile := isFileName_storedName hname
  cases hmade : (Disk.perform (.makeDirectory (base.push (storedName name.toList))) disk).1 with
  | error e => simp [hmade, Except.map, Except.mapError] at h
  | ok value =>
    exact FileTree.perform_makeDirectory_push hlocate hplace hfile.isName hfile.no_null hmade

end RecordFolder

end MediaShelf
