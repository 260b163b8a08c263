import MediaShelf.Proofs.Json.RoundTrip
import MediaShelf.Proofs.Store.RecordFolder

/-!
# Records read back as they were written

Texts of any characters, numbers of any size and fields that are absent come back from the written
form of a record, and so do the lists in it.

## Main definitions

* `Codec.Lossless` — every record of a kind is read from its written form

## Main results

* `Show.lossless`, `Season.lossless`, `Episode.lossless`, `Film.lossless`,
  `SearchResult.lossless` — the kinds of records
* `Codec.Lossless.readsBack` — the same by way of text
-/

namespace MediaShelf

open Json

namespace Json

variable {α : Type} {json : Json} {value : α} {decode : Json → Option α}

@[simp] theorem areUnbroken_iff {items : List Json} :
    areUnbroken items ↔ ∀ item ∈ items, isUnbroken item := by
  induction items with
  | nil => simp [areUnbroken]
  | cons item items ih => simp [areUnbroken, ih]

@[simp] theorem isUnbroken_ofNat (n : Nat) : isUnbroken (ofNat n) := rfl

@[simp] theorem isUnbroken_ofString? (text : Option String) : isUnbroken (ofString? text) := by
  cases text <;> rfl

@[simp] theorem isUnbroken_ofWord? (n : Option UInt32) : isUnbroken (ofWord? n) := by
  cases n <;> rfl

@[simp] theorem toWord?_ofNat (n : UInt32) : toWord? (ofNat n.toNat) = some n := by
  simp [toWord?, ofNat, toNat?, n.toNat_lt]

@[simp] theorem optional?_ofString? (text : Option String) :
    optional? toString? (some (ofString? text)) = some text := by
  cases text <;> rfl

@[simp] theorem optional?_ofWord? (n : Option UInt32) :
    optional? toWord? (some (ofWord? n)) = some n := by
  cases n with
  | none => rfl
  | some n => exact congrArg (Option.map some) (toWord?_ofNat n)

@[simp] theorem required?_some : required? decode (some json) = decode json := rfl

/-- A list is read back if its items are. -/
theorem toList?_map {encode : α → Json} {values : List α}
    (h : ∀ value ∈ values, decode (encode value) = some value) :
    toList? decode (.array (values.map encode)) = some values := by
  rw [toList?]
  induction values with
  | nil => rfl
  | cons value values ih =>
    have hvalues := ih fun other hother => h other (List.mem_cons_of_mem _ hother)
    simp [h value List.mem_cons_self, hvalues]

end Json

/-- Every record is read from its written form, which has no broken strings. -/
structure Codec.Lossless {α : Type} (codec : Codec α) : Prop where
  unbroken : ∀ value, isUnbroken (codec.toJson value)
  decodes : ∀ value, codec.ofJson? (codec.toJson value) = some value

/-- What loses nothing as JSON loses nothing as text either. -/
theorem Codec.Lossless.readsBack {α : Type} {codec : Codec α} (h : codec.Lossless) (value : α) :
    codec.ReadsBack value := by
  rw [ReadsBack, read?_write (h.unbroken value), Option.bind_some, h.decodes]

theorem Show.lossless : Show.codec.Lossless := by
  constructor
  · intro record
    simp [codec, toJson, isUnbroken, haveUnbroken]
  · intro record
    have hgenres : toList? toString? (.array (record.genres.map .string)) = some record.genres :=
      toList?_map fun _ _ => rfl
    simp [codec, toJson, ofJson?, fields?, field?, toString?, hgenres]

theorem Episode.lossless : Episode.codec.Lossless := by
  constructor
  · intro episode
    simp [codec, toJson, isUnbroken, haveUnbroken]
  · intro episode
    have hnumbers : toList? toWord? (.array (episode.episodeNumbers.map fun n => ofNat n.toNat)) =
        some episode.episodeNumbers := toList?_map fun n _ => toWord?_ofNat n
    simp [codec, toJson, ofJson?, fields?, field?, toString?, toBool?, hnumbers]

theorem Season.lossless : Season.codec.Lossless := by
  constructor
  · intro season
    have hunbroken (episode : Episode) : isUnbroken episode.toJson :=
      Episode.lossless.unbroken episode
    simp [codec, toJson, isUnbroken, haveUnbroken, hunbroken]
  · intro season
    have hepisodes (episodes : List Episode) :
        toList? Episode.ofJson? (.array (episodes.map (·.toJson))) = some episodes :=
      toList?_map fun episode _ => Episode.lossless.decodes episode
    simp [codec, toJson, ofJson?, fields?, field?, toString?, hepisodes]

theorem Film.lossless : Film.codec.Lossless := by
  constructor
  · intro film
    simp [codec, toJson, isUnbroken, haveUnbroken]
  · intro film
    simp [codec, toJson, ofJson?, fields?, field?, toString?]

@[simp] theorem Mode.ofJson?_toJson (mode : Mode) : ofJson? mode.toJson = some mode := by
  cases mode <;> rfl

@[simp] theorem Mode.isUnbroken_toJson (mode : Mode) : isUnbroken mode.toJson := rfl

theorem SearchResult.lossless : SearchResult.codec.Lossless := by
  constructor
  · intro result
    simp [codec, toJson, isUnbroken, haveUnbroken]
  · intro result
    simp [codec, toJson, ofJson?, fields?, field?, toString?]

end MediaShelf
