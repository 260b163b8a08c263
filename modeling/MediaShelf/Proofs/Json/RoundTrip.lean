import Mathlib.Data.List.Basic
import MediaShelf.Json.Reader
import MediaShelf.Json.Writer

/-!
# Values read back as they were written

Whatever the indentation and whatever follows, the reader takes from the text of a value exactly
that text and gives the value.

## Main definitions

* `Json.pieceOf` — what a character is read back as
* `Json.EndsNumber` — a text that no number goes on in
* `Json.isUnbroken` — there is no broken string in the value
* `Json.ReadsWritten` — what some fuel is enough to read back

## Main results

* `Json.readPieces?_quote`, `Json.joinPieces?_pieceOf` — strings
* `Json.readNumber?_write` — numbers
* `Json.readsWritten` — values within others
* `Json.read?_write` — whole texts
-/

namespace MediaShelf.Json

variable {text rest after gap whole : List Char} {level fuel n : Nat} {c : Char}

/-! ### Blanks -/

theorem skipGap_append (hgap : ∀ c ∈ gap, isGap c) : skipGap (gap ++ rest) = skipGap rest :=
  List.dropWhile_append_of_pos hgap

theorem skipGap_cons (h : isGap c = false) : skipGap (c :: rest) = c :: rest := by
  simp [skipGap, h]

theorem isGap_of_mem_newline (h : c ∈ newline level) : isGap c := by
  rcases List.mem_cons.mp h with rfl | h
  · decide
  · rw [List.eq_of_mem_replicate h]
    decide

theorem skipGap_newline_cons (hplain : isGap c = false) :
    skipGap (newline level ++ c :: rest) = c :: rest := by
  rw [skipGap_append fun _ => isGap_of_mem_newline, skipGap_cons hplain]

/-! ### Strings -/

/-- The control characters that have an escape of one letter. -/
def lettered : List Char := ['\x08', '\t', '\n', '\x0c', '\r']

/-- What a character is read back as: a control character without a letter of its own is written
as a unit. -/
def pieceOf (c : Char) : Piece :=
  if c.toNat < 32 ∧ c ∉ lettered then .unit c.toNat else .char c

theorem hexUnit?_hexDigit :
    ∀ n < 32, hexUnit? '0' '0' (hexDigit (n / 16)) (hexDigit n) = some n := by
  decide

/-- A character that is not escaped stands for itself. -/
theorem readPieces?_plain (hquote : c ≠ '\x22') (hslash : c ≠ '\\') (hplain : ¬c.toNat < 32) :
    readPieces? (c :: rest) = (readPieces? rest).map fun (pieces, rest) =>
      (.char c :: pieces, rest) := by
  rw [readPieces?]
  · cases readPieces? rest <;> simp [hslash, hplain]
  · exact hquote
  · simp [hslash]
  · simp [hslash]

/-- An escape with four digits stands for a unit. -/
theorem readPieces?_unit {a b c d : Char} (h : hexUnit? a b c d = some n) :
    readPieces? ('\\' :: 'u' :: a :: b :: c :: d :: rest) =
      (readPieces? rest).map fun (pieces, rest) => (.unit n :: pieces, rest) := by
  rw [readPieces?, h]
  cases readPieces? rest <;> rfl

/-- What has no letter of its own is written as a unit or as it is. -/
theorem quoteChar_of_not_mem (h : c ∉ '\x22' :: '\\' :: lettered) :
    quoteChar c = if c.toNat < 32 then
      ['\\', 'u', '0', '0', hexDigit (c.toNat / 16), hexDigit c.toNat] else [c] := by
  simp only [lettered, List.mem_cons, List.not_mem_nil, or_false, not_or] at h
  simp [quoteChar, h]

theorem readPieces?_quoteChar (c : Char) :
    readPieces? (quoteChar c ++ rest) = (readPieces? rest).map fun (pieces, rest) =>
      (pieceOf c :: pieces, rest) := by
  by_cases hletter : c ∈ '\x22' :: '\\' :: lettered
  · simp only [lettered, List.mem_cons, List.not_mem_nil, or_false] at hletter
    rcases hletter with rfl | rfl | rfl | rfl | rfl | rfl | rfl
    all_goals
      cases hread : readPieces? rest <;>
        simp [quoteChar, readPieces?, escaped?, pieceOf, lettered, hread]
  · rw [quoteChar_of_not_mem hletter]
    simp only [List.mem_cons, not_or] at hletter
    obtain ⟨hquote, hslash, hletter⟩ := hletter
    by_cases hcontrol : c.toNat < 32
    · rw [pieceOf, if_pos hcontrol, if_pos ⟨hcontrol, hletter⟩]
      exact readPieces?_unit (hexUnit?_hexDigit _ hcontrol)
    · rw [pieceOf, if_neg hcontrol, if_neg fun h => hcontrol h.1]
      exact readPieces?_plain hquote hslash hcontrol

/-- The inside of a string is read up to its closing quote. -/
theorem readPieces?_quote : readPieces? (text.flatMap quoteChar ++ '\x22' :: rest) =
    some (text.map pieceOf, rest) := by
  induction text with
  | nil => simp [readPieces?]
  | cons c text ih =>
    rw [List.flatMap_cons, List.append_assoc, readPieces?_quoteChar, ih]
    rfl

/-- A unit that is no half of a pair is a character, whatever follows. -/
theorem joinPieces?_unit (hsmall : n < 0xD800) {pieces : List Piece} :
    joinPieces? (.unit n :: pieces) = (joinPieces? pieces).map (Char.ofNat n :: ·) := by
  have hfirst : ¬(0xD800 ≤ n ∧ n < 0xDC00) := by omega
  have hsecond : ¬(0xDC00 ≤ n ∧ n < 0xE000) := by omega
  have halone : ¬(0xD800 ≤ n ∧ n < 0xE000) := by omega
  cases pieces with
  | nil =>
    rw [joinPieces?]
    exact if_neg halone
  | cons piece pieces =>
    cases piece with
    | char c => exact if_neg halone
    | unit low => rw [joinPieces?, if_neg hfirst, if_neg hsecond]

theorem joinPieces?_pieceOf : joinPieces? (text.map pieceOf) = some text := by
  induction text with
  | nil => rfl
  | cons c text ih =>
    rw [List.map_cons, pieceOf]
    split
    · rename_i hunit
      rw [joinPieces?_unit (by omega), ih, Option.map_some, Char.ofNat_toNat]
    · rw [joinPieces?, ih, Option.map_some]

theorem readString?_quote : readString? (text.flatMap quoteChar ++ '\x22' :: rest) =
    some (.string (String.ofList text), rest) := by
  simp [readString?, readPieces?_quote, joinPieces?_pieceOf]

/-! ### Numbers -/

/-- No number goes on at the start of the text. -/
def EndsNumber (text : List Char) : Prop :=
  ∀ c ∈ text.head?, c.isDigit = false ∧ c ≠ '.' ∧ c ≠ 'e' ∧ c ≠ 'E'

theorem EndsNumber.cons (h : c.isDigit = false ∧ c ≠ '.' ∧ c ≠ 'e' ∧ c ≠ 'E') :
    EndsNumber (c :: rest) := by
  intro d hd
  obtain rfl : c = d := by simpa using hd
  exact h

theorem endsNumber_newline : EndsNumber (newline level ++ rest) := .cons (by decide)

theorem takeDigits_append (hwhole : ∀ c ∈ whole, c.isDigit)
    (hend : ∀ c ∈ rest.head?, c.isDigit = false) : takeDigits (whole ++ rest) = (whole, rest) := by
  rw [takeDigits, List.takeWhile_append_of_pos hwhole, List.dropWhile_append_of_pos hwhole]
  cases rest with
  | nil => simp
  | cons c rest => simp [hend c rfl]

/-- There is no leading zero. -/
theorem head?_toDigits (hpos : 0 < n) : (Nat.toDigits 10 n).head? ≠ some '0' := by
  induction n using Nat.strongRecOn with
  | ind n ih =>
    by_cases hsmall : n < 10
    · rw [Nat.toDigits_of_lt_base hsmall]
      have hdigit : ∀ n < 10, 0 < n → n.digitChar ≠ '0' := by decide
      simpa using hdigit n hsmall hpos
    · have hhead := ih (n / 10) (by omega) (by omega)
      rwa [Nat.toDigits_of_base_le (by decide) (by omega),
        List.head?_append_of_ne_nil _ Nat.toDigits_ne_nil]

theorem isDigit_of_mem_toDigits (h : c ∈ Nat.toDigits 10 n) : c.isDigit :=
  Nat.isDigit_of_mem_toDigits (by decide) (by decide) h

theorem readFraction?_of_ne (h : ∀ c ∈ rest.head?, c ≠ '.') :
    readFraction? rest = some ([], rest) := by
  cases rest with
  | nil => rfl
  | cons c rest =>
    have hc : c ≠ '.' := h c rfl
    simp [readFraction?, hc]

theorem readExponent?_of_endsNumber (h : EndsNumber rest) :
    readExponent? rest = some (none, rest) := by
  cases rest with
  | nil => rfl
  | cons c rest =>
    obtain ⟨-, -, he, hE⟩ := h c rfl
    simp [readExponent?, he, hE]

/-- An exponent is read as it was written. -/
theorem readExponent?_write {exponent : Int} (hend : EndsNumber rest) :
    readExponent? ('e' :: ((if exponent < 0 then ['-'] else []) ++
      Nat.toDigits 10 exponent.natAbs ++ rest)) = some (some exponent, rest) := by
  have hdigits : ∀ c ∈ Nat.toDigits 10 exponent.natAbs, c.isDigit :=
    fun _ => isDigit_of_mem_toDigits
  have htake : takeDigits (Nat.toDigits 10 exponent.natAbs ++ rest) =
      (Nat.toDigits 10 exponent.natAbs, rest) := takeDigits_append hdigits fun c hc => (hend c hc).1
  have hne : Nat.toDigits 10 exponent.natAbs ≠ [] := Nat.toDigits_ne_nil
  have hvalue : Nat.ofDigitChars 10 (Nat.toDigits 10 exponent.natAbs) 0 = exponent.natAbs :=
    Nat.ofDigitChars_ten_toDigits
  generalize Nat.toDigits 10 exponent.natAbs = digits at *
  generalize hsize : exponent.natAbs = n at *
  by_cases hneg : exponent < 0
  · simp only [hneg, if_true, readExponent?, List.cons_append, List.nil_append]
    simp [htake, hne, hvalue]
    omega
  · -- the first digit is no sign
    obtain ⟨d, digits, rfl⟩ := List.exists_cons_of_ne_nil hne
    have hd : d.isDigit := hdigits d List.mem_cons_self
    have hminus : d ≠ '-' := by rintro rfl; cases hd
    have hplus : d ≠ '+' := by rintro rfl; cases hd
    rw [List.cons_append] at htake
    simp only [hneg, if_false, readExponent?, List.nil_append, List.cons_append]
    simp [hminus, hplus, htake, hvalue]
    omega

/-- A number without fraction is read up to its end. -/
theorem readNumber?_whole {isNegative : Bool} {exponent : Option Int}
    (hwhole : ∀ c ∈ whole, c.isDigit) (hne : whole ≠ [])
    (hzero : 1 < whole.length → whole.head? ≠ some '0')
    (hrest : ∀ c ∈ rest.head?, c.isDigit = false ∧ c ≠ '.')
    (hexponent : readExponent? rest = some (exponent, after)) :
    readNumber? ((if isNegative then ['-'] else []) ++ whole ++ rest) =
      some (match exponent with
        | none => .integer isNegative (Nat.ofDigitChars 10 whole 0)
        | some exponent => .decimal isNegative (Nat.ofDigitChars 10 whole 0) exponent, after) := by
  have htake : takeDigits (whole ++ rest) = (whole, rest) :=
    takeDigits_append hwhole fun c hc => (hrest c hc).1
  have hfraction : readFraction? rest = some ([], rest) :=
    readFraction?_of_ne fun c hc => (hrest c hc).2
  -- the reader tells the sign by the first character, which is a digit if there is none
  cases isNegative with
  | true =>
    simp only [if_true, readNumber?, List.cons_append, List.nil_append]
    cases exponent <;> simpa [htake, hne, hfraction, hexponent] using hzero
  | false =>
    obtain ⟨d, digits, rfl⟩ := List.exists_cons_of_ne_nil hne
    have hminus : d ≠ '-' := by
      rintro rfl
      cases hwhole '-' List.mem_cons_self
    rw [List.cons_append] at htake
    simp only [Bool.false_eq_true, if_false, List.nil_append, List.cons_append]
    cases exponent <;> simpa [readNumber?, hminus, htake, hfraction, hexponent] using hzero

/-- A number is read up to its end as it was written. -/
theorem readNumber?_write (number : Number) (hend : EndsNumber rest) :
    readNumber? (number.write ++ rest) = some (number, rest) := by
  -- a number that is zero is written with one digit
  have hzero : ∀ n, 1 < (Nat.toDigits 10 n).length → (Nat.toDigits 10 n).head? ≠ some '0' := by
    intro n hlong
    refine head?_toDigits (Nat.pos_of_ne_zero ?_)
    rintro rfl
    exact absurd hlong (by decide)
  cases number with
  | integer isNegative magnitude =>
    rw [Number.write, readNumber?_whole (fun _ => isDigit_of_mem_toDigits) Nat.toDigits_ne_nil
      (hzero _) (fun c hc => ⟨(hend c hc).1, (hend c hc).2.1⟩) (readExponent?_of_endsNumber hend)]
    simp [Nat.ofDigitChars_ten_toDigits]
  | decimal isNegative mantissa exponent =>
    rw [Number.write, List.append_assoc, List.cons_append,
      readNumber?_whole (fun _ => isDigit_of_mem_toDigits) Nat.toDigits_ne_nil (hzero _)
        (by simp) (readExponent?_write hend)]
    simp [Nat.ofDigitChars_ten_toDigits]

/-! ### Values -/

mutual

/-- There is no broken string in the value, which would be written as an empty one. -/
def isUnbroken : Json → Bool
  | .brokenString => false
  | .array items => areUnbroken items
  | .object members => haveUnbroken members
  | _ => true

/-- There is no broken string in the items. -/
def areUnbroken : List Json → Bool
  | [] => true
  | item :: items => isUnbroken item && areUnbroken items

/-- There is no broken string in the values of the members. -/
def haveUnbroken : List (String × Json) → Bool
  | [] => true
  | (_, value) :: members => isUnbroken value && haveUnbroken members

end

theorem Number.write_eq_cons (number : Number) :
    ∃ c rest, number.write = c :: rest ∧ (c = '-' ∨ c.isDigit) := by
  have hunsigned (n : Nat) (behind : List Char) :
      ∃ c rest, Nat.toDigits 10 n ++ behind = c :: rest ∧ (c = '-' ∨ c.isDigit) := by
    obtain ⟨d, digits, hdigits⟩ := List.exists_cons_of_ne_nil
      (Nat.toDigits_ne_nil (n := n) (b := 10))
    have hd : d.isDigit := isDigit_of_mem_toDigits (hdigits ▸ List.mem_cons_self)
    exact ⟨d, digits ++ behind, by rw [hdigits, List.cons_append], .inr hd⟩
  cases number with
  | integer isNegative magnitude =>
    cases isNegative with
    | true => exact ⟨'-', _, rfl, .inl rfl⟩
    | false => simpa [Number.write] using hunsigned magnitude []
  | decimal isNegative mantissa exponent =>
    cases isNegative with
    | true => exact ⟨'-', _, rfl, .inl rfl⟩
    | false => simpa [Number.write] using hunsigned mantissa _

/-- The text of a value starts with a character that is neither a blank nor the end of an array. -/
theorem writeAt_eq_cons (level : Nat) (value : Json) :
    ∃ c rest, writeAt level value = c :: rest ∧ isGap c = false ∧ c ≠ ']' := by
  cases value with
  | null => exact ⟨_, _, rfl, by decide, by decide⟩
  | bool value => cases value <;> exact ⟨_, _, rfl, by decide, by decide⟩
  | number number =>
    obtain ⟨c, rest, hwrite, hc⟩ := number.write_eq_cons
    refine ⟨c, rest, hwrite, ?_⟩
    obtain rfl | hc := hc
    · decide
    · constructor
      · rw [Bool.eq_false_iff]
        intro hgap
        simp only [isGap, Bool.or_eq_true, beq_iff_eq] at hgap
        rcases hgap with ((rfl | rfl) | rfl) | rfl <;> cases hc
      · rintro rfl
        cases hc
  | string text => exact ⟨_, _, rfl, by decide, by decide⟩
  | brokenString => exact ⟨_, _, rfl, by decide, by decide⟩
  | array items => cases items <;> exact ⟨_, _, rfl, by decide, by decide⟩
  | object members => cases members <;> exact ⟨_, _, rfl, by decide, by decide⟩

/-- The fuel is enough to read back every value, items and members of shorter text. What follows an
item or a member takes no more fuel than the comma in front of it. -/
structure ReadsWritten (fuel : Nat) : Prop where
  value : ∀ {value} level gap rest, isUnbroken value → (writeAt level value).length < fuel →
    (∀ c ∈ gap, isGap c) → EndsNumber rest →
      readValue fuel (gap ++ (writeAt level value ++ rest)) = some (value, rest)
  items : ∀ {item items} level gap last rest, isUnbroken item → areUnbroken items →
    (writeAt level item).length + (writeItems level items).length + 1 < fuel →
    (∀ c ∈ gap, isGap c) →
      readItems fuel (gap ++ (writeAt level item ++ (writeItems level items ++
        (newline last ++ ']' :: rest)))) = some (item :: items, rest)
  members : ∀ {member members} level gap last rest, haveUnbroken (member :: members) →
    (writeMember level member).length + (writeMembers level members).length + 1 < fuel →
    (∀ c ∈ gap, isGap c) →
      readMembers fuel (gap ++ (writeMember level member ++ (writeMembers level members ++
        (newline last ++ '}' :: rest)))) = some (member :: members, rest)

/-- What starts like a number is read as one. -/
theorem readValue_number (hgap : ∀ c ∈ gap, isGap c) (hc : c = '-' ∨ c.isDigit) :
    readValue (fuel + 1) (gap ++ c :: rest) =
      (readNumber? (c :: rest)).map fun (n, rest) => (.number n, rest) := by
  have hother (d : Char) (hd : ¬(d = '-' ∨ d.isDigit)) : c ≠ d := by
    rintro rfl
    exact hd hc
  have hplain : isGap c = false := by
    simp [isGap, hother ' ' (by decide), hother '\n' (by decide), hother '\t' (by decide),
      hother '\r' (by decide)]
  have hskip : skipGap (gap ++ c :: rest) = c :: rest := by
    rw [skipGap_append hgap, skipGap_cons hplain]
  simp [readValue, hskip, hother '\x22' (by decide), hother '[' (by decide),
    hother '{' (by decide), hother 't' (by decide), hother 'f' (by decide),
    hother 'n' (by decide)]

/-- What stands in brackets behind a line break is read as items. -/
theorem readValue_array (hgap : ∀ c ∈ gap, isGap c) (hplain : isGap c = false) (hne : c ≠ ']') :
    readValue (fuel + 1) (gap ++ '[' :: (newline level ++ c :: rest)) =
      (readItems fuel (c :: rest)).map fun (items, rest) => (.array items, rest) := by
  rw [readValue, skipGap_append hgap, skipGap_cons (by decide)]
  simp [skipGap_newline_cons hplain, hne]

/-- What stands in braces behind a line break is read as members. -/
theorem readValue_object (hgap : ∀ c ∈ gap, isGap c) (hplain : isGap c = false)
    (hne : c ≠ '}') :
    readValue (fuel + 1) (gap ++ '{' :: (newline level ++ c :: rest)) =
      (readMembers fuel (c :: rest)).map fun (members, rest) => (.object members, rest) := by
  rw [readValue, skipGap_append hgap, skipGap_cons (by decide)]
  simp [skipGap_newline_cons hplain, hne]

namespace ReadsWritten

variable {value item : Json} {items : List Json} {member : String × Json}
  {members : List (String × Json)}

/-- A value takes one unit of fuel more than what is in it. -/
theorem value_succ (h : ReadsWritten fuel) (hvalue : isUnbroken value)
    (hfuel : (writeAt level value).length < fuel + 1) (hgap : ∀ c ∈ gap, isGap c)
    (hend : EndsNumber rest) :
    readValue (fuel + 1) (gap ++ (writeAt level value ++ rest)) = some (value, rest) := by
  have hskip {c behind} (hplain : isGap c = false) :
      skipGap (gap ++ c :: behind) = c :: behind := by
    rw [skipGap_append hgap, skipGap_cons hplain]
  cases value with
  | null => simp [writeAt, readValue, hskip (c := 'n') (by decide)]
  | bool value =>
    cases value with
    | true => simp [writeAt, readValue, hskip (c := 't') (by decide)]
    | false => simp [writeAt, readValue, hskip (c := 'f') (by decide)]
  | number number =>
    obtain ⟨c, behind, hwrite, hc⟩ := number.write_eq_cons
    have hread := readNumber?_write number hend
    rw [writeAt, hwrite, List.cons_append, readValue_number hgap hc, ← List.cons_append, ← hwrite,
      hread, Option.map_some]
  | string text =>
    simp [writeAt, quote, readValue, hskip (c := '\x22') (by decide), readString?_quote]
  | brokenString => cases hvalue
  | array items =>
    cases items with
    | nil =>
      simp [writeAt, readValue, hskip (c := '[') (by decide), skipGap_cons (c := ']') (by decide)]
    | cons item items =>
      rw [isUnbroken, areUnbroken, Bool.and_eq_true] at hvalue
      simp only [writeAt, newline, List.length_cons, List.length_append] at hfuel
      have hread := h.items (level + 1) [] level rest hvalue.1 hvalue.2 (by omega) (by simp)
      -- behind the line break stands the first item, and no closing bracket
      obtain ⟨c, behind, hitem, hplain, hne⟩ := writeAt_eq_cons (level + 1) item
      rw [hitem, List.nil_append, List.cons_append] at hread
      simp only [writeAt, hitem, List.cons_append, List.append_assoc, List.nil_append]
      rw [readValue_array hgap hplain hne, hread, Option.map_some]
  | object members =>
    cases members with
    | nil =>
      simp [writeAt, readValue, hskip (c := '{') (by decide),
        skipGap_cons (c := '}') (by decide)]
    | cons member members =>
      rw [isUnbroken] at hvalue
      simp only [writeAt, newline, List.length_cons, List.length_append] at hfuel
      have hread := h.members (level + 1) [] level rest hvalue (by omega) (by simp)
      -- here a quote stands behind the line break
      obtain ⟨key, value⟩ := member
      simp only [writeMember, quote, List.nil_append, List.cons_append, List.append_assoc] at hread
      simp only [writeAt, writeMember, quote, List.cons_append, List.append_assoc, List.nil_append]
      rw [readValue_object hgap (by decide) (by decide), hread, Option.map_some]

/-- Behind an item the reader meets a comma or the end of the array. -/
theorem items_succ (h : ReadsWritten fuel) {last : Nat} (hitem : isUnbroken item)
    (hitems : areUnbroken items)
    (hfuel : (writeAt level item).length + (writeItems level items).length + 1 < fuel + 1)
    (hgap : ∀ c ∈ gap, isGap c) :
    readItems (fuel + 1) (gap ++ (writeAt level item ++ (writeItems level items ++
      (newline last ++ ']' :: rest)))) = some (item :: items, rest) := by
  -- neither a comma nor a line break goes on with a number at the end of the item
  have hread {behind} (hend : EndsNumber behind) :=
    h.value level gap behind hitem (by omega) hgap hend
  cases items with
  | nil =>
    rw [writeItems, List.nil_append, readItems, hread endsNumber_newline]
    simp [skipGap_newline_cons (c := ']') (by decide)]
  | cons next items =>
    rw [areUnbroken, Bool.and_eq_true] at hitems
    simp only [writeItems, List.length_cons, List.length_append] at hfuel
    have hlater := h.items level (newline level) last rest hitems.1 hitems.2 (by omega)
      fun _ => isGap_of_mem_newline
    simp only [writeItems, List.cons_append, List.append_assoc]
    rw [readItems, hread (.cons (by decide))]
    simp [skipGap_cons (c := ',') (by decide), hlater]

/-- A member is read as its key and its value, and then a comma or the end of the object. -/
theorem members_succ (h : ReadsWritten fuel) {last : Nat}
    (hmembers : haveUnbroken (member :: members))
    (hfuel : (writeMember level member).length + (writeMembers level members).length + 1 < fuel + 1)
    (hgap : ∀ c ∈ gap, isGap c) :
    readMembers (fuel + 1) (gap ++ (writeMember level member ++ (writeMembers level members ++
      (newline last ++ '}' :: rest)))) = some (member :: members, rest) := by
  obtain ⟨key, value⟩ := member
  rw [haveUnbroken, Bool.and_eq_true] at hmembers
  simp only [writeMember, List.length_append] at hfuel
  have hread {behind} (hend : EndsNumber behind) :
      readValue fuel (' ' :: (writeAt level value ++ behind)) = some (value, behind) :=
    h.value level [' '] behind hmembers.1 (by omega) (by simp [isGap]) hend
  have hskip {behind} : skipGap (gap ++ '\x22' :: behind) = '\x22' :: behind := by
    rw [skipGap_append hgap, skipGap_cons (by decide)]
  simp only [writeMember, quote, List.cons_append, List.append_assoc, List.nil_append]
  cases members with
  | nil =>
    rw [writeMembers, List.nil_append, readMembers, hskip]
    simp [readPieces?_quote, joinPieces?_pieceOf, skipGap_cons (c := ':') (by decide),
      hread endsNumber_newline, skipGap_newline_cons (c := '}') (by decide)]
  | cons next members =>
    simp only [writeMembers, List.length_cons, List.length_append] at hfuel
    have hlater := h.members level (newline level) last rest hmembers.2 (by omega)
      fun _ => isGap_of_mem_newline
    simp only [writeMembers, List.cons_append, List.append_assoc]
    rw [readMembers, hskip]
    simp [readPieces?_quote, joinPieces?_pieceOf, skipGap_cons (c := ':') (by decide),
      hread (.cons (c := ',') (by decide)), skipGap_cons (c := ',') (by decide), hlater]

end ReadsWritten

/-- Fuel for the text of a value is fuel for the value, and so of items and members. -/
theorem readsWritten (fuel : Nat) : ReadsWritten fuel := by
  induction fuel with
  | zero =>
    refine ⟨fun _ _ _ _ hfuel => ?_, fun _ _ _ _ _ _ hfuel => ?_, fun _ _ _ _ _ hfuel => ?_⟩
    all_goals exact absurd hfuel (Nat.not_lt_zero _)
  | succ fuel ih =>
    exact ⟨fun _ _ _ => ih.value_succ, fun _ _ _ _ => ih.items_succ,
      fun _ _ _ _ => ih.members_succ⟩

/-- A value without broken strings is read from the text that it is written as. -/
theorem read?_write {value : Json} (h : isUnbroken value) : read? (write value) = some value := by
  have hread := (readsWritten ((writeAt 0 value).length + 1)).value 0 [] [] h
    (Nat.lt_succ_self _) (by simp) (by simp [EndsNumber])
  rw [List.nil_append, List.append_nil] at hread
  have htext : (write value).toList = writeAt 0 value := String.toList_ofList
  simp only [read?, htext, hread, Option.bind_eq_bind, Option.bind_some]
  rfl

end MediaShelf.Json
