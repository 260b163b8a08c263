import MediaShelf.Proofs.Json.RoundTrip

/-!
# Texts that are broken off

What the reader takes from the start of a text it takes as well when the text is longer. Only a
number at the very end of a text may go on. An object ends with its closing brace, so no part of the
text that it is written as can be read.

## Main definitions

* `Json.GoesOn` — what some fuel reads is also read from longer texts, with any more fuel

## Main results

* `Json.readPieces?_longer`, `Json.readNumber?_longer` — strings and numbers
* `Json.goesOn` — values, items and members
* `Json.read?_brokenOff` — no proper start of the text of an object is read
* `Json.read?_of_extract` — nor any proper part of its bytes
-/

namespace MediaShelf.Json

variable {text rest behind digits : List Char} {fuel more : Nat} {c : Char}

theorem skipGap_longer (h : skipGap text = c :: rest) (tail : List Char) :
    skipGap (text ++ tail) = c :: (rest ++ tail) := by
  unfold skipGap at h ⊢
  rw [List.dropWhile_append, h]
  rfl

/-! ### Strings -/

/-- An escape of one letter stands for its character. -/
theorem readPieces?_escape {d : Char} (h : escaped? c = some d) :
    readPieces? ('\\' :: c :: rest) =
      (readPieces? rest).map fun (pieces, rest) => (.char d :: pieces, rest) := by
  have hletter : c ≠ 'u' := by
    rintro rfl
    cases h
  rw [readPieces?, h]
  · cases readPieces? rest <;> rfl
  · exact fun _ _ _ _ _ hunit => absurd hunit hletter

/-- The closing quote of a string ends it, whatever follows. -/
theorem readPieces?_longer {pieces : List Piece} (h : readPieces? text = some (pieces, rest))
    (tail : List Char) : readPieces? (text ++ tail) = some (pieces, rest ++ tail) := by
  -- a piece in front of a string that is read from the longer text too
  have hstep {later : List Char} {piece : Piece} {pieces : List Piece}
      (ih : ∀ {pieces}, readPieces? later = some (pieces, rest) →
        readPieces? (later ++ tail) = some (pieces, rest ++ tail))
      (h : (readPieces? later).map (fun (pieces, rest) => (piece :: pieces, rest)) =
        some (pieces, rest)) :
      (readPieces? (later ++ tail)).map (fun (pieces, rest) => (piece :: pieces, rest)) =
        some (pieces, rest ++ tail) := by
    obtain ⟨⟨inner, behind⟩, hread, heq⟩ := Option.map_eq_some_iff.mp h
    obtain ⟨rfl, rfl⟩ : piece :: inner = pieces ∧ behind = rest := by simpa using heq
    rw [ih hread, Option.map_some]
  induction text using readPieces?.induct generalizing pieces with
  | case1 => cases h
  | case2 later =>
    obtain ⟨rfl, rfl⟩ : [] = pieces ∧ later = rest := by simpa [readPieces?] using h
    simp [readPieces?]
  | case3 a b c d later ih =>
    cases hunit : hexUnit? a b c d with
    | none => simp [readPieces?, hunit] at h
    | some n =>
      simp only [List.cons_append]
      rw [readPieces?_unit hunit] at h ⊢
      exact hstep ih h
  | case4 c later hunit ih =>
    cases hescape : escaped? c with
    | none =>
      rw [readPieces?, hescape] at h
      · cases h
      · exact hunit
    | some d =>
      simp only [List.cons_append]
      rw [readPieces?_escape hescape] at h ⊢
      exact hstep ih h
  | case5 c later hquote hunit hescape hbad =>
    rw [readPieces?, if_pos hbad] at h
    · cases h
    · exact hquote
    · exact hunit
    · exact hescape
  | case6 c later hquote hunit hescape hgood ih =>
    obtain ⟨hplain, hslash⟩ : ¬c.toNat < 32 ∧ c ≠ '\\' := by simpa using hgood
    rw [List.cons_append]
    rw [readPieces?_plain hquote hslash hplain] at h ⊢
    exact hstep ih h

theorem readString?_longer {value : Json} (h : readString? text = some (value, rest))
    (tail : List Char) : readString? (text ++ tail) = some (value, rest ++ tail) := by
  unfold readString? at h ⊢
  obtain ⟨⟨pieces, behind⟩, hread, hjoin⟩ := Option.bind_eq_some_iff.mp h
  rw [readPieces?_longer hread]
  cases hchars : joinPieces? pieces with
  | none =>
    obtain ⟨rfl, rfl⟩ : .brokenString = value ∧ behind = rest := by simpa [hchars] using hjoin
    simp [hchars]
  | some chars =>
    obtain ⟨rfl, rfl⟩ : .string (String.ofList chars) = value ∧ behind = rest := by
      simpa [hchars] using hjoin
    simp [hchars]

/-! ### Numbers -/

theorem takeDigits_longer (h : takeDigits text = (digits, rest)) (hrest : rest ≠ [])
    (tail : List Char) : takeDigits (text ++ tail) = (digits, rest ++ tail) := by
  obtain ⟨rfl, rfl⟩ := Prod.mk.inj h
  -- the digits end at a character of the text
  have hlonger : (text.takeWhile Char.isDigit).length ≠ text.length := by
    intro hall
    have hlength := congrArg List.length (text.takeWhile_append_dropWhile (p := Char.isDigit))
    rw [List.length_append, hall] at hlength
    exact hrest (List.length_eq_zero_iff.mp (by omega))
  rw [takeDigits, List.takeWhile_append, if_neg hlonger, List.dropWhile_append]
  simp [hrest]

theorem readFraction?_longer (h : readFraction? text = some (digits, rest)) (hrest : rest ≠ [])
    (tail : List Char) : readFraction? (text ++ tail) = some (digits, rest ++ tail) := by
  cases text with
  | nil =>
    obtain ⟨-, rfl⟩ : [] = digits ∧ [] = rest := by simpa [readFraction?] using h
    exact absurd rfl hrest
  | cons c later =>
    by_cases hstop : c = '.'
    · subst hstop
      obtain ⟨found, behind, htake⟩ : ∃ found behind, takeDigits later = (found, behind) :=
        ⟨_, _, rfl⟩
      obtain ⟨hfound, rfl, rfl⟩ : found ≠ [] ∧ found = digits ∧ behind = rest := by
        simpa [readFraction?, htake] using h
      simp [readFraction?, takeDigits_longer htake hrest tail, hfound]
    · have hother (later : List Char) : readFraction? (c :: later) = some ([], c :: later) :=
        readFraction?_of_ne (by simpa using hstop)
      rw [hother] at h
      obtain ⟨rfl, rfl⟩ : [] = digits ∧ c :: later = rest := by simpa using h
      exact hother _

/-- The digits of an exponent behind its sign. -/
def readPower? (isNegative : Bool) (text : List Char) : Option (Option Int × List Char) :=
  let (digits, rest) := takeDigits text
  if digits.isEmpty then none
  else
    let n : Int := Nat.ofDigitChars 10 digits 0
    some (some (if isNegative then -n else n), rest)

theorem readPower?_longer {isNegative : Bool} {exponent : Option Int}
    (h : readPower? isNegative text = some (exponent, rest)) (hrest : rest ≠ [])
    (tail : List Char) :
    readPower? isNegative (text ++ tail) = some (exponent, rest ++ tail) := by
  obtain ⟨found, behind, htake⟩ : ∃ found behind, takeDigits text = (found, behind) := ⟨_, _, rfl⟩
  simp only [readPower?, htake] at h
  split at h
  · cases h
  · rename_i hfound
    obtain ⟨rfl, rfl⟩ := Prod.mk.inj (Option.some.inj h)
    simp only [readPower?, takeDigits_longer htake hrest tail, if_neg hfound]

/-- Behind a sign or none stand the digits of the exponent. -/
theorem exists_readExponent?_eq (hletter : c = 'e' ∨ c = 'E') (hne : text ≠ []) :
    ∃ isNegative behind, ∀ tail,
      readExponent? (c :: (text ++ tail)) = readPower? isNegative (behind ++ tail) := by
  have hpower : (c == 'e' || c == 'E') = true := by simpa using hletter
  obtain ⟨sign, later, rfl⟩ := List.exists_cons_of_ne_nil hne
  by_cases hminus : sign = '-'
  · exact ⟨true, later, fun tail => by simp [readExponent?, hpower, readPower?, hminus]⟩
  · by_cases hplus : sign = '+'
    · exact ⟨false, later, fun tail => by simp [readExponent?, hpower, readPower?, hplus]⟩
    · exact ⟨false, sign :: later, fun tail => by
        simp [readExponent?, hpower, readPower?, hminus, hplus]⟩

theorem readExponent?_longer {exponent : Option Int}
    (h : readExponent? text = some (exponent, rest)) (hrest : rest ≠ []) (tail : List Char) :
    readExponent? (text ++ tail) = some (exponent, rest ++ tail) := by
  cases text with
  | nil =>
    obtain ⟨-, rfl⟩ : none = exponent ∧ [] = rest := by simpa [readExponent?] using h
    exact absurd rfl hrest
  | cons c later =>
    by_cases hletter : c = 'e' ∨ c = 'E'
    · have hne : later ≠ [] := by
        rintro rfl
        obtain rfl | rfl := hletter <;> cases h
      obtain ⟨isNegative, behind, hread⟩ := exists_readExponent?_eq hletter hne
      rw [List.cons_append, hread]
      have hshort := hread []
      rw [List.append_nil, List.append_nil, h] at hshort
      exact readPower?_longer hshort.symm hrest tail
    · obtain ⟨he, hE⟩ := not_or.mp hletter
      have hother (later : List Char) : readExponent? (c :: later) = some (none, c :: later) := by
        simp [readExponent?, he, hE]
      rw [hother] at h
      obtain ⟨rfl, rfl⟩ : none = exponent ∧ c :: later = rest := by simpa using h
      exact hother _

/-- A number behind its sign. -/
def readUnsigned? (isNegative : Bool) (text : List Char) : Option (Number × List Char) := do
  let (whole, text) := takeDigits text
  if whole.isEmpty || (whole.length > 1 && whole.head? == some '0') then none
  else
    let (fraction, text) ← readFraction? text
    let (exponent, text) ← readExponent? text
    if fraction.isEmpty && exponent.isNone then
      pure (.integer isNegative (Nat.ofDigitChars 10 whole 0), text)
    else
      pure (.decimal isNegative (Nat.ofDigitChars 10 (whole ++ fraction) 0)
        (exponent.getD 0 - fraction.length), text)

theorem readUnsigned?_longer {isNegative : Bool} {number : Number}
    (h : readUnsigned? isNegative text = some (number, rest)) (hrest : rest ≠ [])
    (tail : List Char) : readUnsigned? isNegative (text ++ tail) = some (number, rest ++ tail) := by
  obtain ⟨whole, afterWhole, htake⟩ : ∃ whole behind, takeDigits text = (whole, behind) :=
    ⟨_, _, rfl⟩
  simp only [readUnsigned?, htake] at h ⊢
  split at h
  · cases h
  · rename_i hwhole
    obtain ⟨⟨fraction, afterFraction⟩, hfraction, h⟩ := Option.bind_eq_some_iff.mp h
    obtain ⟨⟨exponent, afterExponent⟩, hexponent, h⟩ := Option.bind_eq_some_iff.mp h
    obtain rfl : afterExponent = rest := by
      dsimp only at h
      split at h <;> exact (Prod.mk.inj (Option.some.inj h)).2
    -- if something follows the exponent, then something follows what stands in front of it
    have hfractionRest : afterFraction ≠ [] := by
      rintro rfl
      exact hrest (Prod.mk.inj (Option.some.inj hexponent)).2.symm
    have hwholeRest : afterWhole ≠ [] := by
      rintro rfl
      exact hfractionRest (Prod.mk.inj (Option.some.inj hfraction)).2.symm
    simp only [takeDigits_longer htake hwholeRest tail, if_neg hwhole,
      readFraction?_longer hfraction hfractionRest tail,
      readExponent?_longer hexponent hrest tail, Option.bind_eq_bind, Option.bind_some]
    dsimp only at h
    split at h
    · rename_i hinteger
      rw [if_pos hinteger]
      obtain ⟨rfl, -⟩ := Prod.mk.inj (Option.some.inj h)
      rfl
    · rename_i hdecimal
      rw [if_neg hdecimal]
      obtain ⟨rfl, -⟩ := Prod.mk.inj (Option.some.inj h)
      rfl

/-- A number that something follows does not go on. -/
theorem readNumber?_longer {number : Number} (h : readNumber? text = some (number, rest))
    (hrest : rest ≠ []) (tail : List Char) :
    readNumber? (text ++ tail) = some (number, rest ++ tail) := by
  cases text with
  | nil => simp [readNumber?, takeDigits] at h
  | cons c later =>
    by_cases hminus : c = '-'
    · subst hminus
      have hread : readUnsigned? true later = some (number, rest) := h
      exact readUnsigned?_longer hread hrest tail
    · have hread (text : List Char) :
          readNumber? (c :: text) = readUnsigned? false (c :: text) := by
        simp [readNumber?, readUnsigned?, hminus]
      simp only [List.cons_append, hread] at h ⊢
      exact readUnsigned?_longer h hrest tail

/-! ### Values -/

/-- Whether the value is a number, which may go on where a text ends. -/
def isNumber : Json → Bool
  | .number _ => true
  | _ => false

/-- What the fuel is enough to read is also read from a longer text, with any more fuel. A number
that nothing follows is excepted. -/
structure GoesOn (fuel : Nat) : Prop where
  value : ∀ {more text value rest} tail, fuel ≤ more → (isNumber value → rest ≠ []) →
    readValue fuel text = some (value, rest) →
      readValue more (text ++ tail) = some (value, rest ++ tail)
  items : ∀ {more text items rest} tail, fuel ≤ more →
    readItems fuel text = some (items, rest) →
      readItems more (text ++ tail) = some (items, rest ++ tail)
  members : ∀ {more text members rest} tail, fuel ≤ more →
    readMembers fuel text = some (members, rest) →
      readMembers more (text ++ tail) = some (members, rest ++ tail)

theorem readValue_nil : readValue fuel [] = none := by
  cases fuel with
  | zero => rfl
  | succ fuel => simp [readValue, skipGap, readNumber?, takeDigits]

theorem readItems_nil : readItems fuel [] = none := by
  cases fuel with
  | zero => rfl
  | succ fuel => simp [readItems, readValue_nil]

theorem readMembers_nil : readMembers fuel [] = none := by
  cases fuel with
  | zero => rfl
  | succ fuel => simp [readMembers, skipGap]

/-- A number starts with a digit or a minus. -/
theorem exists_of_readNumber? {number : Number} (h : readNumber? text = some (number, rest)) :
    ∃ c later, text = c :: later ∧ (c = '-' ∨ c.isDigit) := by
  cases text with
  | nil => simp [readNumber?, takeDigits] at h
  | cons c later =>
    refine ⟨c, later, rfl, ?_⟩
    by_contra hc
    obtain ⟨hminus, hdigit⟩ := not_or.mp hc
    simp [readNumber?, takeDigits, hminus, hdigit] at h

/-- Behind a bracket that is not closed at once something follows. -/
theorem exists_cons_of_open {closing : Char}
    (hopen : ∀ rest, skipGap text = closing :: rest → False) (hne : skipGap text ≠ []) :
    ∃ c rest, skipGap text = c :: rest ∧ c ≠ closing := by
  obtain ⟨c, rest, hskip⟩ := List.exists_cons_of_ne_nil hne
  refine ⟨c, rest, hskip, ?_⟩
  rintro rfl
  exact hopen rest hskip

/-- What stands behind an opening bracket: the closing one, or items up to it. -/
def readArray? (fuel : Nat) (text : List Char) : Option (Json × List Char) :=
  match skipGap text with
  | ']' :: rest => some (.array [], rest)
  | rest => (readItems fuel rest).map fun (items, rest) => (.array items, rest)

/-- What stands behind an opening brace: the closing one, or members up to it. -/
def readObject? (fuel : Nat) (text : List Char) : Option (Json × List Char) :=
  match skipGap text with
  | '}' :: rest => some (.object [], rest)
  | rest => (readMembers fuel rest).map fun (members, rest) => (.object members, rest)

theorem readValue_bracket (h : skipGap text = '[' :: rest) :
    readValue (fuel + 1) text = readArray? fuel rest := by
  rw [readValue, h, readArray?]
  rfl

theorem readValue_brace (h : skipGap text = '{' :: rest) :
    readValue (fuel + 1) text = readObject? fuel rest := by
  rw [readValue, h, readObject?]
  rfl

/-- What starts like a number behind its blanks is read as one. -/
theorem readValue_of_numeral (h : skipGap text = c :: rest) (hc : c = '-' ∨ c.isDigit) :
    readValue (fuel + 1) text =
      (readNumber? (c :: rest)).map fun (n, rest) => (.number n, rest) := by
  have hsplit : text = text.takeWhile isGap ++ c :: rest := by
    rw [← h]
    exact List.takeWhile_append_dropWhile.symm
  rw [hsplit]
  exact readValue_number (List.all_eq_true.mp List.all_takeWhile) hc

namespace GoesOn

variable {value : Json} {items : List Json} {members : List (String × Json)}

theorem array (h : GoesOn fuel) (tail : List Char) (hmore : fuel ≤ more)
    (hread : readArray? fuel text = some (value, rest)) :
    readArray? more (text ++ tail) = some (value, rest ++ tail) := by
  unfold readArray? at hread
  split at hread
  · rename_i behind hclose
    obtain ⟨rfl, rfl⟩ : .array [] = value ∧ behind = rest := by simpa using hread
    simp [readArray?, skipGap_longer hclose]
  · rename_i hopen
    obtain ⟨⟨items, behind⟩, hitems, heq⟩ := Option.map_eq_some_iff.mp hread
    obtain ⟨rfl, rfl⟩ : .array items = value ∧ behind = rest := by simpa using heq
    obtain ⟨c, inner, hinner, hne⟩ := exists_cons_of_open hopen fun hnil => by
      rw [hnil, readItems_nil] at hitems
      cases hitems
    have hlonger := h.items tail hmore hitems
    rw [hinner, List.cons_append] at hlonger
    simp [readArray?, skipGap_longer hinner, hne, hlonger]

theorem object (h : GoesOn fuel) (tail : List Char) (hmore : fuel ≤ more)
    (hread : readObject? fuel text = some (value, rest)) :
    readObject? more (text ++ tail) = some (value, rest ++ tail) := by
  unfold readObject? at hread
  split at hread
  · rename_i behind hclose
    obtain ⟨rfl, rfl⟩ : .object [] = value ∧ behind = rest := by simpa using hread
    simp [readObject?, skipGap_longer hclose]
  · rename_i hopen
    obtain ⟨⟨members, behind⟩, hmembers, heq⟩ := Option.map_eq_some_iff.mp hread
    obtain ⟨rfl, rfl⟩ : .object members = value ∧ behind = rest := by simpa using heq
    obtain ⟨c, inner, hinner, hne⟩ := exists_cons_of_open hopen fun hnil => by
      rw [hnil, readMembers_nil] at hmembers
      cases hmembers
    have hlonger := h.members tail hmore hmembers
    rw [hinner, List.cons_append] at hlonger
    simp [readObject?, skipGap_longer hinner, hne, hlonger]

/-- A value is told by its first character, and that is the same in the longer text. -/
theorem value_succ (h : GoesOn fuel) (tail : List Char) (hmore : fuel + 1 ≤ more)
    (hrest : isNumber value → rest ≠ []) (hread : readValue (fuel + 1) text = some (value, rest)) :
    readValue more (text ++ tail) = some (value, rest ++ tail) := by
  obtain ⟨more, rfl⟩ : ∃ k, more = k + 1 := ⟨more - 1, by omega⟩
  have hmore : fuel ≤ more := by omega
  have hstarts := hread
  unfold readValue at hread
  split at hread
  · -- a string
    rename_i later hskip
    rw [readValue, skipGap_longer hskip]
    exact readString?_longer hread tail
  · rename_i later hskip
    rw [readValue_bracket hskip] at hstarts
    rw [readValue_bracket (skipGap_longer hskip tail)]
    exact h.array tail hmore hstarts
  · rename_i later hskip
    rw [readValue_brace hskip] at hstarts
    rw [readValue_brace (skipGap_longer hskip tail)]
    exact h.object tail hmore hstarts
  -- the words for truth values and for nothing
  iterate 3
    · rename_i later hskip
      obtain ⟨rfl, rfl⟩ := Prod.mk.inj (Option.some.inj hread)
      simp [readValue, skipGap_longer hskip]
  · obtain ⟨⟨number, behind⟩, hnumber, heq⟩ := Option.map_eq_some_iff.mp hread
    obtain ⟨rfl, rfl⟩ : .number number = value ∧ behind = rest := by simpa using heq
    obtain ⟨c, later, hskip, hc⟩ := exists_of_readNumber? hnumber
    rw [hskip] at hnumber
    rw [readValue_of_numeral (skipGap_longer hskip tail) hc, ← List.cons_append,
      readNumber?_longer hnumber (hrest rfl) tail, Option.map_some]

theorem items_succ (h : GoesOn fuel) (tail : List Char) (hmore : fuel + 1 ≤ more)
    (hread : readItems (fuel + 1) text = some (items, rest)) :
    readItems more (text ++ tail) = some (items, rest ++ tail) := by
  obtain ⟨more, rfl⟩ : ∃ k, more = k + 1 := ⟨more - 1, by omega⟩
  have hmore : fuel ≤ more := by omega
  rw [readItems] at hread ⊢
  obtain ⟨⟨item, behind⟩, hitem, hread⟩ := Option.bind_eq_some_iff.mp hread
  -- a comma or a bracket follows the item
  have hbehind : behind ≠ [] := by
    rintro rfl
    simp [skipGap] at hread
  rw [h.value tail hmore (fun _ => hbehind) hitem]
  dsimp only at hread
  split at hread
  · rename_i later hskip
    obtain ⟨rfl, rfl⟩ : [item] = items ∧ later = rest := by simpa using hread
    simp [skipGap_longer hskip]
  · rename_i later hskip
    obtain ⟨⟨others, last⟩, hothers, heq⟩ := Option.bind_eq_some_iff.mp hread
    obtain ⟨rfl, rfl⟩ : item :: others = items ∧ last = rest := by simpa using heq
    simp [skipGap_longer hskip, h.items tail hmore hothers]
  · cases hread

theorem members_succ (h : GoesOn fuel) (tail : List Char) (hmore : fuel + 1 ≤ more)
    (hread : readMembers (fuel + 1) text = some (members, rest)) :
    readMembers more (text ++ tail) = some (members, rest ++ tail) := by
  obtain ⟨more, rfl⟩ : ∃ k, more = k + 1 := ⟨more - 1, by omega⟩
  have hmore : fuel ≤ more := by omega
  rw [readMembers] at hread ⊢
  split at hread
  · rename_i quoted hskip
    obtain ⟨⟨pieces, afterKey⟩, hpieces, hread⟩ := Option.bind_eq_some_iff.mp hread
    obtain ⟨key, hkey, hread⟩ := Option.bind_eq_some_iff.mp hread
    dsimp only at hread
    split at hread
    · rename_i later hcolon
      obtain ⟨⟨value, behind⟩, hvalue, hread⟩ := Option.bind_eq_some_iff.mp hread
      have hbehind : behind ≠ [] := by
        rintro rfl
        simp [skipGap] at hread
      have hvalue := h.value tail hmore (fun _ => hbehind) hvalue
      dsimp only at hread
      split at hread
      · rename_i last hclose
        obtain ⟨rfl, rfl⟩ : [(String.ofList key, value)] = members ∧ last = rest := by
          simpa using hread
        simp [skipGap_longer hskip, readPieces?_longer hpieces, hkey, skipGap_longer hcolon, hvalue,
          skipGap_longer hclose]
      · rename_i next hcomma
        obtain ⟨⟨others, last⟩, hothers, heq⟩ := Option.bind_eq_some_iff.mp hread
        obtain ⟨rfl, rfl⟩ : (String.ofList key, value) :: others = members ∧ last = rest := by
          simpa using heq
        simp [skipGap_longer hskip, readPieces?_longer hpieces, hkey, skipGap_longer hcolon, hvalue,
          skipGap_longer hcomma, h.members tail hmore hothers]
      · cases hread
    · cases hread
  · cases hread

end GoesOn

/-- What some fuel reads in a text, more fuel reads in a longer one. -/
theorem goesOn (fuel : Nat) : GoesOn fuel := by
  induction fuel with
  | zero =>
    refine ⟨fun _ _ _ hread => ?_, fun _ _ hread => ?_, fun _ _ hread => ?_⟩
    all_goals cases hread
  | succ fuel ih => exact ⟨ih.value_succ, ih.items_succ, ih.members_succ⟩

/-! ### Objects -/

/-- What starts with a brace is no number. -/
theorem isNumber_of_readValue_brace {value : Json}
    (h : readValue fuel ('{' :: text) = some (value, rest)) : isNumber value = false := by
  cases fuel with
  | zero => cases h
  | succ fuel =>
    rw [readValue_brace (skipGap_cons (by decide)), readObject?] at h
    split at h
    · obtain ⟨rfl, -⟩ := Prod.mk.inj (Option.some.inj h)
      rfl
    · obtain ⟨⟨members, behind⟩, -, heq⟩ := Option.map_eq_some_iff.mp h
      obtain ⟨rfl, -⟩ := Prod.mk.inj heq
      rfl

theorem exists_write_object (members : List (String × Json)) :
    ∃ later, (write (.object members)).toList = '{' :: later := by
  cases members <;> exact ⟨_, String.toList_ofList⟩

/-- The text of an object is read up to its closing brace or not at all. -/
theorem read?_brokenOff {members : List (String × Json)} {part : String}
    (hunbroken : isUnbroken (.object members))
    (hpart : part.toList <+: (write (.object members)).toList)
    (hne : part ≠ write (.object members)) : read? part = none := by
  by_contra hread
  obtain ⟨value, hread⟩ := Option.ne_none_iff_exists'.mp hread
  obtain ⟨⟨value, rest⟩, hvalue, -⟩ := Option.bind_eq_some_iff.mp hread
  obtain ⟨tail, htail⟩ := hpart
  -- what was read is no number, because the first character is the opening brace
  have hnumber : isNumber value = false := by
    obtain ⟨later, hlater⟩ := exists_write_object members
    cases hchars : part.toList with
    | nil =>
      rw [hchars, readValue_nil] at hvalue
      cases hvalue
    | cons c inner =>
      obtain rfl : c = '{' := by
        rw [hchars, hlater] at htail
        exact (List.cons.inj htail).1
      rw [hchars] at hvalue
      exact isNumber_of_readValue_brace hvalue
  have hlonger : readValue ((writeAt 0 (.object members)).length + 1)
      (writeAt 0 (.object members)) = some (value, rest ++ tail) := by
    have htext : part.toList ++ tail = writeAt 0 (.object members) := by
      rw [htail, write, String.toList_ofList]
    rw [← htext]
    refine (goesOn _).value tail ?_ (by simp [hnumber]) hvalue
    simp
  -- but the whole text is read to its end, so there is no tail
  have hwhole := (readsWritten ((writeAt 0 (.object members)).length + 1)).value 0 [] [] hunbroken
    (Nat.lt_succ_self _) (by simp) (by simp [EndsNumber])
  rw [List.nil_append, List.append_nil, hlonger] at hwhole
  obtain ⟨-, htailNil⟩ := List.append_eq_nil_iff.mp (Prod.mk.inj (Option.some.inj hwhole)).2
  rw [htailNil, List.append_nil] at htail
  exact hne (String.toList_inj.mp htail)

/-- The first bytes of a text, if they are a text at all, are a start of it. -/
theorem toList_isPrefix_of_extract {part whole : String} {size : Nat}
    (hsize : size ≤ whole.toUTF8.size) (h : part.toUTF8 = whole.toUTF8.extract 0 size) :
    part.toList <+: whole.toList := by
  have hbytes : part.toUTF8 ++ whole.toUTF8.extract size whole.toUTF8.size = whole.toUTF8 := by
    rw [h, ByteArray.extract_append_extract, Nat.zero_min, Nat.max_eq_right hsize,
      ByteArray.extract_zero_size]
  unfold String.toUTF8 at hbytes
  rw [← String.utf8Encode_toList, ← String.utf8Encode_toList] at hbytes
  exact List.isPrefix_of_utf8Encode_append_eq_utf8Encode _ hbytes

/-- An object is not read from a part of the bytes of its text. -/
theorem read?_of_extract {members : List (String × Json)} {part : String} {size : Nat}
    (hunbroken : isUnbroken (.object members))
    (hsize : size < (write (.object members)).toUTF8.size)
    (h : String.fromUTF8? ((write (.object members)).toUTF8.extract 0 size) = some part) :
    read? part = none := by
  have hbytes : part.toUTF8 = (write (.object members)).toUTF8.extract 0 size := by
    unfold String.fromUTF8? at h
    split at h
    · cases h
      rfl
    · cases h
  refine read?_brokenOff hunbroken (toList_isPrefix_of_extract (Nat.le_of_lt hsize) hbytes) ?_
  intro heq
  have hlength := congrArg ByteArray.size hbytes
  rw [heq, ByteArray.size_extract] at hlength
  omega

end MediaShelf.Json
