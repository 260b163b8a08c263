import MediaShelf.Text.Lowercase

/-!
# Lower case in ASCII

## Main results

* `lowercase_of_ascii` — ASCII text is lowered letter by letter
* `toLower_of_not_isUpper`, `toNat_toLower` — capital letters become small ones, and nothing but
  them changes
-/

namespace MediaShelf.Text

variable {c : Char}

/-! ### Ranges of characters -/

theorem isUpper_iff : c.isUpper ↔ 65 ≤ c.toNat ∧ c.toNat ≤ 90 :=
  decide_eq_true_iff

theorem isLower_iff : c.isLower ↔ 97 ≤ c.toNat ∧ c.toNat ≤ 122 := by
  change (decide ('a'.val ≤ c.val) && decide (c.val ≤ 'z'.val)) = true ↔ _
  rw [Bool.and_eq_true, decide_eq_true_iff, decide_eq_true_iff]
  rfl

theorem isDigit_iff : c.isDigit ↔ 48 ≤ c.toNat ∧ c.toNat ≤ 57 := by
  change (decide ('0'.val ≤ c.val) && decide (c.val ≤ '9'.val)) = true ↔ _
  rw [Bool.and_eq_true, decide_eq_true_iff, decide_eq_true_iff]
  rfl

theorem isAlpha_iff : c.isAlpha ↔ c.isUpper ∨ c.isLower := by
  change (c.isUpper || c.isLower) = true ↔ _
  rw [Bool.or_eq_true]

theorem isAlphanum_iff : c.isAlphanum ↔ c.isUpper ∨ c.isLower ∨ c.isDigit := by
  change (c.isUpper || c.isLower || c.isDigit) = true ↔ _
  rw [Bool.or_eq_true, Bool.or_eq_true, or_assoc]

/-! ### Letters -/

theorem lowercaseAfter_of_ascii {before text : List Char} (h : ∀ c ∈ text, c.toNat < 128) :
    lowercaseAfter before text = text.map Char.toLower := by
  induction text generalizing before with
  | nil => rfl
  | cons c text ih =>
    have hc := h c List.mem_cons_self
    have hdotted : (c.toNat == 0x130) = false := by
      rw [beq_eq_false_iff_ne]
      omega
    have hsigma : (c.toNat == 0x3A3) = false := by
      rw [beq_eq_false_iff_ne]
      omega
    have hrest : lowercaseAfter (c :: before) text = text.map Char.toLower :=
      ih fun d hd => h d (List.mem_cons_of_mem _ hd)
    simp [lowercaseAfter, hdotted, hsigma, lowerChar, hc, hrest]

/-- ASCII text is lowered letter by letter. -/
theorem lowercase_of_ascii {text : List Char} (h : ∀ c ∈ text, c.toNat < 128) :
    lowercase text = text.map Char.toLower :=
  lowercaseAfter_of_ascii h

theorem toLower_of_not_isUpper (h : c.isUpper = false) : c.toLower = c :=
  dif_neg (of_decide_eq_false h)

theorem toNat_toLower (h : c.isUpper) : c.toLower.toNat = c.toNat + 32 := by
  obtain ⟨-, hlast⟩ := isUpper_iff.mp h
  have hsum : (c.val + ('a'.val - 'A'.val)).toNat = c.toNat + 32 := by
    have hval : c.val.toNat = c.toNat := rfl
    have hdistance : ('a'.val - 'A'.val).toNat = 32 := by decide
    rw [UInt32.toNat_add, hdistance]
    omega
  rw [← hsum]
  exact congrArg Char.toNat (dif_pos (of_decide_eq_true h))

end MediaShelf.Text
