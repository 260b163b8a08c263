import Mathlib.Algebra.Group.Nat.Defs
import MediaShelf.Text.Numeral

/-!
# Numerals read back

## Main definitions

* `AsciiDigits`, `Numeral` — texts of digits, and the numerals of a number among them

## Main results

* `decimal_injective` — numbers with the same digits are the same
* `length_decimal`, `length_decimal_eq_four_iff` — how many digits a number has
* `numeral_of_length_le` — nine digits fit in a word
* `readWord?_decimal`, `readWord?_twoDigits` — digits read back as the number they were written for
-/

namespace MediaShelf.Text

variable {text : List Char}

theorem decimal_injective {m n : Nat} (h : decimal m = decimal n) : m = n := by
  rw [← Nat.ofDigitChars_ten_toDigits (n := m), ← Nat.ofDigitChars_ten_toDigits (n := n)]
  exact congrArg (Nat.ofDigitChars 10 · 0) h

theorem isDigit_of_mem_decimal {n : Nat} {c : Char} (h : c ∈ decimal n) : c.isDigit :=
  Nat.isDigit_of_mem_toDigits (by decide) (by decide) h

theorem decimal_ne_nil (n : Nat) : decimal n ≠ [] := Nat.toDigits_ne_nil

/-- A number has as many digits as the power of ten below it says. -/
theorem length_decimal {n k : Nat} (hlow : 10 ^ k ≤ n) (hhigh : n < 10 ^ (k + 1)) :
    (decimal n).length = k + 1 := by
  have hmost : (decimal n).length ≤ k + 1 :=
    (Nat.length_toDigits_le_iff (by decide) k.succ_pos).mpr hhigh
  have hleast : ¬ (decimal n).length ≤ k := by
    intro h
    have hpos : 0 < k := Nat.lt_of_lt_of_le Nat.length_toDigits_pos h
    have hsmall : n < 10 ^ k := (Nat.length_toDigits_le_iff (by decide) hpos).mp h
    exact absurd hlow (Nat.not_le_of_lt hsmall)
  omega

/-- The last two digits of a number stand behind those of its hundreds. -/
theorem exists_decimal_eq_hundreds {n : Nat} (h : 100 ≤ n) :
    ∃ a b, decimal n = decimal (n / 100) ++ [a, b] := by
  have hlast : decimal n = decimal (n / 10) ++ [(n % 10).digitChar] :=
    Nat.toDigits_of_base_le (by decide) (by omega)
  have hfront : decimal (n / 10) = decimal (n / 10 / 10) ++ [(n / 10 % 10).digitChar] :=
    Nat.toDigits_of_base_le (by decide) (by omega)
  rw [Nat.div_div_eq_div_mul] at hfront
  exact ⟨_, _, by rw [hlast, hfront, List.append_assoc, List.singleton_append]⟩

/-- The numbers with four digits. -/
theorem length_decimal_eq_four_iff {n : Nat} : (decimal n).length = 4 ↔ 1000 ≤ n ∧ n ≤ 9999 := by
  have hfour : (decimal n).length ≤ 4 ↔ n < 10 ^ 4 :=
    Nat.length_toDigits_le_iff (by decide) (by decide)
  have hthree : (decimal n).length ≤ 3 ↔ n < 10 ^ 3 :=
    Nat.length_toDigits_le_iff (by decide) (by decide)
  omega

theorem isDigit_of_mem_twoDigits {n : Nat} {c : Char} (h : c ∈ twoDigits n) : c.isDigit := by
  rcases List.mem_append.mp h with h | h
  · rw [List.eq_of_mem_replicate h]
    decide
  · exact isDigit_of_mem_decimal h

theorem twoDigits_ne_nil (n : Nat) : twoDigits n ≠ [] :=
  List.append_ne_nil_of_right_ne_nil _ (decimal_ne_nil n)

/-- ASCII digits whose value fits 32 bits are read. -/
theorem readWord?_of_isDigit (hne : text ≠ []) (hdigits : ∀ c ∈ text, c.isDigit)
    {n : UInt32} (hvalue : Nat.ofDigitChars 10 text 0 = n.toNat) : readWord? text = some n := by
  have hread : readDigits? text = some n.toNat := by
    rw [readDigits?, if_pos, hvalue]
    simpa [hne] using hdigits
  obtain ⟨c, rest, rfl⟩ := List.exists_cons_of_ne_nil hne
  -- a sign in front would be dropped
  have hplus : c ≠ '+' := by
    rintro rfl
    exact absurd (hdigits '+' List.mem_cons_self) (by decide)
  simp [readWord?, hplus, hread, n.toNat_lt]

/-- The text consists of ASCII digits, at least one. -/
def AsciiDigits (text : List Char) : Prop := text ≠ [] ∧ ∀ c ∈ text, c.isDigit

/-- The text is a numeral of the number, which may have zeros in front. -/
structure Numeral (text : List Char) (n : UInt32) : Prop where
  digits : AsciiDigits text
  value : Nat.ofDigitChars 10 text 0 = n.toNat

instance : Decidable (AsciiDigits text) :=
  decidable_of_iff (text ≠ [] ∧ text.all Char.isDigit) (by simp [AsciiDigits])

instance {n : UInt32} : Decidable (Numeral text n) :=
  decidable_of_iff (AsciiDigits text ∧ Nat.ofDigitChars 10 text 0 = n.toNat)
    ⟨fun h => ⟨h.1, h.2⟩, fun h => ⟨h.digits, h.value⟩⟩

/-- A numeral is read as its number. -/
theorem Numeral.readWord? {n : UInt32} (h : Numeral text n) : readWord? text = some n :=
  readWord?_of_isDigit h.digits.1 h.digits.2 h.value

/-- Digits that are read as a number are a numeral of it. -/
theorem numeral_of_readWord? {n : UInt32} (h : AsciiDigits text) (hread : readWord? text = some n) :
    Numeral text n where
  digits := h
  value := by
    have hdigits : readDigits? text = some (Nat.ofDigitChars 10 text 0) := by
      rw [readDigits?, if_pos]
      simpa [h.1] using h.2
    obtain ⟨c, rest, rfl⟩ := List.exists_cons_of_ne_nil h.1
    have hplus : c ≠ '+' := by
      rintro rfl
      exact absurd (h.2 '+' List.mem_cons_self) (by decide)
    have hword : readWord? (c :: rest) =
        if Nat.ofDigitChars 10 (c :: rest) 0 < 4294967296 then
          some (Nat.ofDigitChars 10 (c :: rest) 0).toUInt32 else none := by
      simp [readWord?, hplus, hdigits]
    rw [hword] at hread
    split at hread
    · next hfits =>
      rw [← Option.some.inj hread]
      exact (UInt32.toNat_ofNat_of_lt' hfits).symm
    · cases hread

/-- A numeral is below the power of ten that has one digit more. -/
theorem ofDigitChars_lt {start : Nat} (h : ∀ c ∈ text, c.isDigit) :
    Nat.ofDigitChars 10 text start < (start + 1) * 10 ^ text.length := by
  induction text generalizing start with
  | nil => simp
  | cons c text ih =>
    obtain ⟨hc, hrest⟩ := List.forall_mem_cons.mp h
    have hvalue : c.toNat - '0'.toNat ≤ 9 := by
      have hnine : c.toNat ≤ 57 := (Char.isDigit_iff_toNat.mp hc).2
      have hzero : '0'.toNat = 48 := rfl
      omega
    calc Nat.ofDigitChars 10 (c :: text) start
        = Nat.ofDigitChars 10 text (10 * start + (c.toNat - '0'.toNat)) := Nat.ofDigitChars_cons
      _ < (10 * start + (c.toNat - '0'.toNat) + 1) * 10 ^ text.length := ih hrest
      _ ≤ (10 * (start + 1)) * 10 ^ text.length := Nat.mul_le_mul_right _ (by omega)
      _ = (start + 1) * 10 ^ (c :: text).length := by
        rw [List.length_cons, Nat.pow_succ, Nat.mul_comm 10, Nat.mul_assoc,
          Nat.mul_comm (10 ^ text.length)]

/-- Up to nine digits are a numeral of their value. -/
theorem numeral_of_length_le (h : AsciiDigits text) (hlength : text.length ≤ 9) :
    Numeral text (Nat.ofDigitChars 10 text 0).toUInt32 where
  digits := h
  value := by
    have hlt : Nat.ofDigitChars 10 text 0 < (0 + 1) * 10 ^ text.length := ofDigitChars_lt h.2
    have hpow : 10 ^ text.length ≤ 10 ^ 9 := Nat.pow_le_pow_right (by decide) hlength
    refine (UInt32.toNat_ofNat_of_lt' ?_).symm
    change _ < 2 ^ 32
    omega

theorem readWord?_decimal (n : UInt32) : readWord? (decimal n.toNat) = some n :=
  readWord?_of_isDigit (decimal_ne_nil _) (fun _ => isDigit_of_mem_decimal)
    Nat.ofDigitChars_ten_toDigits

theorem readWord?_twoDigits (n : UInt32) : readWord? (twoDigits n.toNat) = some n := by
  refine readWord?_of_isDigit (twoDigits_ne_nil _) (fun _ => isDigit_of_mem_twoDigits) ?_
  rw [twoDigits, Nat.ofDigitChars_append, Nat.ofDigitChars_replicate_zero, Nat.mul_zero]
  exact Nat.ofDigitChars_ten_toDigits

end MediaShelf.Text
