import Mathlib.Algebra.Field.Rat
import Mathlib.Algebra.Order.Ring.Rat
import Mathlib.Data.List.TakeWhile
import Mathlib.Tactic.NormNum
import TwEinvoice.Parsing.Numeral

/-!
# Decimal literals

The grammar `-?[0-9]+(.[0-9]+)?` and the rational number that a literal denotes. A literal with
a limited number of digits denotes an integer of a limited size, divided by a power of ten.
-/

namespace TwEinvoice.Parsing

/-- Decimal digits, at least one. -/
structure Digits where
  chars : List Char
  nonempty : chars ≠ []
  digits : ∀ digit ∈ chars, digit.isDigit = true

/-- The number that digits denote. -/
def Digits.value (digits : Digits) : Nat := Nat.ofDigitChars 10 digits.chars 0

/-- Digits are determined by their characters. -/
@[ext]
theorem Digits.ext {left right : Digits} (h : left.chars = right.chars) : left = right := by
  cases left
  cases right
  cases h
  rfl

/-- A digit is neither a sign nor a point. -/
theorem Digits.not_mem (digits : Digits) (character : Char) (h : character.isDigit = false) :
    character ∉ digits.chars := by
  intro hmem
  rw [digits.digits character hmem] at h
  cases h

theorem Digits.ne_of_cons {digits : Digits} {first : Char} {rest : List Char}
    (h : digits.chars = first :: rest) {character : Char} (hcharacter : character.isDigit = false) :
    first ≠ character := by
  intro heq
  refine digits.not_mem character hcharacter ?_
  rw [h, heq]
  exact List.mem_cons_self

/-- A sign, an integer part and a fraction. -/
structure DecimalLiteral where
  negative : Bool
  integer : Digits
  fraction : Option Digits

namespace DecimalLiteral

/-- The digits behind the point. -/
def fractionChars (literal : DecimalLiteral) : List Char :=
  (literal.fraction.map Digits.chars).getD []

/-- How many digits there are behind the point. -/
def fractionDigits (literal : DecimalLiteral) : Nat := literal.fractionChars.length

/-- How many digits there are. -/
def totalDigits (literal : DecimalLiteral) : Nat :=
  literal.integer.chars.length + literal.fractionDigits

/-- The sign in front of the digits. -/
def signChars (literal : DecimalLiteral) : List Char := if literal.negative then ['-'] else []

/-- The point and what is behind it. -/
def pointChars (literal : DecimalLiteral) : List Char :=
  (literal.fraction.map fun digits => '.' :: digits.chars).getD []

/-- How a literal is written. -/
def chars (literal : DecimalLiteral) : List Char :=
  literal.signChars ++ (literal.integer.chars ++ literal.pointChars)

/-- The number that a literal denotes. -/
def value (literal : DecimalLiteral) : ℚ :=
  (if literal.negative then -1 else 1) *
    (literal.integer.value +
      (Nat.ofDigitChars 10 literal.fractionChars 0 : ℚ) / 10 ^ literal.fractionDigits)

/-! ## Reading a literal -/

/-- An unsigned literal does not start with a minus sign. -/
theorem head_unsigned (literal : DecimalLiteral) (rest : List Char) :
    literal.integer.chars ++ literal.pointChars ≠ '-' :: rest := by
  intro heq
  obtain ⟨digit, digits, hchars⟩ := List.exists_cons_of_ne_nil literal.integer.nonempty
  rw [hchars, List.cons_append, List.cons.injEq] at heq
  exact Digits.ne_of_cons hchars rfl heq.1

/-- The integer part ends where no digit follows. -/
theorem takeWhile_unsigned (literal : DecimalLiteral) :
    (literal.integer.chars ++ literal.pointChars).takeWhile Char.isDigit =
      literal.integer.chars := by
  rw [List.takeWhile_append_of_pos literal.integer.digits, pointChars]
  cases literal.fraction with
  | none => exact List.append_nil _
  | some digits => exact List.append_nil _

/-- A text is the literal of one number at most. -/
theorem chars_injective : Function.Injective chars := by
  intro left right h
  have hnegative : left.negative = right.negative := by
    unfold chars signChars at h
    cases hl : left.negative <;> cases hr : right.negative
    · rfl
    · simp only [hl, hr, Bool.false_eq_true, if_false, if_true] at h
      exact absurd h (left.head_unsigned _)
    · simp only [hl, hr, Bool.false_eq_true, if_false, if_true] at h
      exact absurd h.symm (right.head_unsigned _)
    · rfl
  have hunsigned : left.integer.chars ++ left.pointChars =
      right.integer.chars ++ right.pointChars := by
    unfold chars signChars at h
    rw [hnegative] at h
    exact List.append_cancel_left h
  have hinteger : left.integer.chars = right.integer.chars := by
    rw [← left.takeWhile_unsigned, hunsigned, right.takeWhile_unsigned]
  have hpoint : left.pointChars = right.pointChars := by
    rw [hinteger] at hunsigned
    exact List.append_cancel_left hunsigned
  have hfraction : left.fraction = right.fraction := by
    unfold pointChars at hpoint
    cases hl : left.fraction <;> cases hr : right.fraction <;>
      simp only [hl, hr, Option.map_none, Option.map_some, Option.getD_none, Option.getD_some,
        reduceCtorEq, List.cons.injEq, true_and] at hpoint ⊢
    exact congrArg some (Digits.ext hpoint)
  cases left
  cases right
  cases hnegative
  cases hfraction
  cases Digits.ext hinteger
  rfl

/-! ## Facets -/

theorem ofDigitChars_lt {chars : List Char} (h : ∀ digit ∈ chars, digit.isDigit = true) :
    Nat.ofDigitChars 10 chars 0 < 10 ^ chars.length := by
  induction chars with
  | nil => exact Nat.one_pos
  | cons digit chars ih =>
      obtain ⟨hdigit, hchars⟩ := List.forall_mem_cons.1 h
      have hvalue : digit.toNat - '0'.toNat ≤ 9 :=
        Nat.le_of_lt_succ (digitChar_of_isDigit hdigit).1
      have hmul := Nat.mul_le_mul_left (10 ^ chars.length) hvalue
      have hrest := ih hchars
      rw [Nat.ofDigitChars_cons, Nat.ofDigitChars_eq_ofDigitChars_zero, Nat.mul_zero,
        Nat.zero_add, List.length_cons, Nat.pow_succ]
      omega

/-- The digits without the point. -/
def scaled (literal : DecimalLiteral) : Int :=
  (if literal.negative then -1 else 1) *
    (Nat.ofDigitChars 10 (literal.integer.chars ++ literal.fractionChars) 0 : Int)

/-- A literal denotes the number of its digits, divided by a power of ten. -/
theorem value_eq (literal : DecimalLiteral) :
    literal.value = literal.scaled / 10 ^ literal.fractionDigits := by
  have hdigits : (Nat.ofDigitChars 10 (literal.integer.chars ++ literal.fractionChars) 0 : ℚ) =
      10 ^ literal.fractionDigits * literal.integer.value +
        Nat.ofDigitChars 10 literal.fractionChars 0 := by
    rw [Nat.ofDigitChars_append, Nat.ofDigitChars_eq_ofDigitChars_zero]
    push_cast
    rfl
  have hpow : (10 : ℚ) ^ literal.fractionDigits ≠ 0 := pow_ne_zero _ (by norm_num)
  rw [value, scaled, eq_div_iff hpow, mul_assoc, add_mul, div_mul_cancel₀ _ hpow]
  push_cast
  rw [hdigits, mul_comm (literal.integer.value : ℚ)]

theorem fractionChars_digits (literal : DecimalLiteral) :
    ∀ digit ∈ literal.fractionChars, digit.isDigit = true := by
  unfold fractionChars
  cases literal.fraction with
  | none => exact fun _ hmem => absurd hmem List.not_mem_nil
  | some digits => exact digits.digits

/-- The number of the digits is limited by how many there are. -/
theorem abs_scaled_lt (literal : DecimalLiteral) :
    |literal.scaled| < 10 ^ literal.totalDigits := by
  have hdigits : ∀ digit ∈ literal.integer.chars ++ literal.fractionChars,
      digit.isDigit = true := by
    intro digit hmem
    rcases List.mem_append.1 hmem with hmem | hmem
    · exact literal.integer.digits digit hmem
    · exact literal.fractionChars_digits digit hmem
  have hlt := ofDigitChars_lt hdigits
  rw [List.length_append] at hlt
  have habs : |literal.scaled| =
      (Nat.ofDigitChars 10 (literal.integer.chars ++ literal.fractionChars) 0 : Int) := by
    unfold scaled
    cases literal.negative with
    | false => simp
    | true => simp
  rw [habs]
  exact_mod_cast hlt

/-- A literal without a minus sign is not negative. -/
theorem scaled_nonneg {literal : DecimalLiteral} (h : literal.negative = false) :
    0 ≤ literal.scaled := by
  unfold scaled
  rw [h]
  exact Int.mul_nonneg Int.one_nonneg (Int.natCast_nonneg _)

end DecimalLiteral

end TwEinvoice.Parsing
