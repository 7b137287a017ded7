import TwEinvoice.Mig.Primitives
import TwEinvoice.Parsing.Decimal

/-!
# Decimals as literals

The checks of `MigDecimal::parse` accept the decimal literals with limited digits, and nothing
else.
-/

namespace TwEinvoice.Mig

open Rust Parsing

theorem len_digits_chars (digits : Digits) :
    len (String.ofList digits.chars) = digits.chars.length := by
  have hdigits : ∀ digit ∈ (String.ofList digits.chars).toList, digit.isDigit = true := by
    rw [String.toList_ofList]
    exact digits.digits
  rw [len_digits hdigits, String.toList_ofList]

/-- Digits are a part that is not malformed. -/
theorem malformed_digits (digits : Digits) : malformedPart digits.chars = false := by
  have hbytes : (intoBytes (String.ofList digits.chars)).all isAsciiDigit = true := by
    rw [all_ascii_digit_iff, String.toList_ofList]
    exact digits.digits
  rw [malformedPart, hbytes, List.isEmpty_eq_false_iff.2 digits.nonempty]
  rfl

/-- A part that is not malformed is digits. -/
def digitsOfPart {part : List Char} (h : malformedPart part = false) : Digits where
  chars := part
  nonempty := List.isEmpty_eq_false_iff.1 (Bool.or_eq_false_iff.1 h).1
  digits := (well_formed_part h).1

namespace MigDecimal

/-! ## The parts of a literal -/

/-- Without its sign a literal is unsigned. -/
theorem strip_minus_chars (literal : DecimalLiteral) :
    stripMinus literal.chars = literal.integer.chars ++ literal.pointChars := by
  unfold DecimalLiteral.chars DecimalLiteral.signChars
  cases literal.negative with
  | true => rfl
  | false =>
      show stripMinus (literal.integer.chars ++ literal.pointChars) = _
      rw [stripMinus]
      exact literal.head_unsigned

/-- The point divides a literal into its parts. -/
theorem parts_literal {value : String} {literal : DecimalLiteral}
    (h : literal.chars = value.toList) :
    parts value = literal.integer.chars :: (literal.fraction.map Digits.chars).toList := by
  have hinteger := literal.integer.not_mem '.' rfl
  rw [parts, ← h, strip_minus_chars, DecimalLiteral.pointChars]
  cases hfraction : literal.fraction with
  | none =>
      show List.splitOn '.' (literal.integer.chars ++ []) = _
      rw [List.append_nil, List.splitOn_eq_singleton hinteger]
      rfl
  | some digits =>
      have hdigits := digits.not_mem '.' rfl
      show List.splitOn '.' (literal.integer.chars ++ '.' :: digits.chars) = _
      rw [List.splitOn_append_cons_self_of_not_mem hinteger,
        List.splitOn_eq_singleton hdigits]
      rfl

theorem integer_literal {value : String} {literal : DecimalLiteral}
    (h : literal.chars = value.toList) : integer value = literal.integer.chars := by
  rw [integer, parts_literal h]
  rfl

theorem fraction_literal {value : String} {literal : DecimalLiteral}
    (h : literal.chars = value.toList) :
    fraction value = literal.fraction.map Digits.chars := by
  rw [fraction, parts_literal h]
  cases literal.fraction <;> rfl

/-- A literal begins with its sign or with a digit. -/
theorem starts_with_literal {value : String} {literal : DecimalLiteral}
    (h : literal.chars = value.toList) :
    startsWith value "+" = false ∧ startsWith value "-" = literal.negative := by
  obtain ⟨digit, digits, hchars⟩ := List.exists_cons_of_ne_nil literal.integer.nonempty
  have hplus : digit ≠ '+' := Digits.ne_of_cons hchars rfl
  have hminus : digit ≠ '-' := Digits.ne_of_cons hchars rfl
  rw [startsWith, startsWith, ← h, DecimalLiteral.chars, DecimalLiteral.signChars, hchars]
  cases literal.negative with
  | true => exact ⟨rfl, rfl⟩
  | false =>
      refine ⟨?_, ?_⟩
      · simp [List.isPrefixOf, Ne.symm hplus]
      · simp [List.isPrefixOf, Ne.symm hminus]

/-! ## What is accepted -/

theorem canonical_literal {value : String} {literal : DecimalLiteral}
    (h : literal.chars = value.toList) : Canonical value := by
  have hunsigned : stripMinus value.toList ≠ [] := by
    rw [← h, strip_minus_chars]
    exact List.append_ne_nil_of_left_ne_nil literal.integer.nonempty _
  refine ⟨?_, ?_⟩
  · rw [List.isEmpty_eq_false_iff.2 hunsigned, (starts_with_literal h).1]
    rfl
  · rw [integer_literal h, fraction_literal h, malformed_digits, parts_literal h]
    cases literal.fraction with
    | none => rfl
    | some digits => simp [malformed_digits]

/-- The digits of a literal are counted as the check counts them. -/
theorem digits_literal {value : String} {literal : DecimalLiteral}
    (h : literal.chars = value.toList) :
    totalDigits value = literal.totalDigits ∧ fractionLen value = literal.fractionDigits ∧
      startsWith value "-" = literal.negative := by
  have hfraction : fractionLen value = literal.fractionDigits := by
    rw [fractionLen, fraction_literal h, DecimalLiteral.fractionDigits,
      DecimalLiteral.fractionChars]
    cases literal.fraction with
    | none => rfl
    | some digits => exact len_digits_chars digits
  refine ⟨?_, hfraction, (starts_with_literal h).2⟩
  rw [totalDigits, integer_literal h, len_digits_chars, hfraction]
  rfl

/-- A canonical text is a literal. -/
theorem literal_of_canonical {value : String} (h : Canonical value) :
    ∃ literal : DecimalLiteral, literal.chars = value.toList := by
  obtain ⟨sign, hsign, htext, hinteger, hfraction⟩ := canonical_text h
  obtain ⟨fraction, hfraction⟩ : ∃ digits : Option Digits,
      digits.map Digits.chars = fraction value := by
    cases hcase : fraction value with
    | none => exact ⟨none, rfl⟩
    | some part => exact ⟨some (digitsOfPart (hfraction part hcase)), rfl⟩
  refine ⟨⟨decide (sign = ['-']), digitsOfPart hinteger, fraction⟩, ?_⟩
  rw [htext, ← hfraction, Option.map_map]
  obtain rfl | rfl := hsign <;> rfl

/-- The decimals that are accepted are the literals with limited digits. -/
theorem check_literal_iff (value : String) (maxTotalDigits maxFractionDigits : Nat)
    (nonNegative : Bool) :
    check value maxTotalDigits maxFractionDigits nonNegative = .ok () ↔
      ∃ literal : DecimalLiteral, literal.chars = value.toList ∧
        literal.totalDigits ≤ maxTotalDigits ∧ literal.fractionDigits ≤ maxFractionDigits ∧
        (nonNegative = true → literal.negative = false) := by
  rw [check_ok_iff]
  constructor
  · intro h
    obtain ⟨hcanonical, hsign, htotal, hfraction⟩ := h
    obtain ⟨literal, hliteral⟩ := literal_of_canonical hcanonical
    obtain ⟨hdigits, hfractionDigits, hminus⟩ := digits_literal hliteral
    rw [hdigits] at htotal
    rw [hfractionDigits] at hfraction
    rw [hminus] at hsign
    exact ⟨literal, hliteral, htotal, hfraction, hsign⟩
  · intro h
    obtain ⟨literal, hliteral, htotal, hfraction, hsign⟩ := h
    obtain ⟨hdigits, hfractionDigits, hminus⟩ := digits_literal hliteral
    rw [hdigits, hfractionDigits, hminus]
    exact ⟨canonical_literal hliteral, hsign, htotal, hfraction⟩

/-- A decimal is parsed exactly when it passes the check, and keeps its text. -/
theorem parse_ok_iff {value : String} {maxTotalDigits maxFractionDigits : Nat}
    {nonNegative : Bool} {decimal : MigDecimal} :
    parse value maxTotalDigits maxFractionDigits nonNegative = .ok decimal ↔
      check value maxTotalDigits maxFractionDigits nonNegative = .ok () ∧
        decimal.asStr = value := by
  constructor
  · intro h
    unfold parse at h
    split at h
    · next hcheck =>
      cases h
      exact ⟨hcheck, rfl⟩
    · cases h
  · rintro ⟨hcheck, rfl⟩
    exact parse_ok decimal hcheck

/-- The decimals that are accepted are the literals with limited digits. The text is kept, and
the number that it denotes satisfies the facets: it is an integer below a power of ten, divided
by a power of ten, and not negative where no sign is allowed. -/
theorem parse_exact (value : String) (maxTotalDigits maxFractionDigits : Nat)
    (nonNegative : Bool) :
    ((∃ decimal, parse value maxTotalDigits maxFractionDigits nonNegative = .ok decimal) ↔
      ∃ literal : DecimalLiteral, literal.chars = value.toList ∧
        literal.totalDigits ≤ maxTotalDigits ∧ literal.fractionDigits ≤ maxFractionDigits ∧
        (nonNegative = true → literal.negative = false)) ∧
      ∀ decimal, parse value maxTotalDigits maxFractionDigits nonNegative = .ok decimal →
        decimal.asStr = value ∧ (∃! literal : DecimalLiteral, literal.chars = value.toList) ∧
        ∀ literal : DecimalLiteral, literal.chars = value.toList →
          ∃ (scaled : Int) (scale : Nat), literal.value = scaled / 10 ^ scale ∧
            scale ≤ maxFractionDigits ∧ |scaled| < 10 ^ maxTotalDigits ∧
            (nonNegative = true → 0 ≤ scaled) := by
  refine ⟨?_, ?_⟩
  · rw [← check_literal_iff]
    constructor
    · intro h
      obtain ⟨decimal, hparse⟩ := h
      exact (parse_ok_iff.1 hparse).1
    · intro hcheck
      exact ⟨⟨value, _, _, _, hcheck⟩, parse_ok_iff.2 ⟨hcheck, rfl⟩⟩
  · intro decimal hparse
    obtain ⟨hcheck, htext⟩ := parse_ok_iff.1 hparse
    obtain ⟨literal, hliteral, htotal, hfraction, hsign⟩ := (check_literal_iff _ _ _ _).1 hcheck
    have hlimit : |literal.scaled| < 10 ^ maxTotalDigits :=
      lt_of_lt_of_le literal.abs_scaled_lt (pow_le_pow_right₀ (by norm_num) htotal)
    refine ⟨htext, ⟨literal, hliteral, ?_⟩, ?_⟩
    · intro other hother
      exact DecimalLiteral.chars_injective (hother.trans hliteral.symm)
    · intro other hother
      cases DecimalLiteral.chars_injective (hother.trans hliteral.symm)
      exact ⟨literal.scaled, literal.fractionDigits, literal.value_eq, hfraction, hlimit,
        fun hset => DecimalLiteral.scaled_nonneg (hsign hset)⟩

end MigDecimal

end TwEinvoice.Mig
