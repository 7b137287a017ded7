import Mathlib.Algebra.Group.Int.Defs
import Mathlib.Data.List.Basic

/-!
# Decimal numerals

Reading integers written in decimal, with an optional sign. Every integer is read back from the
numeral that `toString` writes, and `isCanonical` says which of the numerals of an integer that is.
-/

namespace TwEinvoice.Parsing

/-! ## Digits -/

/-- The value of decimal digits. -/
def readNat (digits : List Char) : Option Nat :=
  if digits ≠ [] ∧ digits.all Char.isDigit then some (Nat.ofDigitChars 10 digits 0) else none

/-- A numeral is one digit or more, and stands for their number. -/
theorem readNat_eq_some {digits : List Char} {value : Nat} :
    readNat digits = some value ↔ digits ≠ [] ∧
      (∀ digit ∈ digits, digit.isDigit = true) ∧ Nat.ofDigitChars 10 digits 0 = value := by
  rw [readNat, ← List.all_eq_true, ← and_assoc]
  split_ifs with h
  · rw [Option.some.injEq, and_iff_right h]
  · exact iff_of_false nofun fun hdigits => h hdigits.1

theorem isDigit_toDigits (value : Nat) :
    ∀ digit ∈ Nat.toDigits 10 value, digit.isDigit = true :=
  fun _ hdigit => Nat.isDigit_of_mem_toDigits (by omega) (by omega) hdigit

/-- What is written is read back. -/
theorem readNat_toDigits (value : Nat) : readNat (Nat.toDigits 10 value) = some value :=
  readNat_eq_some.2 ⟨Nat.toDigits_ne_nil, isDigit_toDigits value, Nat.ofDigitChars_ten_toDigits⟩

/-- A digit is the one of its value. -/
theorem digitChar_of_isDigit {digit : Char} (h : digit.isDigit = true) :
    digit.toNat - '0'.toNat < 10 ∧ (digit.toNat - '0'.toNat).digitChar = digit := by
  simp only [Char.isDigit, Bool.and_eq_true, decide_eq_true_eq, ge_iff_le,
    UInt32.le_iff_toNat_le] at h
  have hrange : 48 ≤ digit.toNat ∧ digit.toNat ≤ 57 := h
  have hlt : digit.toNat - 48 < 10 := by omega
  refine ⟨hlt, Char.toNat_inj.1 ?_⟩
  show (digit.toNat - 48).digitChar.toNat = digit.toNat
  rw [Nat.toNat_digitChar_of_lt_ten hlt]
  omega

/-- The numeral of a positive number does not begin with a zero. -/
theorem head_toDigits_ne_zero {value : Nat} (h : 0 < value) :
    (Nat.toDigits 10 value).head? ≠ some '0' := by
  induction value using Nat.strongRecOn with
  | ind value ih =>
      rcases Nat.lt_or_ge value 10 with hlt | hge
      · rw [Nat.toDigits_of_lt_base hlt, List.head?_cons, ne_eq, Option.some.injEq,
          Nat.digitChar_eq_zero]
        omega
      · rw [Nat.toDigits_of_base_le (by omega) hge,
          List.head?_append_of_ne_nil _ Nat.toDigits_ne_nil]
        exact ih (value / 10) (by omega) (by omega)

/-- Reading on from a positive number appends the digits to its numeral. -/
theorem toDigits_append {digits : List Char} (hdigits : ∀ digit ∈ digits, digit.isDigit = true)
    {value : Nat} (hpos : 0 < value) :
    Nat.toDigits 10 value ++ digits = Nat.toDigits 10 (Nat.ofDigitChars 10 digits value) := by
  induction digits generalizing value with
  | nil => rw [List.append_nil, Nat.ofDigitChars_nil]
  | cons digit digits ih =>
      obtain ⟨hdigit, hdigits⟩ := List.forall_mem_cons.1 hdigits
      obtain ⟨hlt, hchar⟩ := digitChar_of_isDigit hdigit
      have hnext := Nat.toDigits_append_toDigits (b := 10) (by omega) hpos hlt
      rw [Nat.toDigits_of_lt_base hlt, hchar] at hnext
      rw [Nat.ofDigitChars_cons, ← ih hdigits (by omega), ← hnext, List.append_assoc,
        List.singleton_append]

/-- Digits that do not begin with a zero are the numeral of their value. -/
theorem toDigits_ofDigitChars {digits : List Char} (hne : digits ≠ [])
    (hdigits : ∀ digit ∈ digits, digit.isDigit = true) (hhead : digits.head? ≠ some '0') :
    Nat.toDigits 10 (Nat.ofDigitChars 10 digits 0) = digits := by
  obtain ⟨digit, rest, rfl⟩ := List.exists_cons_of_ne_nil hne
  obtain ⟨hdigit, hrest⟩ := List.forall_mem_cons.1 hdigits
  obtain ⟨hlt, hchar⟩ := digitChar_of_isDigit hdigit
  have hpos : 0 < digit.toNat - '0'.toNat := by
    refine Nat.pos_of_ne_zero fun hzero => hhead ?_
    rw [List.head?_cons, ← hchar, hzero]
    rfl
  rw [Nat.ofDigitChars_cons, Nat.mul_zero, Nat.zero_add, ← toDigits_append hrest hpos,
    Nat.toDigits_of_lt_base hlt, hchar, List.singleton_append]

/-! ## Integers -/

/-- The value of a numeral with an optional sign. -/
def readInt : List Char → Option Int
  | '+' :: digits => (readNat digits).map Int.ofNat
  | '-' :: digits => (readNat digits).map Int.negOfNat
  | digits => (readNat digits).map Int.ofNat

/-- Whether a numeral has no plus sign and no superfluous zero, and is not negative zero. -/
def isCanonical : List Char → Bool
  | '+' :: _ => false
  | '-' :: digits => digits.head? ≠ some '0'
  | digits => digits = ['0'] ∨ digits.head? ≠ some '0'

/-- Digits have no sign. -/
theorem no_sign {digits : List Char} (h : ∀ digit ∈ digits, digit.isDigit = true) :
    readInt digits = (readNat digits).map Int.ofNat ∧
      isCanonical digits = decide (digits = ['0'] ∨ digits.head? ≠ some '0') := by
  unfold readInt isCanonical
  split
  · exact absurd (h _ List.mem_cons_self) (by decide)
  · exact absurd (h _ List.mem_cons_self) (by decide)
  · exact ⟨rfl, rfl⟩

/-- The numeral that is written for an integer. -/
theorem toString_toList (value : Int) :
    (toString value).toList =
      if value < 0 then '-' :: Nat.toDigits 10 value.natAbs else Nat.toDigits 10 value.natAbs := by
  cases value with
  | ofNat value =>
      have hnonneg : ¬ Int.ofNat value < 0 := Int.not_lt.2 (Int.natCast_nonneg value)
      rw [if_neg hnonneg]
      exact Nat.toList_repr
  | negSucc value =>
      rw [if_pos (Int.negSucc_lt_zero value)]
      show ("-" ++ Nat.repr (value + 1)).toList = _
      rw [String.toList_append, Nat.toList_repr]
      rfl

/-- A numeral holds digits and a minus sign only. -/
theorem not_mem_toString {symbol : Char} (hminus : symbol ≠ '-') (hdigit : symbol.isDigit = false)
    (value : Int) : symbol ∉ (toString value).toList := by
  have hdigits : symbol ∉ Nat.toDigits 10 value.natAbs := by
    intro hmem
    rw [isDigit_toDigits _ symbol hmem] at hdigit
    cases hdigit
  rw [toString_toList]
  split_ifs
  · rw [List.mem_cons, not_or]
    exact ⟨hminus, hdigits⟩
  · exact hdigits

/-- Every integer is read back. -/
theorem readInt_toString (value : Int) : readInt (toString value).toList = some value := by
  rw [toString_toList]
  split_ifs with hneg
  · rw [readInt, readNat_toDigits, Option.map_some, Option.some.injEq, Int.negOfNat_eq]
    show -(value.natAbs : Int) = value
    omega
  · rw [(no_sign (isDigit_toDigits _)).1, readNat_toDigits, Option.map_some, Option.some.injEq]
    show (value.natAbs : Int) = value
    omega

/-- The numeral that is written for an integer is canonical. -/
theorem isCanonical_toString (value : Int) : isCanonical (toString value).toList = true := by
  rw [toString_toList]
  split_ifs with hneg
  · exact decide_eq_true (head_toDigits_ne_zero (by omega))
  · rw [(no_sign (isDigit_toDigits _)).2, decide_eq_true_eq]
    rcases Nat.eq_zero_or_pos value.natAbs with hzero | hpos
    · exact .inl (by rw [hzero, Nat.toDigits_zero])
    · exact .inr (head_toDigits_ne_zero hpos)

/-- Digits without a superfluous zero are the numeral of their value. -/
theorem toDigits_of_readNat {digits : List Char} {value : Nat}
    (h : readNat digits = some value) (hplain : digits = ['0'] ∨ digits.head? ≠ some '0') :
    Nat.toDigits 10 value = digits := by
  obtain ⟨hne, hdigits, rfl⟩ := readNat_eq_some.1 h
  rcases hplain with rfl | hhead
  · rfl
  · exact toDigits_ofDigitChars hne hdigits hhead

/-- A numeral is the one that is written for its value exactly if it is canonical. -/
theorem toString_eq_iff {text : String} {value : Int} (h : readInt text.toList = some value) :
    toString value = text ↔ isCanonical text.toList = true := by
  constructor
  · rintro rfl
    exact isCanonical_toString value
  · intro hcanonical
    rw [← String.toList_inj, toString_toList]
    generalize text.toList = numeral at h hcanonical
    unfold isCanonical at hcanonical
    split at hcanonical
    · cases hcanonical
    · next digits =>
        -- The digits after the minus sign are those of a positive number.
        obtain ⟨number, hnumber, rfl⟩ := Option.map_eq_some_iff.1 h
        have hhead := of_decide_eq_true hcanonical
        have hdigits := toDigits_of_readNat hnumber (.inr hhead)
        have hpos : number ≠ 0 := by
          rintro rfl
          rw [← hdigits] at hhead
          exact hhead rfl
        have hneg : -Int.ofNat number < 0 := by
          show -(number : Int) < 0
          omega
        rw [Int.negOfNat_eq, if_pos hneg, Int.natAbs_neg]
        exact congrArg ('-' :: ·) hdigits
    · next hplus hminus =>
        have hread : readInt numeral = (readNat numeral).map Int.ofNat := by
          rw [readInt]
          · exact hplus
          · exact hminus
        rw [hread] at h
        obtain ⟨number, hnumber, rfl⟩ := Option.map_eq_some_iff.1 h
        have hnonneg : ¬ Int.ofNat number < 0 := Int.not_lt.2 (Int.natCast_nonneg number)
        rw [if_neg hnonneg]
        exact toDigits_of_readNat hnumber (of_decide_eq_true hcanonical)

end TwEinvoice.Parsing
