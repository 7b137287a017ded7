import Mathlib.Algebra.Group.Int.Defs
import Mathlib.Algebra.Group.Nat.Defs
import Mathlib.Data.Int.Order.Basic
import TwEinvoice.Parsing.Numeral

/-!
# Machine integers and panics

The integer conversions that the crates use, the addition of `i32` values in both builds, and
the panic of `expect`. A `usize` is a natural number.
-/

namespace TwEinvoice.Rust

open Parsing

/-- Whether the build checks integer overflow (`dev`, `test`) or wraps around (`release`). -/
inductive Build where
  | checked
  | wrapping
  deriving DecidableEq, Repr

/-- A panic, with the message it is raised with. -/
inductive Panic where
  | addOverflow
  | expect (message : String)
  deriving DecidableEq, Repr

/-- The mathematical integer is representable as an `i32`. -/
def fitsI32 (value : Int) : Prop :=
  -(2 ^ 31) ≤ value ∧ value < 2 ^ 31

/-- `fitsI32` is decidable by two integer comparisons. -/
instance (value : Int) : Decidable (fitsI32 value) :=
  inferInstanceAs (Decidable (_ ∧ _))

/-- The `+` of two `i32` values. -/
def addI32 (build : Build) (left right : Int32) : Except Panic Int32 :=
  match build with
  | .wrapping => .ok (left + right)
  | .checked =>
      if fitsI32 (left.toInt + right.toInt) then .ok (left + right) else .error .addOverflow

/-- `usize::try_from(value).ok()`. -/
def usizeTryFrom (value : Int32) : Option Nat :=
  if value < 0 then none else some value.toInt.toNat

/-- `u64::try_from(value).ok()`, for a `usize`. -/
def u64TryFrom (value : Nat) : Option UInt64 :=
  if value < 2 ^ 64 then some (UInt64.ofNat value) else none

/-- `u32::try_from(value).ok()`, for a `usize`. -/
def u32TryFromUsize (value : Nat) : Option UInt32 :=
  if value < 2 ^ 32 then some (UInt32.ofNat value) else none

/-- `u32::try_from(value).ok()`. -/
def u32TryFrom (value : Int32) : Option UInt32 :=
  if value < 0 then none else some (UInt32.ofNat value.toInt.toNat)

/-- `i32::try_from(value).ok()`, for a `u64`. -/
def i32TryFrom (value : UInt64) : Option Int32 :=
  if value.toNat < 2 ^ 31 then some (Int32.ofNat value.toNat) else none

/-- `str::parse::<i32>().ok()`. -/
def parseI32 (text : String) : Option Int32 :=
  (readInt text.toList).bind fun value =>
    if fitsI32 value then some (Int32.ofInt value) else none

/-- The `i32` value of an integer, by its remainder. -/
theorem bmod_two_pow_32 (value : Int) :
    value.bmod (2 ^ 32) = (value + 2147483648) % 4294967296 - 2147483648 := by
  simp only [Int.bmod_def, Nat.reducePow, Int.cast_ofNat_Int]
  omega

/-- A machine sum that does not panic is the sum modulo `2 ^ 32`. -/
theorem add_i32_toInt {build : Build} {left right sum : Int32}
    (h : addI32 build left right = .ok sum) :
    sum.toInt = (left.toInt + right.toInt).bmod (2 ^ 32) := by
  cases build with
  | wrapping =>
      simp only [addI32, Except.ok.injEq] at h
      rw [← h, Int32.toInt_add]
  | checked =>
      simp only [addI32] at h
      split at h
      · simp only [Except.ok.injEq] at h
        rw [← h, Int32.toInt_add]
      · cases h

/-- The bounds of an `i32`, in the form `omega` uses. -/
theorem toInt_bounds (value : Int32) :
    -2147483648 ≤ value.toInt ∧ value.toInt < 2147483648 := by
  have hlow := value.le_toInt
  have hhigh := value.toInt_lt
  omega

theorem lt_zero_iff (value : Int32) : value < 0 ↔ value.toInt < 0 := by
  rw [Int32.lt_iff_toInt_lt, Int32.toInt_zero]

/-- A count converts to `u32` exactly when it is non-negative, and keeps its value. -/
theorem u32_try_from_eq_some {value : Int32} {count : UInt32} :
    u32TryFrom value = some count ↔ 0 ≤ value.toInt ∧ (count.toNat : Int) = value.toInt := by
  have hbounds := toInt_bounds value
  simp only [u32TryFrom, lt_zero_iff]
  split
  · simp only [reduceCtorEq, false_iff]
    omega
  · simp only [Option.some.injEq, ← UInt32.toNat_inj, UInt32.toNat_ofNat']
    omega

theorem u64_try_from_eq_some {value : Nat} {size : UInt64} (h : u64TryFrom value = some size) :
    size.toNat = value := by
  unfold u64TryFrom at h
  split at h
  case isTrue hlt =>
    cases h
    exact UInt64.toNat_ofNat_of_lt' hlt
  case isFalse => cases h

theorem u32_try_from_usize_eq_some {value : Nat} {count : UInt32}
    (h : u32TryFromUsize value = some count) : count.toNat = value := by
  unfold u32TryFromUsize at h
  split at h
  case isTrue hlt =>
    cases h
    exact UInt32.toNat_ofNat_of_lt' hlt
  case isFalse => cases h

/-- A value below `2 ^ 31` converts to `i32`. -/
theorem i32_try_from_of_lt {value : UInt64} (h : value.toNat < 2 ^ 31) :
    i32TryFrom value = some (Int32.ofNat value.toNat) :=
  if_pos h

/-- A parse yields the value of the numeral, if this is an `i32`. -/
theorem parse_i32_eq_some {text : String} {value : Int32} :
    parseI32 text = some value ↔ readInt text.toList = some value.toInt := by
  have hbounds := toInt_bounds value
  rw [parseI32, Option.bind_eq_some_iff]
  constructor
  · rintro ⟨number, hnumber, hvalue⟩
    split_ifs at hvalue with hfits
    cases hvalue
    unfold fitsI32 at hfits
    have hsame : number.bmod (2 ^ 32) = number := by
      rw [bmod_two_pow_32]
      omega
    rw [hnumber, Int32.toInt_ofInt]
    exact congrArg some hsame.symm
  · intro hvalue
    refine ⟨value.toInt, hvalue, ?_⟩
    rw [if_pos (by unfold fitsI32; omega), Int32.ofInt_toInt]

/-- What `to_string` writes is parsed back. -/
theorem parse_i32_to_string (value : Int32) : parseI32 (toString value.toInt) = some value :=
  parse_i32_eq_some.2 (readInt_toString value.toInt)

/-- A count converts to `usize` exactly when it is non-negative, and keeps its value. -/
theorem usize_try_from_eq_some (value : Int32) (count : Nat) :
    usizeTryFrom value = some count ↔ (count : Int) = value.toInt := by
  simp only [usizeTryFrom, lt_zero_iff]
  split
  · simp only [reduceCtorEq, false_iff]
    omega
  · simp only [Option.some.injEq]
    omega

/-! ## Results -/

/-- `Option::ok_or`. -/
def okOr {ε α : Type} (value : Option α) (error : ε) : Except ε α :=
  match value with
  | some value => .ok value
  | none => .error error

theorem ok_or_eq_ok {ε α : Type} {value : Option α} {error : ε} {result : α} :
    okOr value error = .ok result ↔ value = some result := by
  cases value <;> simp [okOr]

theorem map_error_eq_ok {ε δ α : Type} {action : Except ε α} {convert : ε → δ} {value : α} :
    action.mapError convert = .ok value ↔ action = .ok value := by
  cases action <;> simp [Except.mapError]

/-- `if !condition { return Err(error) }`. -/
def ensure {ε : Type} (condition : Prop) [Decidable condition] (error : ε) : Except ε Unit :=
  if condition then .ok () else .error error

theorem ensure_eq_ok {ε : Type} {condition : Prop} [Decidable condition] {error : ε}
    {result : Unit} : ensure condition error = .ok result ↔ condition := by
  unfold ensure
  split <;> simp_all

/-- A `?` was passed with a value. -/
theorem ok_of_bind_ok {ε α β : Type} {action : Except ε α} {next : α → Except ε β} {result : β}
    (h : (action >>= next) = .ok result) :
    ∃ value, action = .ok value ∧ next value = .ok result := by
  cases action with
  | error failure => cases h
  | ok value => exact ⟨value, rfl, h⟩

/-! ## Conversions that must succeed -/

/-- `Option::expect`. -/
def expect {α : Type} (value : Option α) (message : String) : Except Panic α :=
  match value with
  | some value => .ok value
  | none => .error (.expect message)

theorem expect_eq_ok {α : Type} {value : Option α} {message : String} {result : α} :
    expect value message = .ok result ↔ value = some result := by
  cases value <;> simp [expect]

end TwEinvoice.Rust
