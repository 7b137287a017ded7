import Mathlib.Algebra.Group.Nat.Defs
import Mathlib.Data.List.Basic
import Mathlib.Tactic.Ring

/-!
# Big-endian octets

The natural number that a string of octets denotes, most significant octet first, and the
strings of a fixed width that denote the numbers below `256 ^ width`.
-/

namespace TwEinvoice.Ber

/-- A string of octets. -/
abbrev Octets := List UInt8

/-- The number that the octets denote. -/
def ofBigEndian (octets : Octets) : Nat :=
  octets.foldl (fun value octet => value * 256 + octet.toNat) 0

/-- The octets of the given width that denote the number, modulo `256 ^ width`. -/
def bigEndian : Nat → Nat → Octets
  | 0, _ => []
  | width + 1, value => bigEndian width (value / 256) ++ [UInt8.ofNat value]

@[simp]
theorem bigEndian_length (width value : Nat) : (bigEndian width value).length = width := by
  induction width generalizing value with
  | zero => rfl
  | succ width ih => rw [bigEndian, List.length_append, ih, List.length_singleton]

/-- The last octet is the least significant one. -/
theorem ofBigEndian_append_singleton (octets : Octets) (octet : UInt8) :
    ofBigEndian (octets ++ [octet]) = ofBigEndian octets * 256 + octet.toNat := by
  simp [ofBigEndian, List.foldl_append]

/-- What does not fit the width is lost. -/
theorem ofBigEndian_bigEndian (width value : Nat) :
    ofBigEndian (bigEndian width value) = value % 256 ^ width := by
  induction width generalizing value with
  | zero => rw [Nat.pow_zero, Nat.mod_one]; rfl
  | succ width ih =>
      have hpow : 256 ^ (width + 1) = 256 * 256 ^ width := by ring
      rw [bigEndian, ofBigEndian_append_singleton, ih, UInt8.toNat_ofNat', hpow, Nat.mod_mul]
      omega

/-- Leading zeros do not count. -/
@[simp]
theorem ofBigEndian_zero_cons (octets : Octets) : ofBigEndian (0 :: octets) = ofBigEndian octets :=
  rfl

/-- Leading zeros do not count. -/
theorem ofBigEndian_dropWhile_zero (octets : Octets) :
    ofBigEndian (octets.dropWhile (· = 0)) = ofBigEndian octets := by
  induction octets with
  | nil => rfl
  | cons octet octets ih =>
      by_cases hzero : octet = 0
      · subst hzero
        rw [List.dropWhile_cons_of_pos (by simp), ih, ofBigEndian_zero_cons]
      · rw [List.dropWhile_cons_of_neg (by simpa using hzero)]

/-- Zeros denote zero. -/
theorem ofBigEndian_eq_zero {octets : Octets} (h : ∀ octet ∈ octets, octet = 0) :
    ofBigEndian octets = 0 := by
  induction octets with
  | nil => rfl
  | cons octet octets ih =>
      cases h octet List.mem_cons_self
      exact ih fun other hmem => h other (List.mem_cons_of_mem _ hmem)

/-- The octets from the first nonzero one denote the same number. -/
theorem drop_findIdx_eq (octets : Octets) :
    octets.drop (octets.findIdx (· ≠ 0)) = octets.dropWhile (· = 0) := by
  rw [List.dropWhile_eq_drop_findIdx_not]
  simp only [decide_not, ne_eq]

end TwEinvoice.Ber
