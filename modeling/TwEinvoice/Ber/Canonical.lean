import Mathlib.Data.List.Induction
import TwEinvoice.Ber.Reader

/-!
# Canonical lengths and integers

The Distinguished Encoding Rules take the shortest of the encodings that BER has for a length or
an integer. `DerLength` and `DerInteger` say which one that is, in terms of its octets, and the
theorems about them that it is the shortest and that no other encoding is as short.
-/

namespace TwEinvoice.Ber

open Parsing

/-! ## Numbers of a width -/

theorem ofBigEndian_cons (first : UInt8) (rest : Octets) :
    ofBigEndian (first :: rest) = first.toNat * 256 ^ rest.length + ofBigEndian rest := by
  induction rest using List.reverseRecOn with
  | nil => simp [ofBigEndian]
  | append_singleton rest last ih =>
      rw [← List.cons_append, ofBigEndian_append_singleton, ih, ofBigEndian_append_singleton,
        List.length_append, List.length_singleton]
      ring

/-- Octets are digits to the base 256. -/
theorem ofBigEndian_lt (octets : Octets) : ofBigEndian octets < 256 ^ octets.length := by
  induction octets with
  | nil => exact Nat.one_pos
  | cons first rest ih =>
      have hfirst : first.toNat ≤ 255 := Nat.le_of_lt_succ first.toNat_lt
      have hmul := Nat.mul_le_mul_right (256 ^ rest.length) hfirst
      rw [ofBigEndian_cons, List.length_cons, Nat.pow_succ]
      omega

/-- Octets of one width are the digits of the number. -/
theorem ofBigEndian_inj {left right : Octets} (hlength : left.length = right.length)
    (h : ofBigEndian left = ofBigEndian right) : left = right := by
  induction left generalizing right with
  | nil => exact (List.length_eq_zero_iff.1 hlength.symm).symm
  | cons first rest ih =>
      cases right with
      | nil => cases hlength
      | cons other more =>
          have hrest : rest.length = more.length := Nat.succ.inj hlength
          have hlt := ofBigEndian_lt rest
          have hmore := ofBigEndian_lt more
          rw [ofBigEndian_cons, ofBigEndian_cons, hrest] at h
          rw [hrest] at hlt
          have hpos : 0 < 256 ^ more.length := Nat.pow_pos (by omega)
          have hfirst : first.toNat = other.toNat := by
            have hdiv := congrArg (· / 256 ^ more.length) h
            simpa only [Nat.mul_comm _ (256 ^ more.length), Nat.mul_add_div hpos,
              Nat.div_eq_of_lt hlt, Nat.div_eq_of_lt hmore, Nat.add_zero] using hdiv
          rw [hfirst, Nat.add_right_inj] at h
          rw [UInt8.toNat_inj.1 hfirst, ih hrest h]

/-- A number takes up as many octets as its first octet that is not zero says. -/
theorem le_ofBigEndian {first : UInt8} (h : first ≠ 0) (rest : Octets) :
    256 ^ rest.length ≤ ofBigEndian (first :: rest) := by
  have hpos : 0 < first.toNat :=
    Nat.pos_of_ne_zero fun hzero => h (UInt8.toNat_inj.1 hzero)
  have hmul := Nat.le_mul_of_pos_left (256 ^ rest.length) hpos
  rw [ofBigEndian_cons]
  omega

/-- Octets without a leading zero are the fewest that denote their number. -/
theorem length_le_of_ofBigEndian_eq {octets other : Octets} (hhead : octets.headD 0 ≠ 0)
    (h : ofBigEndian octets = ofBigEndian other) : octets.length ≤ other.length := by
  cases octets with
  | nil => exact Nat.zero_le _
  | cons first rest =>
      have hlow := le_ofBigEndian (show first ≠ 0 from hhead) rest
      have hhigh := ofBigEndian_lt other
      rw [← h] at hhigh
      exact (Nat.pow_lt_pow_iff_right (by omega)).1 (Nat.lt_of_le_of_lt hlow hhigh)

/-! ## Lengths -/

/-- The length octets of DER: one octet for a length below 128, and otherwise the number of the
octets that denote the length, which do not begin with a zero. -/
inductive DerLength : Octets → Nat → Prop where
  | short {first : UInt8} (hshort : first.toNat < 128) : DerLength [first] first.toNat
  | long {first : UInt8} {significant : Octets} (hfirst : first.toNat = 128 + significant.length)
      (hreserved : significant.length < 127) (hhead : significant.headD 0 ≠ 0)
      (hlong : 128 ≤ ofBigEndian significant) :
      DerLength (first :: significant) (ofBigEndian significant)

/-- The definite lengths that are read to the end of the octets. -/
theorem length_definite {octets : Octets} {count : Nat}
    (h : Reader.length octets = some (.definite count, [])) :
    (∃ first : UInt8, first.toNat < 128 ∧ octets = [first] ∧ count = first.toNat) ∨
      ∃ (first : UInt8) (significant : Octets), first.toNat = 128 + significant.length ∧
        significant ≠ [] ∧ octets = first :: significant ∧ count = ofBigEndian significant := by
  cases octets with
  | nil => cases h
  | cons first rest =>
      rw [Reader.length] at h
      simp only [UInt8.lt_iff_toNat_lt, show (0x80 : UInt8).toNat = 128 from rfl] at h
      split_ifs at h with hshort hindefinite hread
      · simp only [Option.some.injEq, Prod.mk.injEq, Length.definite.injEq] at h
        obtain ⟨rfl, rfl⟩ := h
        exact .inl ⟨first, hshort, rfl, rfl⟩
      · simp only [Option.some.injEq, Prod.mk.injEq, reduceCtorEq, false_and] at h
      · simp only [Option.some.injEq, Prod.mk.injEq, Length.definite.injEq,
          List.drop_eq_nil_iff] at h
        obtain ⟨rfl, hrest⟩ := h
        have hlength : rest.length = first.toNat - 128 := by omega
        have hne : rest ≠ [] := by
          rintro rfl
          refine hindefinite (UInt8.toNat_inj.1 ?_)
          show first.toNat = 128
          rw [List.length_nil] at hlength
          omega
        refine .inr ⟨first, rest, by omega, hne, rfl, ?_⟩
        rw [← hlength, List.take_length]

/-- A reader of lengths takes the octets of DER, whatever follows. -/
theorem DerLength.reads {octets : Octets} {count : Nat} (h : DerLength octets count) :
    Reads Reader.length octets (.definite count) := by
  intro rest
  cases h with
  | @short first hshort =>
      have hsmall : first < 0x80 := UInt8.lt_iff_toNat_lt.2 hshort
      simp only [List.cons_append, List.nil_append, Reader.length, if_pos hsmall]
  | @long first significant hfirst hreserved hhead hlong =>
      -- The first octet is none of the short lengths, `0x80` and `0xff`.
      have hnotShort : ¬ first < 0x80 := by
        rw [UInt8.lt_iff_toNat_lt, show (0x80 : UInt8).toNat = 128 from rfl]
        omega
      have hpositive : significant.length ≠ 0 := by
        intro hzero
        rw [List.length_eq_zero_iff.1 hzero] at hlong
        cases hlong
      have hdefinite : first ≠ 0x80 := by
        rintro rfl
        rw [show (0x80 : UInt8).toNat = 128 from rfl] at hfirst
        omega
      have hnotReserved : first ≠ 0xff := by
        rintro rfl
        rw [show (0xff : UInt8).toNat = 255 from rfl] at hfirst
        omega
      have hcount : first.toNat - 0x80 = significant.length := by omega
      simp only [List.cons_append, Reader.length, if_neg hnotShort, if_neg hdefinite, hcount,
        hnotReserved, List.length_append, false_or, List.take_left, List.drop_left]
      exact if_neg (by omega)

/-- Octets that a reader takes as the length, of which there are none fewer and no others as
many. -/
structure ShortestLength (octets : Octets) (count : Nat) : Prop where
  reads : Reads Reader.length octets (.definite count)
  shortest : ∀ other, Reader.length other = some (.definite count, []) →
    octets.length ≤ other.length ∧ (octets.length = other.length → octets = other)

/-- No encoding of a DER length is shorter. -/
theorem DerLength.shortestLength {octets : Octets} {count : Nat} (h : DerLength octets count) :
    ShortestLength octets count := by
  refine ⟨h.reads, fun other hother => ?_⟩
  cases h with
  | @short first hshort =>
      obtain ⟨otherFirst, _, rfl, hcount⟩ | ⟨otherFirst, significant, _, hne, rfl, _⟩ :=
        length_definite hother
      · rw [UInt8.toNat_inj.1 hcount]
        exact ⟨Nat.le_refl _, fun _ => rfl⟩
      · have hpos := List.length_pos_iff.2 hne
        simp only [List.length_cons, List.length_nil]
        exact ⟨by omega, fun hlength => by omega⟩
  | @long first significant hfirst hreserved hhead hlong =>
      obtain ⟨otherFirst, hsmall, rfl, hcount⟩ |
        ⟨otherFirst, otherSignificant, hotherFirst, _, rfl, hcount⟩ := length_definite hother
      · omega
      · refine ⟨Nat.succ_le_succ (length_le_of_ofBigEndian_eq hhead hcount), fun hlength => ?_⟩
        have hwidth : significant.length = otherSignificant.length := Nat.succ.inj hlength
        rw [ofBigEndian_inj hwidth hcount,
          UInt8.toNat_inj.1 (hfirst.trans ((congrArg (128 + ·) hwidth).trans hotherFirst.symm))]

/-! ## Integers -/

/-- The contents octets of DER for an integer: the first nine bits are not all the same. -/
def MinimalInteger : Octets → Prop
  | [] => False
  | [_] => True
  | first :: second :: _ =>
      ¬ (first = 0 ∧ second < 0x80) ∧ ¬ (first = 0xff ∧ 0x80 ≤ second)

/-- A number that is not negative has a clear high bit. -/
theorem ofTwosComplement_nonneg {octets : Octets} {value : Nat} (hne : octets ≠ [])
    (h : Reader.ofTwosComplement octets = value) :
    octets.headD 0 < 0x80 ∧ ofBigEndian octets = value := by
  cases octets with
  | nil => exact absurd rfl hne
  | cons first rest =>
      rw [Reader.ofTwosComplement] at h
      split_ifs at h with hsign
      · exact ⟨hsign, Int.ofNat_inj.1 h⟩
      · exfalso
        have hlt := ofBigEndian_lt (first :: rest)
        rw [List.length_cons] at hlt
        have hcast : ((ofBigEndian (first :: rest) : Nat) : Int) < 256 ^ (rest.length + 1) := by
          exact_mod_cast hlt
        omega

/-- An octet without the sign bit leaves half of the numbers of the width. -/
theorem ofBigEndian_lt_half {first : UInt8} (h : first < 0x80) (rest : Octets) :
    ofBigEndian (first :: rest) < 128 * 256 ^ rest.length := by
  have hfirst : first.toNat ≤ 127 := Nat.le_of_lt_succ (UInt8.lt_iff_toNat_lt.1 h)
  have hmul := Nat.mul_le_mul_right (256 ^ rest.length) hfirst
  have hlt := ofBigEndian_lt rest
  rw [ofBigEndian_cons]
  omega

/-- Octets with a set high bit are at least half of the range. -/
theorem le_ofBigEndian_half {first : UInt8} (h : ¬ first < 0x80) (rest : Octets) :
    128 * 256 ^ rest.length ≤ ofBigEndian (first :: rest) := by
  have hfirst : 128 ≤ first.toNat := Nat.le_of_not_lt fun hlt => h (UInt8.lt_iff_toNat_lt.2 hlt)
  have hmul := Nat.mul_le_mul_right (256 ^ rest.length) hfirst
  rw [ofBigEndian_cons]
  omega

/-- Octets that denote the integer, of which there are none fewer and no others as many. -/
structure ShortestInteger (octets : Octets) (value : Int) : Prop where
  nonempty : octets ≠ []
  denotes : Reader.ofTwosComplement octets = value
  shortest : ∀ other, other ≠ [] → Reader.ofTwosComplement other = value →
    octets.length ≤ other.length ∧ (octets.length = other.length → octets = other)

/-- No encoding of a minimal integer is shorter. -/
theorem MinimalInteger.shortestInteger {octets : Octets} {value : Nat} (h : MinimalInteger octets)
    (hvalue : Reader.ofTwosComplement octets = value) : ShortestInteger octets value := by
  have hoctets : octets ≠ [] := by
    rintro rfl
    exact h
  refine ⟨hoctets, hvalue, fun other hne hother => ?_⟩
  obtain ⟨_, hnumber⟩ := ofTwosComplement_nonneg hoctets hvalue
  obtain ⟨hsign, hotherNumber⟩ := ofTwosComplement_nonneg hne hother
  refine ⟨?_, fun hlength => ofBigEndian_inj hlength (hnumber.trans hotherNumber.symm)⟩
  match octets, h with
  | [_], _ => exact List.length_pos_iff.2 hne
  | first :: second :: rest, ⟨hzero, _⟩ =>
      by_cases hfirst : first = 0
      · -- The zero is there for the sign bit of the next octet.
        have hsecond : ¬ second < 0x80 := fun hlt => hzero ⟨hfirst, hlt⟩
        have hlow := le_ofBigEndian_half hsecond rest
        obtain ⟨otherFirst, otherRest, rfl⟩ := List.exists_cons_of_ne_nil hne
        have hhigh := ofBigEndian_lt_half hsign otherRest
        rw [hfirst, ofBigEndian_zero_cons] at hnumber
        have hpow : 256 ^ rest.length < 256 ^ otherRest.length := by
          rw [List.headD_cons] at hhigh
          omega
        have hlt := (Nat.pow_lt_pow_iff_right (by omega)).1 hpow
        simp only [List.length_cons]
        omega
      · exact length_le_of_ofBigEndian_eq hfirst (hnumber.trans hotherNumber.symm)

end TwEinvoice.Ber
