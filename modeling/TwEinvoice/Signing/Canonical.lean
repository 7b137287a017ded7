import Mathlib.Data.List.TakeDrop
import TwEinvoice.Signing.SignedData

/-!
# Canonical elements of the encoder

The elements of definite length that the encoder emits follow the Distinguished Encoding Rules:
their length octets and the octets of an integer are the shortest ones.
-/

namespace TwEinvoice.Signing

open Rust Ber Parsing

/-- A byte slice, which holds at most `isize::MAX` bytes. -/
structure Slice where
  octets : Octets
  length_lt : octets.length < 2 ^ 63

/-- The octets from the first nonzero one, or the last zero. -/
def stripZeros (bytes : Octets) : Octets :=
  bytes.drop ((bytes.findIdx? (· ≠ 0)).getD (bytes.length - 1))

/-- What is left has no leading zero or is one octet. -/
theorem strip_zeros_cases {bytes : Octets} (h : bytes ≠ []) :
    (stripZeros bytes).headD 0 ≠ 0 ∨ stripZeros bytes = [0] := by
  unfold stripZeros
  cases hfind : bytes.findIdx? (· ≠ 0) with
  | some first =>
      obtain ⟨hlt, rfl⟩ := List.findIdx?_eq_some_iff_findIdx_eq.1 hfind
      refine .inl ?_
      have hnonzero := List.findIdx_getElem (p := fun octet : UInt8 => octet ≠ 0) (w := hlt)
      rw [Option.getD_some, List.drop_eq_getElem_cons hlt, List.headD_cons]
      simpa using hnonzero
  | none =>
      refine .inr ?_
      have hzero : ∀ octet ∈ bytes, octet = 0 := by
        intro octet hmem
        simpa using List.findIdx?_eq_none_iff.1 hfind octet hmem
      have hlast : bytes.drop (bytes.length - 1) = [bytes.getLast h] := List.drop_length_sub_one h
      rw [Option.getD_none, hlast, hzero _ (List.getLast_mem h)]

/-- The body before a zero is put in front of it for the sign bit. -/
def unsignedBody (bytes : Octets) : Octets := if bytes = [] then [0] else stripZeros bytes

/-- A body with its high bit set gets a zero octet before it. -/
theorem positive_body_eq (bytes : Octets) :
    positiveBody bytes =
      if (unsignedBody bytes).headD 0 &&& 0x80 ≠ 0 then 0 :: unsignedBody bytes
      else unsignedBody bytes :=
  rfl

/-- There is no leading zero octet, except in zero itself. -/
theorem unsigned_body_cases (bytes : Octets) :
    (unsignedBody bytes).headD 0 ≠ 0 ∨ unsignedBody bytes = [0] := by
  unfold unsignedBody
  split_ifs with hempty
  · exact .inr rfl
  · exact strip_zeros_cases hempty

theorem length_unsignedBody_le (bytes : Octets) :
    (unsignedBody bytes).length ≤ bytes.length + 1 := by
  unfold unsignedBody
  split_ifs with hempty
  · rw [List.length_singleton]
    omega
  · rw [stripZeros, List.length_drop]
    omega

/-- The body of `positive_integer` has no superfluous octet. -/
theorem minimalInteger_positiveBody (bytes : Octets) : MinimalInteger (positiveBody bytes) := by
  have hunsigned := unsigned_body_cases bytes
  rw [positive_body_eq]
  generalize unsignedBody bytes = body at hunsigned
  obtain hhead | rfl := hunsigned
  · cases body with
    | nil => exact absurd rfl hhead
    | cons first rest =>
        rw [List.headD_cons] at hhead ⊢
        split_ifs with hsign
        · -- The zero is added because the first octet has the sign bit.
          exact ⟨fun h => hsign (and_eq_zero_iff.2 h.2), nofun⟩
        · have hlt := and_eq_zero_iff.1 (not_not.1 hsign)
          cases rest with
          | nil => trivial
          | cons second rest =>
              refine ⟨fun h => hhead h.1, ?_⟩
              rintro ⟨rfl, _⟩
              exact absurd hlt (by decide)
  · exact trivial

theorem length_positiveBody_le (bytes : Octets) :
    (positiveBody bytes).length ≤ bytes.length + 2 := by
  have hle := length_unsignedBody_le bytes
  rw [positive_body_eq]
  split_ifs
  · rw [List.length_cons]
    omega
  · omega

/-- The body stands for its magnitude. -/
theorem ofTwosComplement_positiveBody (bytes : Octets) :
    Reader.ofTwosComplement (positiveBody bytes) = ofBigEndian bytes := by
  obtain ⟨hne, hsign, hvalue⟩ := positiveBody_spec bytes
  obtain ⟨first, rest, hbody⟩ := List.exists_cons_of_ne_nil hne
  rw [hbody] at hsign hvalue ⊢
  rw [← hvalue]
  exact if_pos hsign

/-- The length octets of an element are those of DER. -/
theorem derLength_body {body : Octets} (h : body.length < 2 ^ 64) :
    DerLength (lengthOctets (.ofNat body.length)) body.length := by
  have hder := derLength_lengthOctets (.ofNat body.length)
  rwa [UInt64.toNat_ofNat', Nat.mod_eq_of_lt h] at hder

theorem length_lengthOctets_le (length : UInt64) : (lengthOctets length).length ≤ 9 := by
  unfold lengthOctets
  split_ifs
  · show 1 ≤ 9
    omega
  · exact Nat.succ_le_succ (significant_length_le length)

/-- The body of a slice has a length of 64 bits. -/
theorem length_positiveBody_lt (bytes : Slice) :
    (positiveBody bytes.octets).length < 2 ^ 64 := by
  have hle := length_positiveBody_le bytes.octets
  have hlt := bytes.length_lt
  omega

/-- Elements of definite length follow DER: `write_length` and `encoded_length_size` agree on the
length octets, and `positive_integer` emits the contents octets of an integer. -/
theorem definite_elements_canonical :
    (∀ length : UInt64, ∃ octets,
      (∀ output, writeLength length output = .ok (output ++ octets)) ∧
      encodedLengthSize length = .ok octets.length ∧ octets.length ≤ 9 ∧
      DerLength octets length.toNat ∧ ShortestLength octets length.toNat) ∧
    (∀ (tag : UInt8) (body : Slice), ∃ octets,
      tlv tag body.octets = .ok (tag :: (octets ++ body.octets)) ∧
      DerLength octets body.octets.length) ∧
    ∀ bytes : Slice, ∃ octets body,
      positiveInteger bytes.octets = .ok (0x02 :: (octets ++ body)) ∧
      DerLength octets body.length ∧ MinimalInteger body ∧
      ShortestInteger body (ofBigEndian bytes.octets) ∧
      Reads Reader.integer (0x02 :: (octets ++ body)) (ofBigEndian bytes.octets : Int) := by
  refine ⟨fun length => ?_, fun tag body => ?_, fun bytes => ?_⟩
  · have hder := derLength_lengthOctets length
    exact ⟨lengthOctets length, write_length_eq length, encoded_length_size_eq length,
      length_lengthOctets_le length, hder, hder.shortestLength⟩
  · have hbody : body.octets.length < 2 ^ 64 := Nat.lt_trans body.length_lt (by omega)
    exact ⟨_, tlv_eq tag body.octets, derLength_body hbody⟩
  · have hbody := length_positiveBody_lt bytes
    have hminimal := minimalInteger_positiveBody bytes.octets
    exact ⟨_, positiveBody bytes.octets, tlv_eq 0x02 _, derLength_body hbody, hminimal,
      hminimal.shortestInteger (ofTwosComplement_positiveBody bytes.octets),
      reads_serialNumber hbody⟩

end TwEinvoice.Signing
