import TwEinvoice.Ber.Canonical
import TwEinvoice.Rust.Machine

/-!
# The CMS encoder

`encode_turnkey_signed_data` of the signing crate, with its helpers. A call of
`expect` may panic; `tlv_eq` shows that none does. `CmsParts.layout` is the encoding as nested
elements.
-/

namespace TwEinvoice.Signing

open Rust Ber

/-- Signature algorithms observed for software-certificate signing. -/
inductive SignatureAlgorithm where
  | rsaPkcs1v15Sha256
  | ecdsaSha256
  deriving DecidableEq

/-- What goes into the encoding. -/
structure CmsParts where
  content : Octets
  certificateDer : Octets
  issuerNameDer : Octets
  serialNumber : Octets
  signatureAlgorithm : SignatureAlgorithm
  signature : Octets

def eoc : Octets := [0x00, 0x00]

def asn1Null : Octets := [0x05, 0x00]

/-- OID 1.2.840.113549.1.7.2 (signedData), including ASN.1 tag and length. -/
def oidSignedData : Octets :=
  [0x06, 0x09, 0x2a, 0x86, 0x48, 0x86, 0xf7, 0x0d, 0x01, 0x07, 0x02]

/-- OID 1.2.840.113549.1.7.1 (data), including ASN.1 tag and length. -/
def oidData : Octets :=
  [0x06, 0x09, 0x2a, 0x86, 0x48, 0x86, 0xf7, 0x0d, 0x01, 0x07, 0x01]

/-- OID 2.16.840.1.101.3.4.2.1 (sha256), including ASN.1 tag and length. -/
def oidSha256 : Octets :=
  [0x06, 0x09, 0x60, 0x86, 0x48, 0x01, 0x65, 0x03, 0x04, 0x02, 0x01]

/-- OID 1.2.840.113549.1.1.11 (sha256WithRSAEncryption). -/
def oidSha256WithRsa : Octets :=
  [0x06, 0x09, 0x2a, 0x86, 0x48, 0x86, 0xf7, 0x0d, 0x01, 0x01, 0x0b]

/-- OID 1.2.840.10045.4.3.2 (ecdsa-with-SHA256). -/
def oidEcdsaWithSha256 : Octets :=
  [0x06, 0x08, 0x2a, 0x86, 0x48, 0xce, 0x3d, 0x04, 0x03, 0x02]

/-! ## Lengths and elements -/

/-- `u8::try_from` on a `usize`. -/
def u8TryFrom (value : Nat) : Option UInt8 :=
  if value < 256 then some (UInt8.ofNat value) else none

/-- `usize::to_be_bytes`, for 64 bits. -/
def toBeBytes (value : UInt64) : Octets := bigEndian 8 value.toNat

/-- `encoded_length_size`. -/
def encodedLengthSize (length : UInt64) : Except Panic Nat := do
  if length < 128 then return 1
  else
    let bytes := toBeBytes length
    let firstNonzero ← expect (bytes.findIdx? (· ≠ 0)) "non-short ASN.1 length is nonzero"
    return 1 + bytes.length - firstNonzero

/-- `write_length`. -/
def writeLength (length : UInt64) (output : Octets) : Except Panic Octets := do
  if length < 128 then
    let short ← expect (u8TryFrom length.toNat) "short-form ASN.1 length fits in u8"
    return output ++ [short]
  else
    let bytes := toBeBytes length
    let firstNonzero ← expect (bytes.findIdx? (· ≠ 0)) "non-short ASN.1 length is nonzero"
    let significant := bytes.drop firstNonzero
    let count ← expect (u8TryFrom significant.length) "usize length-of-length fits in u8"
    return output ++ [0x80 ||| count] ++ significant

/-- `tlv`. The size of the length is computed for the capacity of the vector only. -/
def tlv (tag : UInt8) (body : Octets) : Except Panic Octets := do
  let length := UInt64.ofNat body.length
  let _ ← encodedLengthSize length
  let encoded ← writeLength length [tag]
  return encoded ++ body

/-- `constructed`. -/
def constructed (tag : UInt8) (elements : List Octets) : Except Panic Octets :=
  tlv tag elements.flatten

def sequence (elements : List Octets) : Except Panic Octets := constructed 0x30 elements

def set (elements : List Octets) : Except Panic Octets := constructed 0x31 elements

/-- `octet_string`. -/
def octetString (bytes : Octets) : Except Panic Octets := tlv 0x04 bytes

/-- `algorithm_identifier`. -/
def algorithmIdentifier (oid : Octets) : Except Panic Octets := sequence [oid, asn1Null]

/-- The body of `positive_integer`. -/
def positiveBody (bytes : Octets) : Octets :=
  let body :=
    if bytes = [] then [0]
    else
      let firstNonzero := (bytes.findIdx? (· ≠ 0)).getD (bytes.length - 1)
      bytes.drop firstNonzero
  if body.headD 0 &&& 0x80 ≠ 0 then 0 :: body else body

/-- `positive_integer`. -/
def positiveInteger (bytes : Octets) : Except Panic Octets := tlv 0x02 (positiveBody bytes)

/-- `integer_one`. -/
def integerOne : Octets := [0x02, 0x01, 0x01]

/-- `open_indefinite`. -/
def openIndefinite (tag : UInt8) (output : Octets) : Octets := output ++ [tag, 0x80]

/-- `close_indefinite`. -/
def closeIndefinite (output : Octets) : Octets := output ++ eoc

/-- The OID that `encode_turnkey_signed_data` puts in for a signature algorithm. -/
def SignatureAlgorithm.encodedOid : SignatureAlgorithm → Octets
  | .rsaPkcs1v15Sha256 => oidSha256WithRsa
  | .ecdsaSha256 => oidEcdsaWithSha256

/-- `encode_turnkey_signed_data`. -/
def encodeTurnkeySignedData (parts : CmsParts) : Except Panic Octets := do
  let digestAlgorithm ← algorithmIdentifier oidSha256
  let signatureAlgorithm ← algorithmIdentifier parts.signatureAlgorithm.encodedOid
  let issuerAndSerial ← sequence [parts.issuerNameDer, ← positiveInteger parts.serialNumber]
  let signerInfo ← sequence
    [integerOne, issuerAndSerial, digestAlgorithm, signatureAlgorithm,
      ← octetString parts.signature]
  let output := []
  -- ContentInfo
  let output := openIndefinite 0x30 output
  let output := output ++ oidSignedData
  -- content [0] EXPLICIT SignedData
  let output := openIndefinite 0xa0 output
  -- SignedData
  let output := openIndefinite 0x30 output
  let output := output ++ integerOne
  let output := output ++ (← set [digestAlgorithm])
  -- EncapsulatedContentInfo
  let output := openIndefinite 0x30 output
  let output := output ++ oidData
  -- eContent [0] EXPLICIT OCTET STRING
  let output := openIndefinite 0xa0 output
  let output := output ++ (← octetString parts.content)
  let output := closeIndefinite output
  let output := closeIndefinite output
  -- certificates [0] IMPLICIT CertificateSet
  let output := openIndefinite 0xa0 output
  let output := output ++ parts.certificateDer
  let output := closeIndefinite output
  -- signerInfos
  let output := output ++ (← set [signerInfo])
  let output := closeIndefinite output
  let output := closeIndefinite output
  let output := closeIndefinite output
  return output

/-! ## The encoding as nested elements -/

/-- The length octets that `write_length` emits. -/
def lengthOctets (length : UInt64) : Octets :=
  if length < 128 then [UInt8.ofNat length.toNat]
  else
    let significant := (toBeBytes length).dropWhile (· = 0)
    UInt8.ofNat (128 + significant.length) :: significant

theorem lt_128_iff (length : UInt64) : length < 128 ↔ length.toNat < 128 :=
  UInt64.lt_iff_toNat_lt

/-- Both functions find the first nonzero octet of a length of 128 or more. -/
theorem find_significant {length : UInt64} (h : ¬ length < 128) :
    (toBeBytes length).findIdx? (· ≠ 0) = some ((toBeBytes length).findIdx (· ≠ 0)) := by
  apply List.findIdx?_eq_some_of_exists
  by_contra hnone
  have hzero : ∀ octet ∈ toBeBytes length, octet = 0 := by
    intro octet hmem
    by_contra hne
    exact hnone ⟨octet, hmem, by simpa using hne⟩
  have hvalue := ofBigEndian_eq_zero hzero
  rw [toBeBytes, ofBigEndian_bigEndian] at hvalue
  have hlt := length.toNat_lt
  have hlong := mt (lt_128_iff length).2 h
  omega

/-- At most eight octets are significant. -/
theorem significant_length_le (length : UInt64) :
    ((toBeBytes length).dropWhile (· = 0)).length ≤ 8 := by
  have hsuffix := (List.dropWhile_suffix (fun octet : UInt8 => octet = 0)
    (l := toBeBytes length)).length_le
  rwa [toBeBytes, bigEndian_length] at hsuffix

theorem ok_bind {α β : Type} (value : α) (next : α → Except Panic β) :
    (Except.ok value >>= next) = next value := rfl

theorem expect_some {α : Type} (value : α) (message : String) :
    expect (some value) message = .ok value := rfl

theorem u8_try_from_eq {value : Nat} (h : value < 256) : u8TryFrom value = some (.ofNat value) :=
  if_pos h

/-- The first octet of a long length has its high bit, and the number of the others. -/
theorem or_ofNat {count : Nat} (h : count ≤ 8) :
    (0x80 : UInt8) ||| UInt8.ofNat count = UInt8.ofNat (128 + count) := by
  have hall : ∀ count : Nat, count < 9 →
      (0x80 : UInt8) ||| UInt8.ofNat count = UInt8.ofNat (128 + count) := by decide
  exact hall count (by omega)

/-- `encoded_length_size` counts what `write_length` emits. -/
theorem encoded_length_size_eq (length : UInt64) :
    encodedLengthSize length = .ok (lengthOctets length).length := by
  unfold encodedLengthSize lengthOctets
  split_ifs with hshort
  · rfl
  · have hcount := congrArg List.length (drop_findIdx_eq (toBeBytes length))
    have hfound : (toBeBytes length).findIdx (· ≠ 0) ≤ (toBeBytes length).length :=
      List.findIdx_le_length
    rw [List.length_drop] at hcount
    simp only [find_significant hshort, expect_some, ok_bind]
    refine congrArg Except.ok ?_
    rw [List.length_cons, ← hcount]
    omega

/-- The length is written, without a panic. -/
theorem write_length_eq (length : UInt64) (output : Octets) :
    writeLength length output = .ok (output ++ lengthOctets length) := by
  unfold writeLength lengthOctets
  split_ifs with hshort
  · have hlt : length.toNat < 256 := Nat.lt_trans ((lt_128_iff length).1 hshort) (by omega)
    rw [u8_try_from_eq hlt, expect_some, ok_bind]
    rfl
  · have hcount := significant_length_le length
    simp only [find_significant hshort, expect_some, ok_bind, drop_findIdx_eq]
    rw [u8_try_from_eq (by omega), expect_some, ok_bind, or_ofNat hcount, List.append_assoc]
    rfl

/-- The element of definite length that `tlv` emits. -/
def definiteTlv (tag : UInt8) (body : Octets) : Octets :=
  tag :: (lengthOctets (.ofNat body.length) ++ body)

/-- An element is written, without a panic. -/
theorem tlv_eq (tag : UInt8) (body : Octets) : tlv tag body = .ok (definiteTlv tag body) := by
  simp only [tlv, encoded_length_size_eq, write_length_eq, ok_bind]
  rfl

/-- The significant octets denote the length. -/
theorem ofBigEndian_significant (length : UInt64) :
    ofBigEndian ((toBeBytes length).dropWhile (· = 0)) = length.toNat := by
  rw [ofBigEndian_dropWhile_zero, toBeBytes, ofBigEndian_bigEndian]
  exact Nat.mod_eq_of_lt length.toNat_lt

/-- The length octets are those of DER. -/
theorem derLength_lengthOctets (length : UInt64) :
    DerLength (lengthOctets length) length.toNat := by
  unfold lengthOctets
  split_ifs with hshort
  · have hlt := (lt_128_iff length).1 hshort
    have hfirst : (UInt8.ofNat length.toNat).toNat = length.toNat := by
      rw [UInt8.toNat_ofNat']
      omega
    have hder : DerLength [UInt8.ofNat length.toNat] _ := .short (by rw [hfirst]; exact hlt)
    rwa [hfirst] at hder
  · have hle := significant_length_le length
    have hvalue := ofBigEndian_significant length
    have hlong := mt (lt_128_iff length).2 hshort
    have hhead : ((toBeBytes length).dropWhile (· = 0)).headD 0 ≠ 0 := by
      cases hsignificant : (toBeBytes length).dropWhile (· = 0) with
      | nil =>
          rw [hsignificant] at hvalue
          exact absurd (Nat.lt_of_le_of_lt (Nat.le_of_eq hvalue.symm) (by decide)) hlong
      | cons first rest =>
          have hnot := List.head?_dropWhile_not (fun octet : UInt8 => octet = 0) (toBeBytes length)
          rw [hsignificant] at hnot
          simpa using hnot
    have hfirst : (UInt8.ofNat (128 + ((toBeBytes length).dropWhile (· = 0)).length)).toNat =
        128 + ((toBeBytes length).dropWhile (· = 0)).length := by
      rw [UInt8.toNat_ofNat']
      omega
    have hder := DerLength.long hfirst (by omega) hhead (by omega)
    rwa [hvalue] at hder

/-- The length octets say the length. -/
theorem length_lengthOctets (length : UInt64) (rest : Octets) :
    Reader.length (lengthOctets length ++ rest) = some (.definite length.toNat, rest) :=
  (derLength_lengthOctets length).reads rest

/-- The length octets of an element say where its body ends. -/
theorem length_body {body : Octets} (h : body.length < 2 ^ 64) :
    Reader.length (lengthOctets (.ofNat body.length) ++ body) =
      some (.definite body.length, body) := by
  rw [length_lengthOctets, UInt64.toNat_ofNat', Nat.mod_eq_of_lt h]

/-- An element of indefinite length. -/
def indefiniteTlv (tag : UInt8) (contents : Octets) : Octets :=
  tag :: 0x80 :: (contents ++ [0, 0])

/-- The encoding of an algorithm identifier. -/
def algorithmTlv (oid : Octets) : Octets := definiteTlv 0x30 (oid ++ asn1Null)

/-- The encoding of `SignerInfo`. -/
def CmsParts.signerTlv (parts : CmsParts) : Octets :=
  definiteTlv 0x30 (integerOne ++
    (definiteTlv 0x30 (parts.issuerNameDer ++
      definiteTlv 0x02 (positiveBody parts.serialNumber)) ++
    (algorithmTlv oidSha256 ++
    (algorithmTlv parts.signatureAlgorithm.encodedOid ++
    definiteTlv 0x04 parts.signature))))

/-- The encoding of `SignedData`, as nested elements. -/
def CmsParts.layout (parts : CmsParts) : Octets :=
  indefiniteTlv 0x30 (oidSignedData ++ indefiniteTlv 0xa0 (indefiniteTlv 0x30 (integerOne ++
    (definiteTlv 0x31 (algorithmTlv oidSha256) ++
    (indefiniteTlv 0x30 (oidData ++ indefiniteTlv 0xa0 (definiteTlv 0x04 parts.content)) ++
    (indefiniteTlv 0xa0 parts.certificateDer ++
    definiteTlv 0x31 parts.signerTlv))))))

/-- The encoder does not panic and emits the nested elements. -/
theorem encode_eq (parts : CmsParts) : encodeTurnkeySignedData parts = .ok parts.layout := by
  simp only [encodeTurnkeySignedData, algorithmIdentifier, sequence, set, constructed, octetString,
    positiveInteger, tlv_eq, ok_bind]
  show Except.ok _ = _
  simp [CmsParts.layout, CmsParts.signerTlv, algorithmTlv, indefiniteTlv, openIndefinite,
    closeIndefinite, eoc]

end TwEinvoice.Signing
