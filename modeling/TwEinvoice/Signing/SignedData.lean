import TwEinvoice.Signing.Ber

/-!
# Reading the CMS encoding

A reader for `SignedData` in BER, which takes either form of every constructed element and any
number of certificates and signers. It recovers what `encode_turnkey_signed_data` was given.
-/

namespace TwEinvoice.Signing

open Rust Ber Parsing

/-- What is known of one signer. -/
structure SignerInfo where
  issuer : Octets
  serialNumber : Int
  signatureAlgorithm : SignatureAlgorithm
  signature : Octets
  deriving DecidableEq

/-- What the encoding carries. -/
structure SignedData where
  content : Octets
  certificates : List Octets
  signerInfos : List SignerInfo
  deriving DecidableEq

/-! ## The reader -/

/-- 1.2.840.113549.1.7.2 -/
def idSignedData : Octets := [0x2a, 0x86, 0x48, 0x86, 0xf7, 0x0d, 0x01, 0x07, 0x02]

/-- 1.2.840.113549.1.7.1 -/
def idData : Octets := [0x2a, 0x86, 0x48, 0x86, 0xf7, 0x0d, 0x01, 0x07, 0x01]

/-- 2.16.840.1.101.3.4.2.1 -/
def idSha256 : Octets := [0x60, 0x86, 0x48, 0x01, 0x65, 0x03, 0x04, 0x02, 0x01]

/-- 1.2.840.113549.1.1.11 and 1.2.840.10045.4.3.2 -/
def SignatureAlgorithm.identifier : SignatureAlgorithm → Octets
  | .rsaPkcs1v15Sha256 => [0x2a, 0x86, 0x48, 0x86, 0xf7, 0x0d, 0x01, 0x01, 0x0b]
  | .ecdsaSha256 => [0x2a, 0x86, 0x48, 0xce, 0x3d, 0x04, 0x03, 0x02]

namespace Grammar

open Ber.Reader
open Parsing.Reader (require reject)

/-- Read this object identifier. -/
def identifier (expected : Octets) : Ber.Reader Unit := do
  let found ← primitive 0x06
  require (found = expected)

/-- Read an algorithm identifier, past any parameters. -/
def algorithm : Ber.Reader Octets := element 0x30 do
  let found ← primitive 0x06
  let _ ← listOf any
  return found

/-- Read a signature algorithm. -/
def signatureAlgorithm : Ber.Reader SignatureAlgorithm := do
  let found ← algorithm
  if found = SignatureAlgorithm.rsaPkcs1v15Sha256.identifier then return .rsaPkcs1v15Sha256
  else if found = SignatureAlgorithm.ecdsaSha256.identifier then return .ecdsaSha256
  else reject

/-- Read the version that goes with `IssuerAndSerialNumber`. -/
def version : Ber.Reader Unit := do
  let found ← integer
  require (found = 1)

/-- Read `IssuerAndSerialNumber`. -/
def issuerAndSerial : Ber.Reader (Octets × Int) := element 0x30 do
  let issuer ← any
  let serialNumber ← integer
  return (issuer, serialNumber)

/-- Read the digest algorithm SHA-256. -/
def digestAlgorithm : Ber.Reader Unit := do
  let found ← algorithm
  require (found = idSha256)

/-- Read `SignerInfo`. -/
def signerInfo : Ber.Reader SignerInfo := element 0x30 do
  version
  let (issuer, serialNumber) ← issuerAndSerial
  digestAlgorithm
  let signatureAlgorithm ← signatureAlgorithm
  let signature ← primitive 0x04
  return ⟨issuer, serialNumber, signatureAlgorithm, signature⟩

/-- Read `EncapsulatedContentInfo`. -/
def encapsulatedContent : Ber.Reader Octets := element 0x30 do
  identifier idData
  element 0xa0 (primitive 0x04)

/-- Read `SignedData`. -/
def signedData : Ber.Reader SignedData := element 0x30 do
  version
  let _ ← element 0x31 (listOf digestAlgorithm)
  let content ← encapsulatedContent
  let certificates ← element 0xa0 (listOf any)
  let signerInfos ← element 0x31 (listOf signerInfo)
  return ⟨content, certificates, signerInfos⟩

/-- Read `ContentInfo`. -/
def contentInfo : Ber.Reader SignedData := element 0x30 do
  identifier idSignedData
  element 0xa0 signedData

end Grammar

/-! ## What it recovers -/

/-- What the encoder is given. -/
def CmsParts.signedData (parts : CmsParts) : SignedData :=
  ⟨parts.content, [parts.certificateDer],
    [⟨parts.issuerNameDer, ofBigEndian parts.serialNumber, parts.signatureAlgorithm,
      parts.signature⟩]⟩

/-- `tlv` in a sequence of readers: an element of definite length. -/
theorem reads_definiteTlv {α : Type} {tag : UInt8} {reader : Ber.Reader α} {body : Octets}
    {value : α} (hbody : ReadsContents reader body value) (hlength : body.length < 2 ^ 64) :
    Reads (Ber.Reader.element tag reader) (definiteTlv tag body) value := by
  have hend := hbody [] (.inl rfl)
  rw [List.append_nil] at hend
  exact reads_element (length_body hlength) hend

/-- A primitive element is read back as its body. -/
theorem reads_primitive_definiteTlv {tag : UInt8} {body : Octets} (hlength : body.length < 2 ^ 64) :
    Reads (Ber.Reader.primitive tag) (definiteTlv tag body) body :=
  reads_primitive (length_body hlength)

/-- The object identifiers of the source are those of the reader. -/
theorem reads_oid {length : UInt8} {contents : Octets} (hshort : length < 0x80)
    (hlength : length.toNat = contents.length) :
    Reads (Ber.Reader.primitive 0x06) (0x06 :: length :: contents) contents :=
  reads_primitive (length_short hshort hlength)

/-- An algorithm is read back from its identifier. -/
theorem reads_encodedOid (algorithm : SignatureAlgorithm) :
    Reads (Ber.Reader.primitive 0x06) algorithm.encodedOid algorithm.identifier := by
  cases algorithm with
  | rsaPkcs1v15Sha256 => exact reads_oid (by decide) rfl
  | ecdsaSha256 => exact reads_oid (by decide) rfl

theorem reads_version : Reads Grammar.version integerOne () :=
  (reads_integer (length_short (by decide) rfl) (by simp) (by decide)).bindNil
    (reads_require (by decide))

/-- An algorithm identifier with `NULL` parameters. -/
theorem reads_algorithm {oid expected : Octets}
    (hoid : Reads (Ber.Reader.primitive 0x06) oid expected) (hlength : oid.length < 128) :
    Reads Grammar.algorithm (algorithmTlv oid) expected := by
  have hnull : Reads Ber.Reader.any asn1Null asn1Null :=
    DefiniteElement.reads_any (by decide) ⟨[0x00], [], rfl, rfl⟩
  refine reads_definiteTlv (hoid.bindBefore ?_) ?_
  · refine (readsContents_one hnull ⟨0x05, [0x00], rfl, by decide⟩).bindNil ?_
    exact reads_pure _
  · simp only [List.length_append, asn1Null, List.length_cons, List.length_nil]
    omega

/-! ## The serial number -/

/-- An octet without the sign bit. -/
theorem and_eq_zero_iff {octet : UInt8} : octet &&& 0x80 = 0 ↔ octet < 0x80 := by
  have hall : ∀ value : Nat, value < 256 →
      (UInt8.ofNat value &&& 0x80 = 0 ↔ UInt8.ofNat value < 0x80) := by decide +kernel
  have hoctet := hall octet.toNat octet.toNat_lt
  rwa [UInt8.ofNat_toNat] at hoctet

/-- What is left of the serial number without its leading zeros. -/
theorem ofBigEndian_drop (bytes : Octets) :
    ofBigEndian (bytes.drop ((bytes.findIdx? (· ≠ 0)).getD (bytes.length - 1))) =
      ofBigEndian bytes := by
  cases hfind : bytes.findIdx? (· ≠ 0) with
  | some first =>
      obtain ⟨_, hfirst⟩ := List.findIdx?_eq_some_iff_findIdx_eq.1 hfind
      rw [Option.getD_some, ← hfirst, drop_findIdx_eq, ofBigEndian_dropWhile_zero]
  | none =>
      have hzero : ∀ octet ∈ bytes, octet = 0 := by
        intro octet hmem
        simpa using List.findIdx?_eq_none_iff.1 hfind octet hmem
      rw [ofBigEndian_eq_zero hzero,
        ofBigEndian_eq_zero fun octet hmem => hzero octet (List.mem_of_mem_drop hmem)]

theorem drop_ne_nil {bytes : Octets} (h : bytes ≠ []) :
    bytes.drop ((bytes.findIdx? (· ≠ 0)).getD (bytes.length - 1)) ≠ [] := by
  have hlength := List.length_pos_iff.2 h
  intro hnil
  have hle := List.drop_eq_nil_iff.1 hnil
  cases hfind : bytes.findIdx? (· ≠ 0) with
  | some first =>
      obtain ⟨hlt, _⟩ := List.findIdx?_eq_some_iff_findIdx_eq.1 hfind
      rw [hfind, Option.getD_some] at hle
      omega
  | none =>
      rw [hfind, Option.getD_none] at hle
      omega

/-- The body of the serial number denotes it, without a sign bit. -/
theorem positiveBody_spec (bytes : Octets) :
    positiveBody bytes ≠ [] ∧ (positiveBody bytes).headD 0 < 0x80 ∧
      ofBigEndian (positiveBody bytes) = ofBigEndian bytes := by
  have hbody : ∀ body : Octets, body ≠ [] → ofBigEndian body = ofBigEndian bytes →
      (if body.headD 0 &&& 0x80 ≠ 0 then 0 :: body else body) ≠ [] ∧
      (if body.headD 0 &&& 0x80 ≠ 0 then 0 :: body else body).headD 0 < 0x80 ∧
      ofBigEndian (if body.headD 0 &&& 0x80 ≠ 0 then 0 :: body else body) =
        ofBigEndian bytes := by
    intro body hne hvalue
    split_ifs with hsign
    · exact ⟨List.cons_ne_nil _ _, show (0 : UInt8) < 0x80 by decide, hvalue⟩
    · exact ⟨hne, and_eq_zero_iff.1 (not_not.1 hsign), hvalue⟩
  unfold positiveBody
  by_cases hempty : bytes = []
  · subst hempty
    exact hbody [0] (by simp) rfl
  · simp only [if_neg hempty]
    exact hbody _ (drop_ne_nil hempty) (ofBigEndian_drop bytes)

/-- A serial number is read back as the number of its magnitude. -/
theorem reads_serialNumber {bytes : Octets} (hlength : (positiveBody bytes).length < 2 ^ 64) :
    Reads Ber.Reader.integer (definiteTlv 0x02 (positiveBody bytes)) (ofBigEndian bytes) := by
  obtain ⟨hne, hsign, hvalue⟩ := positiveBody_spec bytes
  rw [← hvalue]
  exact reads_integer (length_body hlength) hne hsign

/-! ## The whole encoding -/

/-- A sequence of this profile: a certificate or an issuer name. -/
abbrev DerSequence (octets : Octets) : Prop := DefiniteElement 0x30 octets

theorem definiteTlv_length (tag : UInt8) (body : Octets) :
    (definiteTlv tag body).length =
      1 + (lengthOctets (.ofNat body.length)).length + body.length := by
  rw [definiteTlv, List.length_cons, List.length_append]
  omega

theorem reads_digestAlgorithm : Reads Grammar.digestAlgorithm (algorithmTlv oidSha256) () :=
  (reads_algorithm (reads_oid (by decide) rfl) (by decide)).bindNil (reads_require (by decide))

theorem reads_signatureAlgorithm (algorithm : SignatureAlgorithm) :
    Reads Grammar.signatureAlgorithm (algorithmTlv algorithm.encodedOid) algorithm := by
  have hlength : algorithm.encodedOid.length < 128 := by cases algorithm <;> decide
  refine (reads_algorithm (reads_encodedOid algorithm) hlength).bindNil ?_
  cases algorithm with
  | rsaPkcs1v15Sha256 => exact reads_pure _
  | ecdsaSha256 => exact reads_pure _

/-- The issuer and the serial number are read back. -/
theorem reads_issuerAndSerial {parts : CmsParts} (hissuer : DerSequence parts.issuerNameDer)
    (hlength : (definiteTlv 0x30 (parts.issuerNameDer ++
      definiteTlv 0x02 (positiveBody parts.serialNumber))).length < 2 ^ 64) :
    Reads Grammar.issuerAndSerial (definiteTlv 0x30 (parts.issuerNameDer ++
        definiteTlv 0x02 (positiveBody parts.serialNumber)))
      (parts.issuerNameDer, (ofBigEndian parts.serialNumber : Int)) := by
  simp only [definiteTlv_length, List.length_append] at hlength
  have hserial : (positiveBody parts.serialNumber).length < 2 ^ 64 := by omega
  refine reads_definiteTlv ((hissuer.reads_any (by decide)).bindBefore ?_) ?_
  · refine Reads.before (Reads.bindNil (reads_serialNumber hserial) ?_)
    exact reads_pure _
  · rw [List.length_append, definiteTlv_length]
    omega

/-- A signer is read back with all that it says. -/
theorem reads_signerInfo {parts : CmsParts} (hissuer : DerSequence parts.issuerNameDer)
    (hlength : parts.signerTlv.length < 2 ^ 64) :
    Reads Grammar.signerInfo parts.signerTlv
      ⟨parts.issuerNameDer, ofBigEndian parts.serialNumber, parts.signatureAlgorithm,
        parts.signature⟩ := by
  unfold CmsParts.signerTlv at hlength ⊢
  have hbody := hlength
  rw [definiteTlv_length] at hbody
  refine reads_definiteTlv (reads_version.bindBefore ?_) (by omega)
  simp only [List.length_append] at hbody
  refine (reads_issuerAndSerial hissuer (by omega)).bindBefore ?_
  refine reads_digestAlgorithm.bindBefore ?_
  refine (reads_signatureAlgorithm parts.signatureAlgorithm).bindBefore ?_
  have hsignature : Reads (Ber.Reader.primitive 0x04) (definiteTlv 0x04 parts.signature)
      parts.signature := by
    rw [definiteTlv_length 0x04] at hbody
    exact reads_primitive_definiteTlv (by omega)
  refine Reads.before (Reads.bindNil hsignature ?_)
  exact reads_pure _

/-- The reader knows the identifiers of `SignedData` and of its content. -/
theorem reads_identifier {octets expected : Octets}
    (hoid : Reads (Ber.Reader.primitive 0x06) octets expected) :
    Reads (Grammar.identifier expected) octets () :=
  hoid.bindNil (reads_require (by simp))

/-- The content is read back from its indefinite element. -/
theorem reads_encapsulatedContent {content : Octets} (hlength : content.length < 2 ^ 64) :
    Reads Grammar.encapsulatedContent
      (indefiniteTlv 0x30 (oidData ++ indefiniteTlv 0xa0 (definiteTlv 0x04 content))) content := by
  have hidentifier : Reads (Grammar.identifier idData) oidData () :=
    reads_identifier (reads_oid (by decide) rfl)
  refine reads_element_indefinite (by decide) (hidentifier.bindBefore ?_)
  exact (reads_element_indefinite (by decide)
    (reads_primitive_definiteTlv hlength).before).before

/-- All parts of the layout are read back. -/
theorem reads_layout {parts : CmsParts} (hcertificate : DerSequence parts.certificateDer)
    (hissuer : DerSequence parts.issuerNameDer) (hlength : parts.layout.length < 2 ^ 64) :
    Reads Grammar.contentInfo parts.layout parts.signedData := by
  have hidentifier : Reads (Grammar.identifier idSignedData) oidSignedData () :=
    reads_identifier (reads_oid (by decide) rfl)
  simp only [CmsParts.layout, indefiniteTlv, List.length_cons, List.length_append] at hlength
  have hcontent : parts.content.length < 2 ^ 64 := by
    rw [definiteTlv_length 0x04] at hlength
    omega
  have hsigner : parts.signerTlv.length < 2 ^ 64 := by
    rw [definiteTlv_length 0x31 parts.signerTlv] at hlength
    omega
  have hdigests : Reads (Ber.Reader.element 0x31 (Ber.Reader.listOf Grammar.digestAlgorithm))
      (definiteTlv 0x31 (algorithmTlv oidSha256)) [()] :=
    reads_definiteTlv (readsContents_one reads_digestAlgorithm ⟨0x30, _, rfl, by decide⟩)
      (by decide)
  have hcertificates : Reads (Ber.Reader.element 0xa0 (Ber.Reader.listOf Ber.Reader.any))
      (indefiniteTlv 0xa0 parts.certificateDer) [parts.certificateDer] := by
    obtain ⟨input, contents, hoctets, _⟩ := id hcertificate
    exact reads_element_indefinite (by decide)
      (readsContents_one (hcertificate.reads_any (by decide)) ⟨0x30, input, hoctets, by decide⟩)
  have hsigners : Reads (Ber.Reader.element 0x31 (Ber.Reader.listOf Grammar.signerInfo))
      (definiteTlv 0x31 parts.signerTlv) _ :=
    reads_definiteTlv (readsContents_one (reads_signerInfo hissuer hsigner)
      ⟨0x30, _, rfl, by decide⟩) hsigner
  refine reads_element_indefinite (by decide) (hidentifier.bindBefore (Reads.before ?_))
  refine reads_element_indefinite (by decide) (Reads.before ?_)
  refine reads_element_indefinite (by decide) (reads_version.bindBefore ?_)
  refine hdigests.bindBefore ?_
  refine (reads_encapsulatedContent hcontent).bindBefore ?_
  refine hcertificates.bindBefore (Reads.before (Reads.bindNil hsigners ?_))
  exact reads_pure _

/-- The certificate and the issuer name are sequences, and the whole encoding has a length. -/
structure CmsParts.Encodable (parts : CmsParts) : Prop where
  certificate : DerSequence parts.certificateDer
  issuer : DerSequence parts.issuerNameDer
  length : ∀ octets, encodeTurnkeySignedData parts = .ok octets → octets.length < 2 ^ 64

theorem CmsParts.Encodable.reads {parts : CmsParts} (h : parts.Encodable) :
    Grammar.contentInfo parts.layout = some (parts.signedData, []) := by
  have hread := reads_layout h.certificate h.issuer (h.length _ (encode_eq parts)) []
  rwa [List.append_nil] at hread

/-- The encoding is read back completely, and no other input of the encoder has it. -/
theorem signed_data_recovered (parts : CmsParts) (h : parts.Encodable) :
    (∃ octets, encodeTurnkeySignedData parts = .ok octets ∧
      Grammar.contentInfo octets = some (parts.signedData, [])) ∧
    ∀ other : CmsParts, other.Encodable →
      encodeTurnkeySignedData other = encodeTurnkeySignedData parts →
      other.content = parts.content ∧ other.certificateDer = parts.certificateDer ∧
      other.issuerNameDer = parts.issuerNameDer ∧
      ofBigEndian other.serialNumber = ofBigEndian parts.serialNumber ∧
      other.signatureAlgorithm = parts.signatureAlgorithm ∧
      other.signature = parts.signature := by
  refine ⟨⟨parts.layout, encode_eq parts, h.reads⟩, fun other hother hsame => ?_⟩
  rw [encode_eq, encode_eq] at hsame
  have hread := hother.reads
  rw [Except.ok.inj hsame, h.reads] at hread
  have hdata : parts.signedData = other.signedData := by
    simpa using hread
  simp only [CmsParts.signedData, SignedData.mk.injEq, SignerInfo.mk.injEq, List.cons.injEq,
    and_true, Int.natCast_inj] at hdata
  obtain ⟨hcontent, hcertificate, hissuer, hserial, halgorithm, hsignature⟩ := hdata
  exact ⟨hcontent.symm, hcertificate.symm, hissuer.symm, hserial.symm, halgorithm.symm,
    hsignature.symm⟩

/-- The tiny values of the layout test. -/
def sampleParts : CmsParts where
  content := [0x78]
  certificateDer := [0x30, 0x00]
  issuerNameDer := [0x30, 0x00]
  serialNumber := [0x80]
  signatureAlgorithm := .rsaPkcs1v15Sha256
  signature := [0xaa]

theorem sample_recovered :
    (∃ octets, encodeTurnkeySignedData sampleParts = .ok octets ∧
      Grammar.contentInfo octets =
        some (⟨[0x78], [[0x30, 0x00]], [⟨[0x30, 0x00], 128, .rsaPkcs1v15Sha256, [0xaa]⟩]⟩, [])) ∧
    ∀ other : CmsParts, other.Encodable →
      encodeTurnkeySignedData other = encodeTurnkeySignedData sampleParts →
      other.content = [0x78] ∧ other.certificateDer = [0x30, 0x00] ∧
      other.issuerNameDer = [0x30, 0x00] ∧ ofBigEndian other.serialNumber = 128 ∧
      other.signatureAlgorithm = .rsaPkcs1v15Sha256 ∧ other.signature = [0xaa] := by
  have hsequence : DerSequence [0x30, 0x00] := ⟨[0x00], [], rfl, rfl⟩
  have hlength : ∀ octets, encodeTurnkeySignedData sampleParts = .ok octets →
      octets.length < 2 ^ 64 := by
    intro octets hoctets
    rw [encode_eq] at hoctets
    cases hoctets
    decide +kernel
  exact signed_data_recovered sampleParts ⟨hsequence, hsequence, hlength⟩

end TwEinvoice.Signing
