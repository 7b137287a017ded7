import TwEinvoice.Signing.Armor
import TwEinvoice.Signing.SignedData

/-!
# The signer of a PKCS#12 identity

`PfxSigner::sign_attached`. OpenSSL is a parameter, a signer being given as its state. The serial
number of the certificate goes into the encoding as the magnitude of an integer, without its sign.
-/

namespace TwEinvoice.Signing

open Rust Ber

/-- What the source calls of OpenSSL. A `BigNum` is an integer. -/
structure OpenSsl where
  PKey : Type
  X509 : Type
  Signer : Type
  ErrorStack : Type
  newSigner : PKey → Except ErrorStack Signer
  setRsaPadding : Signer → Except ErrorStack Signer
  update : Signer → Octets → Except ErrorStack Signer
  signToVec : Signer → Except ErrorStack Octets
  toDer : X509 → Except ErrorStack Octets
  issuerNameToDer : X509 → Except ErrorStack Octets
  serialNumberToBn : X509 → Except ErrorStack Int

/-- `BigNum::to_vec`: the magnitude, big-endian and without leading zeros. -/
def bigNumToVec (value : Int) : Octets :=
  (bigEndian (value.natAbs.log2 + 1) value.natAbs).dropWhile (· = 0)

/-- Why nothing is signed. -/
inductive PfxSignerError (openssl : OpenSsl) where
  | openSsl (error : openssl.ErrorStack)

/-- Software-certificate signer backed by a PKCS#12/PFX identity. -/
structure PfxSigner (openssl : OpenSsl) where
  privateKey : openssl.PKey
  certificate : openssl.X509
  signatureAlgorithm : SignatureAlgorithm

variable {openssl : OpenSsl}

/-- The operator `?` on a result of OpenSSL. -/
def tryOpenSsl {α : Type} (result : Except openssl.ErrorStack α) :
    ExceptT (PfxSignerError openssl) (Except Panic) α :=
  ExceptT.mk (.ok (result.mapError .openSsl))

/-- The encoding is never empty. -/
theorem encode_ne_nil {parts : CmsParts} {encoded : Octets}
    (h : encodeTurnkeySignedData parts = .ok encoded) : encoded ≠ [] := by
  rw [encode_eq] at h
  cases h
  exact List.cons_ne_nil _ _

/-- `CmsSignedData::from_encoded_unchecked` on what the encoder emits. -/
def encodedCms (parts : CmsParts) : Except Panic CmsSignedData :=
  match h : encodeTurnkeySignedData parts with
  | .ok encoded => .ok ⟨encoded, encode_ne_nil h⟩
  | .error panic => .error panic

/-- The `signer` of `sign_attached` before it gets the content. -/
def PfxSigner.newSigner (signer : PfxSigner openssl) :
    ExceptT (PfxSignerError openssl) (Except Panic) openssl.Signer := do
  let state ← tryOpenSsl (openssl.newSigner signer.privateKey)
  if signer.signatureAlgorithm = .rsaPkcs1v15Sha256 then tryOpenSsl (openssl.setRsaPadding state)
  else return state

/-- `PfxSigner::sign_attached`. -/
def PfxSigner.signAttached (signer : PfxSigner openssl) (content : Octets) :
    ExceptT (PfxSignerError openssl) (Except Panic) CmsSignedData := do
  let state ← signer.newSigner
  let state ← tryOpenSsl (openssl.update state content)
  let signature ← tryOpenSsl (openssl.signToVec state)
  let certificateDer ← tryOpenSsl (openssl.toDer signer.certificate)
  let issuerNameDer ← tryOpenSsl (openssl.issuerNameToDer signer.certificate)
  let serialNumber ← tryOpenSsl (openssl.serialNumberToBn signer.certificate)
  ExceptT.lift (encodedCms {
    content, certificateDer, issuerNameDer, signature
    -- A negative serial number loses its sign here.
    serialNumber := bigNumToVec serialNumber
    signatureAlgorithm := signer.signatureAlgorithm })

/-! ## What is signed -/

theorem ok_of_run_bind_ok {ε α β : Type} {x : ExceptT ε (Except Panic) α}
    {f : α → ExceptT ε (Except Panic) β} {result : β} (h : (x >>= f).run = .ok (.ok result)) :
    ∃ value, x.run = .ok (.ok value) ∧ (f value).run = .ok (.ok result) := by
  rw [ExceptT.run_bind] at h
  obtain ⟨first, hfirst, h⟩ := ok_of_bind_ok h
  cases first with
  | error error => cases h
  | ok value => exact ⟨value, hfirst, h⟩

theorem try_openssl_ok {α : Type} {result : Except openssl.ErrorStack α} {value : α}
    (h : (tryOpenSsl result).run = .ok (.ok value)) : result = .ok value := by
  cases result with
  | error error => cases h
  | ok first =>
      cases h
      rfl

/-- Every layout is encoded, without a panic. -/
theorem encoded_cms_eq (parts : CmsParts) :
    encodedCms parts = .ok ⟨parts.layout, encode_ne_nil (encode_eq parts)⟩ := by
  unfold encodedCms
  split
  · next encoded hencoded =>
    cases (encode_eq parts).symm.trans hencoded
    rfl
  · next panic hpanic =>
    rw [encode_eq] at hpanic
    cases hpanic

/-- What is signed carries the serial number that OpenSSL has for the certificate. -/
theorem sign_attached_ok {signer : PfxSigner openssl} {content : Octets} {signed : CmsSignedData}
    (h : (signer.signAttached content).run = .ok (.ok signed)) :
    ∃ (parts : CmsParts) (serialNumber : Int),
      openssl.toDer signer.certificate = .ok parts.certificateDer ∧
      openssl.issuerNameToDer signer.certificate = .ok parts.issuerNameDer ∧
      openssl.serialNumberToBn signer.certificate = .ok serialNumber ∧
      parts.serialNumber = bigNumToVec serialNumber ∧ signed.encoded = parts.layout := by
  obtain ⟨_, _, h⟩ := ok_of_run_bind_ok h
  obtain ⟨_, _, h⟩ := ok_of_run_bind_ok h
  obtain ⟨signature, _, h⟩ := ok_of_run_bind_ok h
  obtain ⟨certificateDer, hcertificate, h⟩ := ok_of_run_bind_ok h
  obtain ⟨issuerNameDer, hissuer, h⟩ := ok_of_run_bind_ok h
  obtain ⟨serialNumber, hserial, h⟩ := ok_of_run_bind_ok h
  rw [ExceptT.run_lift, encoded_cms_eq] at h
  cases h
  exact ⟨_, serialNumber, try_openssl_ok hcertificate, try_openssl_ok hissuer,
    try_openssl_ok hserial, rfl, rfl⟩

/-- OpenSSL writes the magnitude of a number, and drops its sign. -/
theorem ofBigEndian_bigNumToVec (value : Int) :
    ofBigEndian (bigNumToVec value) = value.natAbs := by
  have hlt : value.natAbs < 256 ^ (value.natAbs.log2 + 1) :=
    Nat.lt_of_lt_of_le Nat.lt_log2_self (Nat.pow_le_pow_left (by omega) _)
  rw [bigNumToVec, ofBigEndian_dropWhile_zero, ofBigEndian_bigEndian, Nat.mod_eq_of_lt hlt]

/-! ## The signer identifier -/

/-- The DER of the certificate and of the name of its issuer are sequences. -/
structure OpenSsl.DerSequences (openssl : OpenSsl) (certificate : openssl.X509) : Prop where
  certificateDer : ∀ der, openssl.toDer certificate = .ok der → DerSequence der
  issuerNameDer : ∀ der, openssl.issuerNameToDer certificate = .ok der → DerSequence der

/-- The serial numbers in the signer identifiers. -/
def CmsSignedData.signerSerials (signed : CmsSignedData) : Option (List Int) :=
  match Grammar.contentInfo signed.encoded with
  | some (data, []) => some (data.signerInfos.map SignerInfo.serialNumber)
  | _ => none

/-- The signer identifier has the magnitude of the serial number. -/
theorem sign_attached_serials {signer : PfxSigner openssl} {content : Octets}
    {signed : CmsSignedData} {serialNumber : Int} (hder : openssl.DerSequences signer.certificate)
    (hlength : signed.encoded.length < 2 ^ 63)
    (hserial : openssl.serialNumberToBn signer.certificate = .ok serialNumber)
    (hsign : (signer.signAttached content).run = .ok (.ok signed)) :
    signed.signerSerials = some [(serialNumber.natAbs : Int)] := by
  obtain ⟨parts, other, hcertificate, hissuer, hother, hparts, hencoded⟩ :=
    sign_attached_ok hsign
  cases hserial.symm.trans hother
  have hencodable : parts.Encodable := by
    refine ⟨hder.certificateDer _ hcertificate, hder.issuerNameDer _ hissuer, ?_⟩
    intro octets hoctets
    cases (encode_eq parts).symm.trans hoctets
    rw [← hencoded]
    omega
  rw [CmsSignedData.signerSerials, hencoded, hencodable.reads]
  simp only [CmsParts.signedData, List.map_cons, List.map_nil, hparts, ofBigEndian_bigNumToVec]

/-- The signer identifier has the serial number of the certificate exactly if it is not negative. -/
theorem signer_identifier_iff (signer : PfxSigner openssl) (content : Octets)
    (signed : CmsSignedData) (serialNumber : Int)
    (hder : openssl.DerSequences signer.certificate) (hlength : signed.encoded.length < 2 ^ 63)
    (hserial : openssl.serialNumberToBn signer.certificate = .ok serialNumber)
    (hsign : (signer.signAttached content).run = .ok (.ok signed)) :
    signed.signerSerials = some [serialNumber] ↔ 0 ≤ serialNumber := by
  rw [sign_attached_serials hder hlength hserial hsign]
  simp only [Option.some.injEq, List.cons.injEq, and_true]
  omega

/-- A checksum of the content that begins with the key. -/
def sampleSignature (key : UInt8) (content : Octets) : Octets :=
  [content.foldl (fun sum octet => 31 * sum + octet) key]

/-- Certificates with this serial number. A certificate is its key, and a signature the checksum of
the content under the key. -/
def sampleOpenSsl (serialNumber : Int) : OpenSsl where
  PKey := UInt8
  X509 := UInt8
  Signer := UInt8 × Octets
  ErrorStack := Unit
  newSigner key := .ok (key, [])
  setRsaPadding := .ok
  update signer content := .ok (signer.1, signer.2 ++ content)
  signToVec signer := .ok (sampleSignature signer.1 signer.2)
  toDer certificate := .ok [0x30, 0x01, certificate]
  issuerNameToDer _ := .ok [0x30, 0x00]
  serialNumberToBn _ := .ok serialNumber

def sampleSigner (serialNumber : Int) : PfxSigner (sampleOpenSsl serialNumber) :=
  ⟨(75 : UInt8), (75 : UInt8), .rsaPkcs1v15Sha256⟩

/-- What the identity signs for a content. -/
def signedParts (serialNumber : Int) (content : Octets) : CmsParts where
  content := content
  certificateDer := [0x30, 0x01, 75]
  issuerNameDer := [0x30, 0x00]
  serialNumber := bigNumToVec serialNumber
  signatureAlgorithm := .rsaPkcs1v15Sha256
  signature := sampleSignature 75 content

theorem sample_signs (serialNumber : Int) (content : Octets) :
    ((sampleSigner serialNumber).signAttached content).run =
      .ok (.ok ⟨(signedParts serialNumber content).layout, encode_ne_nil (encode_eq _)⟩) := by
  show ExceptT.run (ExceptT.lift (encodedCms (signedParts serialNumber content))) = _
  rw [ExceptT.run_lift, encoded_cms_eq]
  rfl

theorem sample_der_sequences (serialNumber : Int) (certificate : UInt8) :
    (sampleOpenSsl serialNumber).DerSequences certificate := by
  refine ⟨fun der hder => ?_, fun der hder => ?_⟩
  · cases hder
    exact ⟨[0x01, certificate], [certificate], rfl, rfl⟩
  · cases hder
    exact ⟨[0x00], [], rfl, rfl⟩

/-- A serial number with its high bit set is identified. -/
theorem signer_identifier_high_bit :
    (⟨(signedParts 128 [0x78]).layout, encode_ne_nil (encode_eq _)⟩ :
      CmsSignedData).signerSerials = some [128] :=
  (signer_identifier_iff (sampleSigner 128) [0x78] _ 128 (sample_der_sequences 128 75)
    (by decide +kernel) rfl (sample_signs 128 [0x78])).2 (by decide)

/-- The certificate has the serial number -128. -/
theorem signer_identifier_negative :
    ((sampleSigner (-128)).signAttached [0x78]).run =
        .ok (.ok ⟨(signedParts (-128) [0x78]).layout, encode_ne_nil (encode_eq _)⟩) ∧
      (⟨(signedParts (-128) [0x78]).layout, encode_ne_nil (encode_eq _)⟩ :
        CmsSignedData).signerSerials = some [128] :=
  ⟨sample_signs (-128) [0x78],
    @sign_attached_serials _ (sampleSigner (-128)) [0x78] _ (-128) (sample_der_sequences (-128) 75)
      (by decide +kernel) rfl (sample_signs (-128) [0x78])⟩

end TwEinvoice.Signing
