import TwEinvoice.Signing.Signer

/-!
# Loading an identity

`PfxSigner::from_der`. An identity is loaded only if its key belongs to its certificate, so what it
signs can be verified by a reader of the encoding that knows nothing else: the certificate in it
has the public key under which the signature in it is one of the content in it.
-/

namespace TwEinvoice.Signing

open Rust Ber

variable {openssl : OpenSsl}

/-- The types of keys that the source tells apart. -/
inductive KeyId where
  | rsa
  | ec
  | other
  deriving DecidableEq

/-- What the source calls of OpenSSL to load an identity. -/
structure Pkcs12Library (openssl : OpenSsl) where
  Pkcs12 : Type
  PublicKey : Type
  fromDer : Octets → Except openssl.ErrorStack Pkcs12
  parse2 : Pkcs12 → String → Except openssl.ErrorStack (Option openssl.PKey × Option openssl.X509)
  publicKey : openssl.X509 → Except openssl.ErrorStack PublicKey
  publicEq : PublicKey → openssl.PKey → Bool
  id : openssl.PKey → KeyId

/-- Why no identity is loaded. -/
inductive PfxIdentityError (openssl : OpenSsl) where
  | openSsl (error : openssl.ErrorStack)
  | missingPrivateKey
  | missingCertificate
  | mismatchedKeyPair
  | unsupportedPrivateKey

/-- `PfxSigner::from_der`. -/
def PfxSigner.fromDer (library : Pkcs12Library openssl) (pfxDer : Octets) (password : String) :
    Except (PfxIdentityError openssl) (PfxSigner openssl) := do
  let pkcs12 ← (library.fromDer pfxDer).mapError .openSsl
  let parsed ← (library.parse2 pkcs12 password).mapError .openSsl
  let privateKey ← okOr parsed.1 .missingPrivateKey
  let certificate ← okOr parsed.2 .missingCertificate
  let certificateKey ← (library.publicKey certificate).mapError .openSsl
  ensure (library.publicEq certificateKey privateKey) .mismatchedKeyPair
  match library.id privateKey with
  | .rsa => .ok ⟨privateKey, certificate, .rsaPkcs1v15Sha256⟩
  | .ec => .ok ⟨privateKey, certificate, .ecdsaSha256⟩
  | .other => .error .unsupportedPrivateKey

/-! ## Loaded identities -/

/-- The key type that an algorithm signs with. -/
def SignatureAlgorithm.keyId : SignatureAlgorithm → KeyId
  | .rsaPkcs1v15Sha256 => .rsa
  | .ecdsaSha256 => .ec

/-- The key of the identity is that of its certificate, and of the type of its algorithm. -/
structure PfxSigner.Loaded (library : Pkcs12Library openssl) (signer : PfxSigner openssl)
    (certificateKey : library.PublicKey) : Prop where
  publicKey : library.publicKey signer.certificate = .ok certificateKey
  publicEq : library.publicEq certificateKey signer.privateKey = true
  id : library.id signer.privateKey = signer.signatureAlgorithm.keyId

/-- An identity that is loaded has passed its checks. -/
theorem from_der_ok {library : Pkcs12Library openssl} {pfxDer : Octets} {password : String}
    {signer : PfxSigner openssl} (h : PfxSigner.fromDer library pfxDer password = .ok signer) :
    ∃ certificateKey, signer.Loaded library certificateKey := by
  obtain ⟨_, _, h⟩ := ok_of_bind_ok h
  obtain ⟨parsed, _, h⟩ := ok_of_bind_ok h
  obtain ⟨privateKey, _, h⟩ := ok_of_bind_ok h
  obtain ⟨certificate, _, h⟩ := ok_of_bind_ok h
  obtain ⟨certificateKey, hkey, h⟩ := ok_of_bind_ok h
  obtain ⟨_, hequal, h⟩ := ok_of_bind_ok h
  have hpublic := map_error_eq_ok.1 hkey
  cases hid : library.id privateKey with
  | rsa =>
      rw [hid] at h
      cases h
      exact ⟨certificateKey, hpublic, ensure_eq_ok.1 hequal, hid⟩
  | ec =>
      rw [hid] at h
      cases h
      exact ⟨certificateKey, hpublic, ensure_eq_ok.1 hequal, hid⟩
  | other =>
      rw [hid] at h
      cases h

/-! ## Verification -/

/-- The steps of OpenSSL that make a signature. -/
inductive OpenSsl.Signs (openssl : OpenSsl) (key : openssl.PKey) (content signature : Octets) :
    SignatureAlgorithm → Prop where
  | rsa {state padded updated : openssl.Signer} (hstate : openssl.newSigner key = .ok state)
      (hpadded : openssl.setRsaPadding state = .ok padded)
      (hupdated : openssl.update padded content = .ok updated)
      (hsignature : openssl.signToVec updated = .ok signature) :
      Signs openssl key content signature .rsaPkcs1v15Sha256
  | ec {state updated : openssl.Signer} (hstate : openssl.newSigner key = .ok state)
      (hupdated : openssl.update state content = .ok updated)
      (hsignature : openssl.signToVec updated = .ok signature) :
      Signs openssl key content signature .ecdsaSha256

/-- A signature made with a key of the algorithm's type verifies under its public key. -/
def Pkcs12Library.Verifies (library : Pkcs12Library openssl)
    (verify : library.PublicKey → SignatureAlgorithm → Octets → Octets → Bool) : Prop :=
  ∀ certificateKey key algorithm content signature,
    library.publicEq certificateKey key = true → library.id key = algorithm.keyId →
    openssl.Signs key content signature algorithm →
    verify certificateKey algorithm content signature = true

/-- What is signed carries the content, the certificate and a signature by the key. -/
theorem sign_attached_parts {signer : PfxSigner openssl} {content : Octets}
    {signed : CmsSignedData} (h : (signer.signAttached content).run = .ok (.ok signed)) :
    ∃ parts : CmsParts, signed.encoded = parts.layout ∧ parts.content = content ∧
      openssl.toDer signer.certificate = .ok parts.certificateDer ∧
      openssl.issuerNameToDer signer.certificate = .ok parts.issuerNameDer ∧
      parts.signatureAlgorithm = signer.signatureAlgorithm ∧
      openssl.Signs signer.privateKey content parts.signature signer.signatureAlgorithm := by
  obtain ⟨state, hstate, h⟩ := ok_of_run_bind_ok h
  obtain ⟨updated, hupdated, h⟩ := ok_of_run_bind_ok h
  obtain ⟨signature, hsignature, h⟩ := ok_of_run_bind_ok h
  obtain ⟨certificateDer, hcertificate, h⟩ := ok_of_run_bind_ok h
  obtain ⟨issuerNameDer, hissuer, h⟩ := ok_of_run_bind_ok h
  obtain ⟨serialNumber, _, h⟩ := ok_of_run_bind_ok h
  rw [ExceptT.run_lift, encoded_cms_eq] at h
  cases h
  refine ⟨_, rfl, rfl, try_openssl_ok hcertificate, try_openssl_ok hissuer, rfl, ?_⟩
  -- The padding is set for RSA only.
  obtain ⟨fresh, hfresh, hpadded⟩ := ok_of_run_bind_ok hstate
  cases halgorithm : signer.signatureAlgorithm with
  | rsaPkcs1v15Sha256 =>
      rw [if_pos halgorithm] at hpadded
      exact .rsa (try_openssl_ok hfresh) (try_openssl_ok hpadded) (try_openssl_ok hupdated)
        (try_openssl_ok hsignature)
  | ecdsaSha256 =>
      rw [if_neg (by rw [halgorithm]; exact nofun)] at hpadded
      cases hpadded
      exact .ec (try_openssl_ok hfresh) (try_openssl_ok hupdated) (try_openssl_ok hsignature)

/-- What a loaded identity signs is read back with its certificate and a valid signature. -/
theorem PfxSigner.Loaded.signed_reads {library : Pkcs12Library openssl}
    {verify : library.PublicKey → SignatureAlgorithm → Octets → Octets → Bool}
    (hverify : library.Verifies verify) {signer : PfxSigner openssl}
    {certificateKey : library.PublicKey} (hloaded : signer.Loaded library certificateKey)
    {content : Octets} {signed : CmsSignedData}
    (hsign : (signer.signAttached content).run = .ok (.ok signed))
    (hder : openssl.DerSequences signer.certificate) (hlength : signed.encoded.length < 2 ^ 64) :
    ∃ certificateDer, ∃ info : SignerInfo,
      Grammar.contentInfo signed.encoded = some (⟨content, [certificateDer], [info]⟩, []) ∧
      openssl.toDer signer.certificate = .ok certificateDer ∧
      openssl.issuerNameToDer signer.certificate = .ok info.issuer ∧
      verify certificateKey info.signatureAlgorithm content info.signature = true := by
  obtain ⟨parts, hencoded, hcontent, hcertificate, hissuer, halgorithm, hsigns⟩ :=
    sign_attached_parts hsign
  have hencodable : parts.Encodable := by
    refine ⟨hder.certificateDer _ hcertificate, hder.issuerNameDer _ hissuer, ?_⟩
    intro octets hoctets
    cases (encode_eq parts).symm.trans hoctets
    rw [← hencoded]
    exact hlength
  have hread := hencodable.reads
  rw [← hencoded, CmsParts.signedData, hcontent] at hread
  refine ⟨parts.certificateDer, _, hread, hcertificate, hissuer, ?_⟩
  rw [← halgorithm] at hsigns
  refine hverify _ _ _ _ _ hloaded.publicEq ?_ hsigns
  rw [hloaded.id, halgorithm]

/-- What an identity signs is read back as one content, one certificate and one signer, and the
signature verifies under the key of that certificate, by the algorithm that the encoding names. -/
theorem signed_verifies {library : Pkcs12Library openssl}
    {verify : library.PublicKey → SignatureAlgorithm → Octets → Octets → Bool}
    (hverify : library.Verifies verify) {pfxDer : Octets} {password : String}
    {signer : PfxSigner openssl} {content : Octets} {signed : CmsSignedData}
    (hload : PfxSigner.fromDer library pfxDer password = .ok signer)
    (hsign : (signer.signAttached content).run = .ok (.ok signed))
    (hder : openssl.DerSequences signer.certificate) (hlength : signed.encoded.length < 2 ^ 64) :
    ∃ certificateDer certificateKey, ∃ info : SignerInfo,
      Grammar.contentInfo signed.encoded = some (⟨content, [certificateDer], [info]⟩, []) ∧
      openssl.toDer signer.certificate = .ok certificateDer ∧
      openssl.issuerNameToDer signer.certificate = .ok info.issuer ∧
      library.publicKey signer.certificate = .ok certificateKey ∧
      verify certificateKey info.signatureAlgorithm content info.signature = true := by
  obtain ⟨certificateKey, hloaded⟩ := from_der_ok hload
  obtain ⟨certificateDer, info, hread, hcertificate, hissuer, hvalid⟩ :=
    hloaded.signed_reads hverify hsign hder hlength
  exact ⟨certificateDer, certificateKey, info, hread, hcertificate, hissuer, hloaded.publicKey,
    hvalid⟩

/-- The file of an identity is its key, under a password. All keys are of one type. -/
def sampleIdentities : Pkcs12Library (sampleOpenSsl 128) where
  Pkcs12 := UInt8
  PublicKey := UInt8
  fromDer
    | [key] => .ok key
    | _ => .error ()
  parse2 key password := if password = "secret" then .ok (some key, some key) else .error ()
  publicKey := .ok
  publicEq (certificateKey key : UInt8) := decide (certificateKey = key)
  id _ := .rsa

/-- The signature is the checksum of this content under this key. -/
def sampleVerify (key : UInt8) (algorithm : SignatureAlgorithm) (content signature : Octets) :
    Bool :=
  algorithm = .rsaPkcs1v15Sha256 ∧ signature = sampleSignature key content

theorem sample_verifies : sampleIdentities.Verifies sampleVerify := by
  intro (certificateKey : UInt8) (key : UInt8) algorithm content signature hequal hid hsigns
  have hkey : certificateKey = key := of_decide_eq_true hequal
  subst hkey
  cases hsigns with
  | rsa hstate hpadded hupdated hsignature =>
      cases hstate
      cases hpadded
      cases hupdated
      cases hsignature
      exact decide_eq_true ⟨rfl, rfl⟩
  | ec => cases hid

theorem sample_signed_verifies :
    ∃ certificateDer certificateKey, ∃ info : SignerInfo,
      Grammar.contentInfo (signedParts 128 [0x78]).layout =
        some (⟨[0x78], [certificateDer], [info]⟩, []) ∧
      (sampleOpenSsl 128).toDer (75 : UInt8) = .ok certificateDer ∧
      (sampleOpenSsl 128).issuerNameToDer (75 : UInt8) = .ok info.issuer ∧
      sampleIdentities.publicKey (75 : UInt8) = .ok certificateKey ∧
      sampleVerify certificateKey info.signatureAlgorithm [0x78] info.signature = true := by
  have hload : PfxSigner.fromDer sampleIdentities [75] "secret" = .ok (sampleSigner 128) := rfl
  have hlength : (signedParts 128 [0x78]).layout.length < 2 ^ 64 := by decide +kernel
  exact @signed_verifies (sampleOpenSsl 128) sampleIdentities sampleVerify sample_verifies [75]
    "secret" (sampleSigner 128) [0x78]
    ⟨(signedParts 128 [0x78]).layout, encode_ne_nil (encode_eq _)⟩
    hload (sample_signs 128 [0x78]) (sample_der_sequences 128 75) hlength

end TwEinvoice.Signing
