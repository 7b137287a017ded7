import TwEinvoice.Envelope.Wire
import TwEinvoice.Transport.Submitter

/-!
# Preparing and submitting

The client crate with `pack_and_sign`: `prepare_submission` checks a plan and has its envelope
signed, and every later `submit` uploads the signed artifact and notifies the gateway.
-/

namespace TwEinvoice.Client

open Rust Effects Envelope Signing Transport

variable {crate : ZipCrate} {backends : Backends}

/-! ## Packing -/

/-- Signed file produced at the Pack/`SendFile` boundary. -/
structure SignedArtifact where
  uploadBytes : List UInt8
  envelopeSize : Nat
  signatureAlgorithm : SignatureAlgorithm
  deriving DecidableEq

inductive PackError (backends : Backends) where
  | envelope (error : EnvelopeSerializeError)
  | signing (error : backends.SignError)

/-- The part of `pack_and_sign` that follows the serialization. -/
def signEnvelope (envelopeBytes : List UInt8) :
    ExceptT (PackError backends) (Program (submissionSignature backends)) SignedArtifact := do
  let envelopeSize := envelopeBytes.length
  let signatureAlgorithm ← ExceptT.lift (external .signatureAlgorithm)
  let cms ← ExceptT.adapt .signing (ExceptT.mk (external (.signAttached envelopeBytes)))
  let uploadBytes := intoBytes cms.toTurnkeyArmored
  return { uploadBytes, envelopeSize, signatureAlgorithm }

/-- `pack_and_sign`. -/
def packAndSign (envelope : InvoiceEnvelope) :
    ExceptT (PackError backends) (Program (submissionSignature backends)) SignedArtifact := do
  let envelopeBytes ← ExceptT.adapt .envelope (ExceptT.mk (pure envelope.toTurnkeyXml))
  signEnvelope envelopeBytes

/-! ## The plan -/

/-- High-level description of one outgoing Turnkey-compatible submission. -/
structure SubmissionPlan where
  envelope : InvoiceEnvelope
  filename : TurnkeyPackFilename
  serviceType : ServiceType
  zipMode : ZipMode
  action : String
  versions : GatewayVersionProfile
  deriving DecidableEq

inductive SubmissionConsistencyError where
  | invalidFilenameCount (count : Int32)
  | envelopeCountOutOfRange (count : Nat)
  | countMismatch (envelopeCount filenameCount : Nat)
  | messageTypeMismatch (envelope filename : String)
  | migVersionMismatch (envelope filename : String)
  | fromPartyMismatch (envelope filename : String)
  | toPartyMismatch (envelope filename : String)
  deriving DecidableEq

inductive PrepareSubmissionError (backends : Backends) where
  | consistency (error : SubmissionConsistencyError)
  | pack (error : PackError backends)

/-- `validate_plan`. -/
def validatePlan (plan : SubmissionPlan) : Except SubmissionConsistencyError Unit := do
  let envelopeCount := plan.envelope.count
  let filenameCount ← okOr ((usizeTryFrom plan.filename.packCount).filter (0 < ·))
    (.invalidFilenameCount plan.filename.packCount)
  ensure (filenameCount = envelopeCount) (.countMismatch envelopeCount filenameCount)
  let messageType := plan.envelope.metadata.messageType
  ensure (plan.filename.commonName.messageType = messageType)
    (.messageTypeMismatch messageType plan.filename.commonName.messageType)
  let envelopeVersion := plan.envelope.metadata.version.asStr
  ensure (plan.filename.commonName.migVersion = envelopeVersion)
    (.migVersionMismatch envelopeVersion plan.filename.commonName.migVersion)
  let sender := plan.envelope.routing.from.identifier
  ensure (plan.filename.fromParty = sender) (.fromPartyMismatch sender plan.filename.fromParty)
  let receiver := plan.envelope.routing.to.identifier
  ensure (plan.filename.toParty = receiver) (.toPartyMismatch receiver plan.filename.toParty)

/-- `gateway_party`. -/
def gatewayParty (party : PartyInfo) (routing : RoutingInfo) : GatewayParty where
  partyId := party.identifier
  partyDescription := party.description
  routingId := routing.identifier
  routingDescription := routing.description

/-! ## Preparation and submission -/

/-- Durable-ready output of validation + Pack/signing, before any network I/O. -/
structure PreparedSubmission where
  filename : TurnkeyPackFilename
  artifact : SignedArtifact
  zipMode : ZipMode
  metadata : NativeSubmissionMetadata

/-- The metadata of `prepare_submission`. -/
def SubmissionPlan.metadata (plan : SubmissionPlan) (quantity : UInt32) :
    NativeSubmissionMetadata :=
  let routing := plan.envelope.routing
  .initial (gatewayParty routing.from routing.fromVac) (gatewayParty routing.to routing.toVac)
    plan.serviceType
    { messageType := plan.envelope.metadata.messageType
      action := plan.action
      quantity
      migVersion := plan.envelope.metadata.version.asStr }
    plan.versions

/-- `prepare_submission`. -/
def prepareSubmission (plan : SubmissionPlan) :
    ExceptT (PrepareSubmissionError backends) (Program (submissionSignature backends))
      PreparedSubmission := do
  ExceptT.adapt .consistency (ExceptT.mk (pure (validatePlan plan)))
  -- An envelope has at most 1,000 payloads, so this conversion does not fail.
  let quantity ← ExceptT.adapt .consistency (ExceptT.mk (pure
    (okOr (u32TryFromUsize plan.envelope.count) (.envelopeCountOutOfRange plan.envelope.count))))
  let artifact ← ExceptT.adapt .pack (packAndSign plan.envelope)
  return {
    filename := plan.filename
    artifact
    zipMode := plan.zipMode
    metadata := plan.metadata quantity }

/-- The request of `PreparedSubmission::submit`. -/
def PreparedSubmission.request (prepared : PreparedSubmission) : PackArtifactSubmission where
  filename := prepared.filename
  uploadBytes := prepared.artifact.uploadBytes
  zipMode := prepared.zipMode
  metadata := prepared.metadata

/-- `PreparedSubmission::submit`. -/
def PreparedSubmission.submit (crate : ZipCrate) (prepared : PreparedSubmission) :
    ExceptT (PackArtifactSubmitError crate backends) (Program (submissionSignature backends))
      NativeSubmissionReceipt :=
  submitPackArtifact crate prepared.request

/-! ## What a preparation does -/

/-- The result of a preparation. -/
abbrev PrepareResult (backends : Backends) :=
  Except (PrepareSubmissionError backends) PreparedSubmission

/-- What `prepare_submission` computes before its first call: the quantity and the envelope. -/
def SubmissionPlan.localPreparation (backends : Backends) (plan : SubmissionPlan) :
    Except (PrepareSubmissionError backends) (UInt32 × List UInt8) := do
  (validatePlan plan).mapError .consistency
  let quantity ← (okOr (u32TryFromUsize plan.envelope.count)
    (.envelopeCountOutOfRange plan.envelope.count)).mapError .consistency
  let content ← plan.envelope.toTurnkeyXml.mapError fun error => .pack (.envelope error)
  return (quantity, content)

/-- The calls of `prepare_submission` with their replies, and its result. -/
inductive PrepareRun (plan : SubmissionPlan) :
    List (SubmissionEvent backends) → PrepareResult backends → Prop where
  | refused {error} (h : plan.localPreparation backends = .error error) :
      PrepareRun plan [] (.error error)
  | signingFailed {quantity content} (algorithm source)
      (h : plan.localPreparation backends = .ok (quantity, content)) :
      PrepareRun plan [⟨.signatureAlgorithm, algorithm⟩, ⟨.signAttached content, .error source⟩]
        (.error (.pack (.signing source)))
  | signed {quantity content} (algorithm) (cms : CmsSignedData)
      (h : plan.localPreparation backends = .ok (quantity, content)) :
      PrepareRun plan [⟨.signatureAlgorithm, algorithm⟩, ⟨.signAttached content, .ok cms⟩]
        (.ok ⟨plan.filename, ⟨intoBytes cms.toTurnkeyArmored, content.length, algorithm⟩,
          plan.zipMode, plan.metadata quantity⟩)

/-- A preparation computes the local part and goes on with the signature. -/
theorem prepare_submission_eq (plan : SubmissionPlan) :
    prepareSubmission plan =
      ExceptT.mk (pure (plan.localPreparation backends)) >>= fun (quantity, content) => do
        let artifact ← ExceptT.adapt .pack (signEnvelope content)
        return ⟨plan.filename, artifact, plan.zipMode, plan.metadata quantity⟩ := by
  rw [prepareSubmission, SubmissionPlan.localPreparation]
  cases validatePlan plan with
  | error failure => rfl
  | ok =>
      cases okOr (u32TryFromUsize plan.envelope.count)
          (SubmissionConsistencyError.envelopeCountOutOfRange plan.envelope.count) with
      | error failure => rfl
      | ok quantity =>
          rw [packAndSign]
          cases plan.envelope.toTurnkeyXml with
          | error failure => rfl
          | ok content => rfl

/-- The calls recorded by every run of a preparation. -/
theorem must_prepareSubmission (plan : SubmissionPlan) (trace : List (SubmissionEvent backends)) :
    Must (recording _) (fun _ _ => True) (prepareSubmission plan).run
      (fun (result : PrepareResult backends) final => ∃ events, final = trace ++ events ∧
        PrepareRun plan events result) trace := by
  rw [prepare_submission_eq, must_run_bind, ExceptT.run_mk, must_pure]
  cases hlocal : plan.localPreparation backends with
  | error failure => exact ⟨[], (List.append_nil trace).symm, .refused hlocal⟩
  | ok checked =>
      obtain ⟨quantity, content⟩ := checked
      show Must _ _ (ExceptT.run (_ >>= _)) _ _
      rw [must_run_bind, must_run_adapt, signEnvelope, must_run_bind, must_run_lift,
        must_perform_recording]
      refine ⟨trivial, fun algorithm => ?_⟩
      show Must _ _ (ExceptT.run (_ >>= _)) _ _
      rw [must_run_bind, must_run_adapt, ExceptT.run_mk, must_perform_recording]
      refine ⟨trivial, fun reply => ?_⟩
      rw [List.append_assoc]
      cases reply with
      | error source => exact ⟨_, rfl, .signingFailed algorithm source hlocal⟩
      | ok cms => exact ⟨_, rfl, .signed algorithm cms hlocal⟩

/-- `PrepareRun` lists exactly the runs of `prepare_submission`. -/
theorem prepare_submission_runs_iff {plan : SubmissionPlan}
    {trace final : List (SubmissionEvent backends)} {result : PrepareResult backends} :
    Runs (recording _) (prepareSubmission plan).run trace result final ↔
      ∃ events, final = trace ++ events ∧ PrepareRun plan events result := by
  refine ⟨(must_prepareSubmission plan trace).runs, ?_⟩
  rintro ⟨events, rfl, hrun⟩
  rw [prepare_submission_eq]
  cases hrun with
  | refused hlocal =>
      rw [hlocal, List.append_nil]
      exact .pure _ _
  | signingFailed algorithm source hlocal =>
      rw [hlocal, List.append_cons]
      refine .recorded algorithm (.recorded (Except.error source) ?_)
      exact .pure _ _
  | signed algorithm cms hlocal =>
      rw [hlocal, List.append_cons]
      refine .recorded algorithm (.recorded (Except.ok cms) ?_)
      exact .pure _ _

end TwEinvoice.Client
