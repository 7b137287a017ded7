import TwEinvoice.Effects.Program
import TwEinvoice.Signing.Armor
import TwEinvoice.Signing.Ber
import TwEinvoice.Transport.Filename
import TwEinvoice.Transport.Package

/-!
# The native submitter

`NativeSubmitter::submit` and `submit_pack_artifact` as programs that call an uploader and a
notifier. Signing is a call to the same environment, so that one trace shows all of them.
-/

namespace TwEinvoice.Transport

open Rust Effects Signing

/-! ## The gateway -/

/-- Service mode used by the MOF gateway upload-notification API. -/
inductive ServiceType where
  | exchange
  | store
  deriving DecidableEq

/-- Party + routing metadata duplicated between the invoice envelope and PFS001. -/
structure GatewayParty where
  partyId : String
  partyDescription : Option String
  routingId : String
  routingDescription : Option String
  deriving DecidableEq

/-- Metadata required to notify the MOF gateway after an SFTP upload. -/
structure UploadNotification where
  «from» : GatewayParty
  «to» : GatewayParty
  serviceType : ServiceType
  zipMode : ZipMode
  messageType : String
  action : String
  quantity : UInt32
  migVersion : String
  filename : String
  size : UInt64
  retry : UInt32
  apiVersion : String
  turnkeyVersion : String
  deriving DecidableEq

/-- `UploadNotification::INITIAL_RETRY`. -/
def initialRetry : UInt32 := 0

structure GatewayStatusDetail where
  code : String
  description : Option String
  parameters : List String
  deriving DecidableEq

/-- The gateway's reply to a notification. -/
structure GatewayProcessStatus where
  statusCode : Int32
  details : List GatewayStatusDetail
  deriving DecidableEq

/-- `GatewayProcessStatus::is_accepted`. -/
def GatewayProcessStatus.isAccepted (status : GatewayProcessStatus) : Bool :=
  status.statusCode = 0

/-! ## The calls -/

/-- The error types of the signer, the uploader and the notifier. -/
structure Backends where
  SignError : Type
  UploadError : Type
  NotifyError : Type

/-- A call that a submission makes. -/
inductive SubmissionOp where
  | signatureAlgorithm
  | signAttached (content : List UInt8)
  | upload (remoteFilename : String) (bytes : List UInt8)
  | notify (notification : UploadNotification)
  deriving DecidableEq

/-- The replies to the calls. -/
abbrev submissionSignature (backends : Backends) : Signature where
  Op := SubmissionOp
  Reply
    | .signatureAlgorithm => SignatureAlgorithm
    | .signAttached _ => Except backends.SignError CmsSignedData
    | .upload .. => Except backends.UploadError Unit
    | .notify _ => Except backends.NotifyError GatewayProcessStatus

variable {backends : Backends} {crate : ZipCrate}

/-- One call. -/
abbrev external (op : SubmissionOp) :
    Program (submissionSignature backends) ((submissionSignature backends).Reply op) :=
  Program.perform (S := submissionSignature backends) op

/-- A call and the reply to it. -/
abbrev SubmissionEvent (backends : Backends) := Exchange (submissionSignature backends)

/-! ## The native submission -/

/-- MIG/task metadata carried into PFS001 independently from transport routing. -/
structure NativeMessageProfile where
  messageType : String
  action : String
  quantity : UInt32
  migVersion : String
  deriving DecidableEq

/-- Software-version metadata reported by the current PFS001 contract. -/
structure GatewayVersionProfile where
  apiVersion : String
  turnkeyVersion : String
  deriving DecidableEq

/-- PFS metadata that is independent from the physical SFTP object. -/
structure NativeSubmissionMetadata where
  «from» : GatewayParty
  «to» : GatewayParty
  serviceType : ServiceType
  message : NativeMessageProfile
  retry : UInt32
  versions : GatewayVersionProfile
  deriving DecidableEq

/-- `NativeSubmissionMetadata::initial`. -/
def NativeSubmissionMetadata.initial (sender receiver : GatewayParty) (serviceType : ServiceType)
    (message : NativeMessageProfile) (versions : GatewayVersionProfile) :
    NativeSubmissionMetadata :=
  ⟨sender, receiver, serviceType, message, initialRetry, versions⟩

structure NativeSubmissionRequest where
  signedLocalFilename : String
  remoteFilename : String
  signedBytes : List UInt8
  zipMode : ZipMode
  metadata : NativeSubmissionMetadata

structure NativeSubmissionReceipt where
  remoteFilename : String
  gatewayStatus : GatewayProcessStatus
  deriving DecidableEq

/-- Why a native submission failed. From the upload on, the error names the object. -/
inductive NativeSubmitError (crate : ZipCrate) (backends : Backends) where
  | prepare (error : PrepareUploadError crate)
  | upload (remoteFilename : String) (source : backends.UploadError)
  | notify (remoteFilename : String) (source : backends.NotifyError)
  | gatewayRejected (remoteFilename : String) (status : GatewayProcessStatus)

/-- The result of a native submission. -/
abbrev NativeResult (crate : ZipCrate) (backends : Backends) :=
  Except (NativeSubmitError crate backends) NativeSubmissionReceipt

/-- The notification of `NativeSubmitter::submit`. -/
def uploadNotification (metadata : NativeSubmissionMetadata) (prepared : PreparedUploadObject) :
    UploadNotification where
  «from» := metadata.from
  «to» := metadata.to
  serviceType := metadata.serviceType
  zipMode := prepared.zipMode
  messageType := metadata.message.messageType
  action := metadata.message.action
  quantity := metadata.message.quantity
  migVersion := metadata.message.migVersion
  filename := prepared.remoteFilename
  size := prepared.notificationSize
  retry := metadata.retry
  apiVersion := metadata.versions.apiVersion
  turnkeyVersion := metadata.versions.turnkeyVersion

/-- The part of `NativeSubmitter::submit` that follows the preparation. -/
def uploadAndNotify (metadata : NativeSubmissionMetadata) (prepared : PreparedUploadObject) :
    ExceptT (NativeSubmitError crate backends) (Program (submissionSignature backends))
      NativeSubmissionReceipt := do
  ExceptT.adapt (.upload prepared.remoteFilename)
    (ExceptT.mk (external (.upload prepared.remoteFilename prepared.uploadedBytes)))
  let notification := uploadNotification metadata prepared
  let gatewayStatus ←
    ExceptT.adapt (.notify prepared.remoteFilename) (ExceptT.mk (external (.notify notification)))
  if !gatewayStatus.isAccepted then
    throw (.gatewayRejected prepared.remoteFilename gatewayStatus)
  else return { remoteFilename := prepared.remoteFilename, gatewayStatus }

/-- `NativeSubmitter::submit`. -/
def submit (crate : ZipCrate) (request : NativeSubmissionRequest) :
    ExceptT (NativeSubmitError crate backends) (Program (submissionSignature backends))
      NativeSubmissionReceipt := do
  let prepared ← ExceptT.adapt .prepare (ExceptT.mk (pure
    (prepareUploadObject crate request.signedLocalFilename request.remoteFilename
      request.signedBytes request.zipMode)))
  uploadAndNotify request.metadata prepared

/-! ## The submission of a pack -/

/-- Submission request at the boundary between the Pack and native `SendFile` stages. Of the
artifact only its upload bytes are used. -/
structure PackArtifactSubmission where
  filename : TurnkeyPackFilename
  uploadBytes : List UInt8
  zipMode : ZipMode
  metadata : NativeSubmissionMetadata

inductive PackArtifactSubmitError (crate : ZipCrate) (backends : Backends) where
  | invalidPackCount (count : Int32)
  | quantityMismatch (filenameCount notificationQuantity : UInt32)
  | native (error : NativeSubmitError crate backends)

/-- The result of a pack submission. -/
abbrev SubmitResult (crate : ZipCrate) (backends : Backends) :=
  Except (PackArtifactSubmitError crate backends) NativeSubmissionReceipt

/-- The checks of `submit_pack_artifact`. -/
def checkPackCount (filename : TurnkeyPackFilename) (quantity : UInt32) :
    Except (PackArtifactSubmitError crate backends) Unit := do
  let filenameCount ← okOr ((u32TryFrom filename.packCount).filter (0 < ·))
    (.invalidPackCount filename.packCount)
  ensure (filenameCount = quantity) (.quantityMismatch filenameCount quantity)

/-- `submit_pack_artifact`. -/
def submitPackArtifact (crate : ZipCrate) (request : PackArtifactSubmission) :
    ExceptT (PackArtifactSubmitError crate backends) (Program (submissionSignature backends))
      NativeSubmissionReceipt := do
  ExceptT.mk (pure (checkPackCount request.filename request.metadata.message.quantity))
  ExceptT.adapt .native (submit crate {
    signedLocalFilename := request.filename.render
    remoteFilename := request.filename.remoteFilename
    signedBytes := request.uploadBytes
    zipMode := request.zipMode
    metadata := request.metadata })

end TwEinvoice.Transport
