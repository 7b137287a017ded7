import TwEinvoice.Cli.Persistence
import TwEinvoice.Client.Submission
import TwEinvoice.Effects.Substitution
import TwEinvoice.Sftp.Client
import TwEinvoice.Signing.Identity
import TwEinvoice.Transport.Notifier

/-!
# The commands

`run_prepare` and `run_submit` of the command line tool, with the signer, the uploader and the
notifier that they build. Arguments are parsed already. A path is a text, and what is printed about
it is that text.
-/

namespace TwEinvoice.Cli

open Effects Rust Client Envelope Signing Transport

/-- The libraries behind the commands. -/
structure CliLibrary where
  ssh : Sftp.SshLibrary
  http : HttpLibrary
  openssl : OpenSsl
  pkcs12 : Pkcs12Library openssl
  zip : ZipCrate

variable {library : CliLibrary}

/-- The errors of the signer, the uploader and the notifier. -/
abbrev CliLibrary.backends (library : CliLibrary) : Backends where
  SignError := PfxSignerError library.openssl
  UploadError := Sftp.SftpUploadError library.ssh
  NotifyError := Pfs001HttpError library.http

/-! ## Arguments -/

inductive ServiceArg where
  | store
  | exchange
  deriving DecidableEq

/-- `ServiceArg::into_service_type`. -/
def ServiceArg.intoServiceType : ServiceArg → ServiceType
  | .store => .store
  | .exchange => .exchange

inductive ZipArg where
  | plain
  | zip
  deriving DecidableEq

/-- `ZipArg::into_zip_mode`. -/
def ZipArg.intoZipMode : ZipArg → ZipMode
  | .plain => .plain
  | .zip => .zip

inductive PlatformEnvironment where
  | test
  | production
  deriving DecidableEq

structure PlatformEndpoints where
  sftpHost : String
  gatewayBase : String

/-- `PlatformEnvironment::endpoints`. -/
def PlatformEnvironment.endpoints : PlatformEnvironment → PlatformEndpoints
  | .test => ⟨"tsftp.einvoice.nat.gov.tw", "https://tgw.einvoice.nat.gov.tw/gateway/api"⟩
  | .production => ⟨"sftp.einvoice.nat.gov.tw", "https://gw.einvoice.nat.gov.tw/gateway/api"⟩

/-- `PlatformEnvironment::label`. -/
def PlatformEnvironment.label : PlatformEnvironment → String
  | .test => "test"
  | .production => "production"

structure CommonPrepareArgs where
  filename : String
  mig : List String
  fromVac : String
  toVac : String
  fromDescription : Option String
  toDescription : Option String
  fromVacDescription : Option String
  toVacDescription : Option String
  action : String
  service : ServiceArg
  zip : ZipArg
  pfx : String
  pfxPasswordEnv : String
  output : String
  forceOutput : Bool
  apiVersion : String
  turnkeyVersion : String

structure SubmitArgs where
  common : CommonPrepareArgs
  environment : PlatformEnvironment
  knownHosts : String
  transportId : String
  transportPasswordEnv : String

/-! ## Calls -/

/-- `env::VarError`. -/
inductive VarError where
  | notPresent
  | notUnicode
  deriving DecidableEq

/-- A call of a command. -/
inductive CliOp (library : CliLibrary) where
  | readFile (path : String)
  | var (name : String)
  | artifact (op : ArtifactOp)
  | ssh (op : Sftp.SshOp library.ssh)
  | http (op : HttpOp)
  | print (line : String)
  | eprint (line : String)

/-- The replies to the calls. -/
abbrev cliSignature (library : CliLibrary) : Signature where
  Op := CliOp library
  Reply
    | .readFile _ => Except IoError (List UInt8)
    | .var _ => Except VarError String
    | .artifact op => artifactSignature.Reply op
    | .ssh op => (Sftp.sshSignature library.ssh).Reply op
    | .http op => (httpSignature library.http).Reply op
    | .print _ | .eprint _ => Unit

/-- One call. -/
abbrev cliCall (op : CliOp library) :
    Program (cliSignature library) ((cliSignature library).Reply op) :=
  Program.perform (S := cliSignature library) op

inductive CliError where
  | missingSecretEnvironment (name : String)
  | nonUnicodeSecretEnvironment (name : String)
  | emptySecretEnvironmentName
  | inboundObjectFailures (count : Nat)
  deriving DecidableEq

/-- The errors that a command returns. -/
inductive CliFailure (library : CliLibrary) where
  | cli (error : CliError)
  | io (error : IoError)
  | pfx (error : PfxIdentityError library.openssl)
  | filename (error : FilenameError)
  | envelope (error : EnvelopeError)
  | prepare (error : PrepareSubmissionError library.backends)
  | client (error : Pfs001HttpError library.http)
  | submit (error : PackArtifactSubmitError library.zip library.backends)

/-- The steps of a command. -/
abbrev CliProgram (library : CliLibrary) :=
  ExceptT (CliFailure library) (Program (cliSignature library))

/-- The error of `read_file`. -/
def readError (description path : String) (error : IoError) : IoError :=
  ⟨error.kind, "failed to read " ++ description ++ " " ++ path ++ ": " ++ error.text⟩

/-- `read_file`. -/
def readFile (path description : String) : CliProgram library (List UInt8) :=
  ExceptT.adapt (fun error => .io (readError description path error))
    (ExceptT.mk (cliCall (.readFile path)))

/-- The error for a variable that cannot be read. -/
def secretError (name : String) : VarError → CliError
  | .notPresent => .missingSecretEnvironment name
  | .notUnicode => .nonUnicodeSecretEnvironment name

/-- `read_secret_environment`. -/
def readSecretEnvironment (name : String) : CliProgram library String :=
  if name = "" then throw (.cli .emptySecretEnvironmentName)
  else ExceptT.adapt (fun error => .cli (secretError name error)) (ExceptT.mk (cliCall (.var name)))

/-! ## `prepare` -/

/-- The payloads of `build_submission_plan`. -/
def readPayloads : List String → CliProgram library (List MigPayload)
  | [] => return []
  | path :: paths => do
      let bytes ← readFile path "MIG XML payload"
      let payload ← ExceptT.adapt .envelope (ExceptT.mk (pure (MigPayload.new bytes)))
      let payloads ← readPayloads paths
      return payload :: payloads

/-- The routing of `build_submission_plan`. -/
def CommonPrepareArgs.routing (args : CommonPrepareArgs) (filename : TurnkeyPackFilename) :
    EnvelopeRouting where
  «from» := ⟨filename.fromParty, args.fromDescription⟩
  fromVac := ⟨args.fromVac, args.fromVacDescription⟩
  «to» := ⟨filename.toParty, args.toDescription⟩
  toVac := ⟨args.toVac, args.toVacDescription⟩

/-- `build_submission_plan`. -/
def buildSubmissionPlan (args : CommonPrepareArgs) : CliProgram library SubmissionPlan := do
  let filename ← ExceptT.adapt .filename
    (ExceptT.mk (pure (TurnkeyPackFilename.parse args.filename)))
  let payloads ← readPayloads args.mig
  let envelope ← ExceptT.adapt .envelope (ExceptT.mk (pure
    (InvoiceEnvelope.new (args.routing filename) ⟨filename.commonName.messageType, .v4_1⟩
      payloads)))
  return {
    envelope
    filename
    serviceType := args.service.intoServiceType
    zipMode := args.zip.intoZipMode
    action := args.action
    versions := ⟨args.apiVersion, args.turnkeyVersion⟩ }

/-- The signature of an envelope. A panic would have no result. -/
def signing (signer : PfxSigner library.openssl) (content : List UInt8) :
    Program (cliSignature library) (Except (PfxSignerError library.openssl) CmsSignedData) :=
  match (signer.signAttached content).run with
  | .ok result => return result
  | .error _ => .outOfFuel

/-- The calls of `prepare_submission`, which has a signer and nothing else. -/
def signerCall (signer : PfxSigner library.openssl) :
    (op : SubmissionOp) →
      Program (cliSignature library) ((submissionSignature library.backends).Reply op)
  | .signatureAlgorithm => return signer.signatureAlgorithm
  | .signAttached content => signing signer content
  | .upload .. | .notify _ => .outOfFuel

/-- `prepare`. -/
def prepare (args : CommonPrepareArgs) : CliProgram library PreparedSubmission := do
  let pfxDer ← readFile args.pfx "PFX identity"
  let pfxPassword ← readSecretEnvironment args.pfxPasswordEnv
  let signer ← ExceptT.adapt .pfx
    (ExceptT.mk (pure (PfxSigner.fromDer library.pkcs12 pfxDer pfxPassword)))
  let plan ← buildSubmissionPlan args
  ExceptT.adapt .prepare
    (ExceptT.mk ((prepareSubmission plan).run.substitute (signerCall signer)))

/-! ## `run_prepare` and `run_submit` -/

/-- The `Debug` text of an algorithm. -/
def algorithmText : SignatureAlgorithm → String
  | .rsaPkcs1v15Sha256 => "RsaPkcs1v15Sha256"
  | .ecdsaSha256 => "EcdsaSha256"

/-- `print_prepared_summary`. -/
def printPreparedSummary (prepared : PreparedSubmission) (output : String) :
    CliProgram library Unit :=
  ExceptT.lift (cliCall (.print ("prepared artifact=" ++ output ++ " local_filename=" ++
    prepared.filename.render ++ " remote_filename=" ++ prepared.filename.remoteFilename ++
    " bytes=" ++ toString prepared.artifact.uploadBytes.length ++ " signature=" ++
    algorithmText prepared.artifact.signatureAlgorithm)))

/-- The call of `persist_artifact`. -/
def persist (args : CommonPrepareArgs) (prepared : PreparedSubmission) : CliProgram library Unit :=
  ExceptT.adapt .io (ExceptT.mk
    ((persistArtifact args.output prepared.artifact.uploadBytes args.forceOutput).run.substitute
      fun op => cliCall (.artifact op)))

/-- The calls of `submit`, whose uploader and notifier have the same credentials. -/
def submitterCall (fuel : Nat) (config : Sftp.SftpConfig) (credentials : Sftp.SftpCredentials)
    (client : Pfs001HttpClient) :
    (op : SubmissionOp) →
      Program (cliSignature library) ((submissionSignature library.backends).Reply op)
  | .upload remoteFilename bytes =>
      (Sftp.upload fuel config credentials remoteFilename bytes).run.substitute
        fun op => cliCall (.ssh op)
  | .notify notification =>
      (client.notify notification).run.substitute fun op => cliCall (.http op)
  | .signatureAlgorithm | .signAttached _ => .outOfFuel

/-- The part of `run_submit` after the artifact has been persisted. -/
def submitPrepared (fuel : Nat) (args : SubmitArgs) (prepared : PreparedSubmission) :
    CliProgram library Unit := do
  let transportPassword ← readSecretEnvironment args.transportPasswordEnv
  let endpoints := args.environment.endpoints
  let client ← ExceptT.adapt .client (ExceptT.mk
    ((Pfs001HttpClient.new endpoints.gatewayBase ⟨args.transportId, transportPassword⟩ :
      HttpProgram library.http _).run.substitute fun op => cliCall (.http op)))
  ExceptT.lift (cliCall (.eprint ("submitting persisted artifact to " ++ args.environment.label ++
    " environment (" ++ prepared.filename.remoteFilename ++ ")")))
  let receipt ← ExceptT.adapt .submit (ExceptT.mk
    ((prepared.submit library.zip).run.substitute
      (submitterCall fuel (.new endpoints.sftpHost args.knownHosts)
        ⟨args.transportId, transportPassword⟩ client)))
  ExceptT.lift (cliCall (.print ("submitted remote_filename=" ++ receipt.remoteFilename ++
    " pfs001_status=" ++ toString receipt.gatewayStatus.statusCode.toInt)))

/-- `run_submit`. -/
def runSubmit (fuel : Nat) (args : SubmitArgs) : CliProgram library Unit := do
  let prepared ← prepare args.common
  persist args.common prepared
  printPreparedSummary prepared args.common.output
  submitPrepared fuel args prepared

end TwEinvoice.Cli
