import TwEinvoice.Cli.Commands
import TwEinvoice.Client.Session
import TwEinvoice.Sftp.Transfers

/-!
# What a command prepares

The machine that a command runs on, and what `prepare` has made when it returns: a plan of the
arguments and the files, its envelope, and the signature of the loaded identity.
-/

namespace TwEinvoice.Cli

open Effects Rust Client Envelope Signing Transport

variable {library : CliLibrary}

/-! ## The machine -/

/-- The files and variables that a command reads, its output file, the server's files and the
requests to the gateway. `synced` says that the output file was synchronized after its last
write. -/
structure Machine (library : CliLibrary) where
  file : String → Except IoError (List UInt8)
  secret : String → Except VarError String
  output : Destination
  synced : Bool
  remote : Sftp.RemoteFiles
  http : List (HttpEvent library.http)

namespace Machine

variable (machine : Machine library)

def withOutput (output : Destination) (synced : Bool) : Machine library :=
  { machine with output, synced }

def withRemote (remote : Sftp.RemoteFiles) : Machine library :=
  { machine with remote }

def requested (events : List (HttpEvent library.http)) : Machine library :=
  { machine with http := machine.http ++ events }

end Machine

/-- How the machine answers. Any call to the file system may fail, the server answers as in the
model of the transfers, and the gateway may reply anything. -/
def CliAnswers : Environment (cliSignature library) (Machine library) :=
  fun op machine reply next =>
    match op, reply with
    | .readFile path, reply => reply = machine.file path ∧ next = machine
    | .var name, reply => reply = machine.secret name ∧ next = machine
    | .artifact op, reply => ∃ fault output,
        artifactHandler.respond op fault machine.output = (reply, output) ∧
          next = machine.withOutput output (op matches .syncAll && reply.isOk)
    | .ssh op, reply => ∃ remote, Sftp.SshAnswers op machine.remote reply remote ∧
        next = machine.withRemote remote
    | .http op, reply => next = machine.requested [⟨op, reply⟩]
    | .print _, _ | .eprint _, _ => next = machine

/-- Only a call of the SSH library changes the server's files. -/
theorem CliAnswers.remote {op : CliOp library} {machine next : Machine library}
    {reply : (cliSignature library).Reply op} (h : CliAnswers op machine reply next)
    (hop : ∀ call, op ≠ .ssh call) : next.remote = machine.remote := by
  cases op with
  | ssh call => exact absurd rfl (hop call)
  | artifact call =>
      obtain ⟨fault, output, _, rfl⟩ := h
      rfl
  | readFile path | var name => exact congrArg Machine.remote h.2
  | http call =>
      obtain rfl : next = _ := h
      rfl
  | print line | eprint line => exact congrArg Machine.remote h

/-- Only a call of the HTTP library is recorded. -/
theorem CliAnswers.http {op : CliOp library} {machine next : Machine library}
    {reply : (cliSignature library).Reply op} (h : CliAnswers op machine reply next)
    (hop : ∀ call, op ≠ .http call) : next.http = machine.http := by
  cases op with
  | http call => exact absurd rfl (hop call)
  | artifact call =>
      obtain ⟨fault, output, _, rfl⟩ := h
      rfl
  | ssh call =>
      obtain ⟨remote, _, rfl⟩ := h
      rfl
  | readFile path | var name => exact congrArg Machine.http h.2
  | print line | eprint line => exact congrArg Machine.http h

/-- What changes a file of the server is a call of the SSH library about files. -/
theorem CliAnswers.file_call {op : CliOp library} {machine next : Machine library}
    {reply : (cliSignature library).Reply op} (h : CliAnswers op machine reply next) {path : String}
    (hfile : next.remote.file path ≠ machine.remote.file path) :
    ∃ call, op = .ssh call ∧ Sftp.IsFileCall call := by
  cases op with
  | ssh call =>
      refine ⟨call, rfl, ?_⟩
      by_contra hlocal
      obtain ⟨remote, hremote, rfl⟩ := h
      exact hfile (congrArg (Sftp.RemoteFiles.file · path) (hremote.keeps hlocal))
  | _ => exact absurd (congrArg (Sftp.RemoteFiles.file · path) (h.remote nofun)) hfile

/-- What is recorded anew is the call. -/
theorem CliAnswers.recorded {op : CliOp library} {machine next : Machine library}
    {reply : (cliSignature library).Reply op} (h : CliAnswers op machine reply next)
    {event : HttpEvent library.http} (hnew : event ∉ machine.http) (hevent : event ∈ next.http) :
    op = .http event.1 := by
  cases op with
  | http call =>
      obtain rfl : next = machine.requested [⟨call, reply⟩] := h
      rcases List.mem_append.1 hevent with hold | hlast
      · exact absurd hold hnew
      · cases List.mem_singleton.1 hlast
        rfl
  | _ =>
      rw [h.http nofun] at hevent
      exact absurd hevent hnew

/-- A call that leaves the machine. -/
def IsNetwork : CliOp library → Prop
  | .ssh _ | .http _ => True
  | _ => False

/-! ## What is prepared -/

/-- The plan says what the arguments and the files say. -/
structure Plans (args : CommonPrepareArgs) (machine : Machine library) (plan : SubmissionPlan) :
    Prop where
  filename : TurnkeyPackFilename.parse args.filename = .ok plan.filename
  payloads : List.Forall₂ (fun path (payload : MigPayload) => machine.file path = .ok payload.bytes)
    args.mig plan.envelope.payloads
  routing : plan.envelope.routing = args.routing plan.filename
  metadata : plan.envelope.metadata = ⟨plan.filename.commonName.messageType, .v4_1⟩
  serviceType : plan.serviceType = args.service.intoServiceType
  zipMode : plan.zipMode = args.zip.intoZipMode
  action : plan.action = args.action
  versions : plan.versions = ⟨args.apiVersion, args.turnkeyVersion⟩

/-- What is prepared for a plan: its envelope, signed. -/
structure Signs (plan : SubmissionPlan) (signer : PfxSigner library.openssl)
    (prepared : PreparedSubmission) (content : List UInt8) (cms : CmsSignedData) : Prop where
  valid : validatePlan plan = .ok ()
  serialized : plan.envelope.toTurnkeyXml = .ok content
  signed : (signer.signAttached content).run = .ok (.ok cms)
  made : ∃ quantity : UInt32, quantity.toNat = plan.envelope.count ∧
    prepared = ⟨plan.filename, ⟨intoBytes cms.toTurnkeyArmored, content.length,
      signer.signatureAlgorithm⟩, plan.zipMode, plan.metadata quantity⟩

section Signs

variable {plan : SubmissionPlan} {signer : PfxSigner library.openssl}
  {prepared : PreparedSubmission} {content : List UInt8} {cms : CmsSignedData}

theorem Signs.filename (h : Signs plan signer prepared content cms) :
    prepared.filename = plan.filename := by
  obtain ⟨_, _, rfl⟩ := h.made
  rfl

theorem Signs.zipMode (h : Signs plan signer prepared content cms) :
    prepared.zipMode = plan.zipMode := by
  obtain ⟨_, _, rfl⟩ := h.made
  rfl

theorem Signs.artifact (h : Signs plan signer prepared content cms) :
    prepared.artifact.uploadBytes = intoBytes cms.toTurnkeyArmored := by
  obtain ⟨_, _, rfl⟩ := h.made
  rfl

end Signs

/-- What `prepare` returns. -/
def Prepared (args : CommonPrepareArgs) (machine : Machine library)
    (prepared : PreparedSubmission) : Prop :=
  ∃ pfxDer password signer plan content cms, machine.file args.pfx = .ok pfxDer ∧
    args.pfxPasswordEnv ≠ "" ∧ machine.secret args.pfxPasswordEnv = .ok password ∧
    PfxSigner.fromDer library.pkcs12 pfxDer password = .ok signer ∧
    Plans args machine plan ∧ Signs plan signer prepared content cms

theorem payload_new_ok {bytes : List UInt8} {payload : MigPayload}
    (h : MigPayload.new bytes = .ok payload) : payload.bytes = bytes := by
  unfold MigPayload.new at h
  split_ifs at h
  cases h
  rfl

/-- An envelope is made of its parts as they are. -/
theorem envelope_new_ok {routing : EnvelopeRouting} {metadata : InvoicePackMetadata}
    {payloads : List MigPayload} {envelope : InvoiceEnvelope}
    (h : InvoiceEnvelope.new routing metadata payloads = .ok envelope) :
    envelope.routing = routing ∧ envelope.metadata = metadata ∧ envelope.payloads = payloads := by
  unfold InvoiceEnvelope.new at h
  split_ifs at h
  cases h
  exact ⟨rfl, rfl, rfl⟩

section Prepare

variable {permits : CliOp library → Machine library → Prop} {machine : Machine library}

/-- Calls that stay on the machine are permitted there. -/
def PermitsLocal (permits : CliOp library → Machine library → Prop) (machine : Machine library) :
    Prop :=
  ∀ op, ¬ IsNetwork op → permits op machine

/-- A file is read as it is. -/
theorem must_readFile (hpermits : PermitsLocal permits machine) (path description : String) :
    Must CliAnswers permits (readFile path description : CliProgram library _).run
      (Reads (fun bytes => machine.file path = .ok bytes) machine) machine := by
  refine reads_adapt (must_perform.2 ⟨hpermits _ id, fun reply after h => ?_⟩)
  obtain ⟨hreply, hsame⟩ := h
  refine ⟨hsame, fun bytes hbytes => ?_⟩
  rw [← show reply = machine.file path from hreply]
  exact hbytes

/-- A secret is the value of the variable, whose name is not empty. -/
theorem must_readSecretEnvironment (hpermits : PermitsLocal permits machine) (name : String) :
    Must CliAnswers permits (readSecretEnvironment name : CliProgram library _).run
      (Reads (fun secret => name ≠ "" ∧ machine.secret name = .ok secret) machine) machine := by
  unfold readSecretEnvironment
  split_ifs with hname
  · exact ⟨rfl, nofun⟩
  refine reads_adapt (must_perform.2 ⟨hpermits _ id, fun reply after h => ?_⟩)
  obtain ⟨hreply, hsame⟩ := h
  refine ⟨hsame, fun secret hsecret => ⟨hname, ?_⟩⟩
  rw [← show reply = machine.secret name from hreply]
  exact hsecret

/-- The payloads are the files, in the order of the arguments. -/
theorem must_readPayloads (hpermits : PermitsLocal permits machine) (paths : List String) :
    Must CliAnswers permits (readPayloads paths : CliProgram library _).run
      (Reads (List.Forall₂ (fun path (payload : MigPayload) =>
        machine.file path = .ok payload.bytes) paths) machine) machine := by
  induction paths with
  | nil =>
      refine ⟨rfl, fun payloads hpayloads => ?_⟩
      cases hpayloads
      exact .nil
  | cons path paths ih =>
      refine (must_readFile hpermits path _).reads_bind ?_
      intro bytes hfile
      refine (reads_adapt (reads_checked _)).reads_bind ?_
      intro payload hpayload
      refine ih.reads_bind fun payloads hpayloads => ⟨rfl, ?_⟩
      intro all hall
      cases hall
      refine .cons ?_ hpayloads
      rw [payload_new_ok hpayload]
      exact hfile

/-- The plan is what the arguments and the files say. -/
theorem must_buildSubmissionPlan (hpermits : PermitsLocal permits machine)
    (args : CommonPrepareArgs) :
    Must CliAnswers permits (buildSubmissionPlan args : CliProgram library _).run
      (Reads (Plans args machine) machine) machine := by
  refine (reads_adapt (reads_checked _)).reads_bind ?_
  intro filename hfilename
  refine (must_readPayloads hpermits args.mig).reads_bind ?_
  intro payloads hpayloads
  refine (reads_adapt (reads_checked _)).reads_bind ?_
  intro envelope henvelope
  refine ⟨rfl, fun plan hplan => ?_⟩
  cases hplan
  obtain ⟨hrouting, hmetadata, hsame⟩ := envelope_new_ok henvelope
  refine ⟨hfilename, ?_, hrouting, hmetadata, rfl, rfl, rfl, rfl⟩
  rw [hsame]
  exact hpayloads

/-- The signer by itself. -/
def SignerAnswers (signer : PfxSigner library.openssl) :
    Environment (submissionSignature library.backends) Unit :=
  fun op _ reply _ =>
    match op, reply with
    | .signatureAlgorithm, reply => reply = signer.signatureAlgorithm
    | .signAttached content, reply => (signer.signAttached content).run = .ok reply
    | .upload .., _ | .notify _, _ => False

/-- The artifact is the armored signature of the signer. -/
theorem must_signEnvelope (signer : PfxSigner library.openssl) (content : List UInt8) :
    Must (SignerAnswers signer) (fun _ _ => True)
      (signEnvelope content : ExceptT (PackError library.backends) _ _).run
      (Reads (fun artifact => ∃ cms, (signer.signAttached content).run = .ok (.ok cms) ∧
        artifact = ⟨intoBytes cms.toTurnkeyArmored, content.length, signer.signatureAlgorithm⟩)
        ()) () := by
  refine must_run_bind.2 (must_run_lift.2 (must_perform.2
    ⟨trivial, fun algorithm _ halgorithm => ?_⟩))
  have hknown : algorithm = signer.signatureAlgorithm := halgorithm
  subst hknown
  have hcall : Must (SignerAnswers signer) (fun _ _ => True)
      (ExceptT.mk (external (.signAttached content) :
        Program (submissionSignature library.backends) _)).run
      (Reads (fun cms => (signer.signAttached content).run = .ok (.ok cms)) ()) () := by
    refine must_perform.2 ⟨trivial, fun reply _ hsigned => ⟨rfl, fun cms hcms => ?_⟩⟩
    subst hcms
    exact hsigned
  refine (reads_adapt hcall).reads_bind fun cms hsigned => ⟨rfl, fun artifact hartifact => ?_⟩
  cases hartifact
  exact ⟨cms, hsigned, rfl⟩

/-- What is prepared for a plan is its envelope, signed by the signer. -/
theorem must_prepareSubmission_signer (plan : SubmissionPlan)
    (signer : PfxSigner library.openssl) :
    Must (SignerAnswers signer) (fun _ _ => True) (prepareSubmission plan).run
      (Reads (fun prepared => ∃ content cms, Signs plan signer prepared content cms) ()) () := by
  rw [prepare_submission_eq]
  refine (reads_checked _).reads_bind fun checked hlocal => ?_
  obtain ⟨quantity, content⟩ := checked
  obtain ⟨hplan, hquantity, hcontent⟩ := local_preparation_ok hlocal
  refine (reads_adapt (must_signEnvelope signer content)).reads_bind fun artifact hartifact => ?_
  obtain ⟨cms, hsigned, rfl⟩ := hartifact
  refine ⟨rfl, fun prepared hprepared => ?_⟩
  cases hprepared
  exact ⟨content, cms, hplan, hcontent, hsigned, quantity, hquantity, rfl⟩

/-- The calls of the signer stay away from the machine. -/
theorem carriesOut_signerCall (signer : PfxSigner library.openssl) :
    CarriesOut (SignerAnswers signer) (fun _ _ => True) CliAnswers permits (signerCall signer)
      fun _ after => after = machine := by
  intro op _ actual hactual _
  cases op with
  | signatureAlgorithm => exact ⟨(), rfl, hactual⟩
  | signAttached content =>
      show Must _ _ (signing signer content) _ _
      unfold signing
      cases hsigned : (signer.signAttached content).run with
      | error panic => trivial
      | ok result => exact ⟨(), hsigned, hactual⟩
  | upload _ _ => trivial
  | notify _ => trivial

/-- A preparation reads, and returns what the files and the arguments say. -/
theorem must_prepare (hpermits : PermitsLocal permits machine) (args : CommonPrepareArgs) :
    Must CliAnswers permits (prepare args : CliProgram library _).run
      (Reads (Prepared args machine) machine) machine := by
  refine (must_readFile hpermits args.pfx _).reads_bind ?_
  intro pfxDer hpfx
  refine (must_readSecretEnvironment hpermits _).reads_bind ?_
  intro password ⟨hname, hpassword⟩
  refine (reads_adapt (reads_checked _)).reads_bind ?_
  intro signer hsigner
  refine (must_buildSubmissionPlan hpermits args).reads_bind ?_
  intro plan hplan
  refine must_run_adapt.2 (((carriesOut_signerCall signer).must
    (must_prepareSubmission_signer plan signer) rfl).mono fun result after h => ?_)
  obtain ⟨_, ⟨_, hsigns⟩, hsame⟩ := h
  refine ⟨hsame, fun prepared hprepared => ?_⟩
  rw [map_error_eq_ok] at hprepared
  obtain ⟨content, cms, hsigns⟩ := hsigns prepared hprepared
  exact ⟨pfxDer, password, signer, plan, content, cms, hpfx, hname, hpassword, hsigner, hplan,
    hsigns⟩

end Prepare

/-! ## What can be prepared -/

section Runs

variable {machine : Machine library}

theorem runs_readFile {path : String} (description : String) {bytes : List UInt8}
    (h : machine.file path = .ok bytes) :
    Runs CliAnswers (readFile path description : CliProgram library _).run machine (.ok bytes)
      machine := by
  have hcall : Runs CliAnswers (@cliCall library (.readFile path)) machine (.ok bytes)
      machine := .perform ⟨h.symm, rfl⟩
  exact Runs.adapt (p := ExceptT.mk _) hcall

theorem runs_readSecretEnvironment {name secret : String} (hname : name ≠ "")
    (h : machine.secret name = .ok secret) :
    Runs CliAnswers (readSecretEnvironment name : CliProgram library _).run machine (.ok secret)
      machine := by
  have hcall : Runs CliAnswers (@cliCall library (.var name)) machine (.ok secret)
      machine := .perform ⟨h.symm, rfl⟩
  unfold readSecretEnvironment
  rw [if_neg hname]
  exact Runs.adapt (p := ExceptT.mk _) hcall

/-- Files that are there can be read in their order. -/
theorem runs_readPayloads {paths : List String} {payloads : List MigPayload}
    (h : List.Forall₂ (fun path (payload : MigPayload) => machine.file path = .ok payload.bytes)
      paths payloads) :
    Runs CliAnswers (readPayloads paths : CliProgram library _).run machine (.ok payloads)
      machine := by
  induction h with
  | nil => exact .pure _ _
  | @cons path payload paths payloads hfile _ ih =>
      have hpayload : MigPayload.new payload.bytes = .ok payload := dif_neg payload.nonempty
      exact (runs_readFile _ hfile).run_bind
        ((runs_checked hpayload machine).run_bind (ih.run_bind (.pure _ _)))

/-- A plan of the arguments and the files can be built. -/
theorem Plans.runs {args : CommonPrepareArgs} {plan : SubmissionPlan}
    (h : Plans args machine plan) :
    Runs CliAnswers (buildSubmissionPlan args : CliProgram library _).run machine (.ok plan)
      machine := by
  have henvelope : InvoiceEnvelope.new (args.routing plan.filename)
      ⟨plan.filename.commonName.messageType, .v4_1⟩ plan.envelope.payloads = .ok plan.envelope := by
    have hpos := plan.envelope.payloads_pos
    have hmax := plan.envelope.payloads_le
    rw [← h.routing, ← h.metadata]
    exact (dif_neg (by omega)).trans (dif_neg (by omega))
  have hplan : plan = ⟨plan.envelope, plan.filename, args.service.intoServiceType,
      args.zip.intoZipMode, args.action, ⟨args.apiVersion, args.turnkeyVersion⟩⟩ := by
    rw [← h.serviceType, ← h.zipMode, ← h.action, ← h.versions]
  refine (runs_checked h.filename machine).run_bind ((runs_readPayloads h.payloads).run_bind
    ((runs_checked henvelope machine).run_bind ?_))
  rw [hplan]
  exact .pure _ _

/-- What the signer signs can be prepared. -/
theorem Signs.runs {plan : SubmissionPlan} {signer : PfxSigner library.openssl}
    {prepared : PreparedSubmission} {content : List UInt8} {cms : CmsSignedData}
    (h : Signs plan signer prepared content cms) :
    Runs CliAnswers ((prepareSubmission plan).run.substitute (signerCall signer)) machine
      (.ok prepared) machine := by
  obtain ⟨quantity, hquantity, rfl⟩ := h.made
  have hconverted : u32TryFromUsize plan.envelope.count = some quantity := by
    unfold u32TryFromUsize
    rw [← hquantity, if_pos quantity.toNat_lt, UInt32.ofNat_toNat]
  have hlocal : plan.localPreparation library.backends = .ok (quantity, content) := by
    unfold SubmissionPlan.localPreparation
    rw [h.valid, hconverted, h.serialized]
    rfl
  rw [prepare_submission_eq, hlocal]
  show Runs _ ((signing signer content).bind _) _ _ _
  unfold signing
  rw [h.signed]
  exact .pure _ _

/-- What the arguments, the files and the identity make can be prepared. -/
theorem Prepared.runs {args : CommonPrepareArgs} {prepared : PreparedSubmission}
    (h : Prepared args machine prepared) :
    Runs CliAnswers (prepare args : CliProgram library _).run machine (.ok prepared) machine := by
  obtain ⟨pfxDer, password, signer, plan, content, cms, hpfx, hname, hpassword, hsigner, hplan,
    hsigns⟩ := h
  refine (runs_readFile _ hpfx).run_bind ((runs_readSecretEnvironment hname hpassword).run_bind
    ((runs_checked hsigner machine).run_bind (hplan.runs.run_bind ?_)))
  exact Runs.adapt (p := ExceptT.mk _) hsigns.runs

/-- What `prepare` returns is exactly what the files, the arguments and the identity make, and
everything that they make can be returned. A failure changes nothing either. -/
theorem prepare_exact (args : CommonPrepareArgs) (machine : Machine library) :
    (∀ prepared after,
      Runs CliAnswers (prepare args : CliProgram library _).run machine (.ok prepared) after ↔
        Prepared args machine prepared ∧ after = machine) ∧
    ∀ failure after,
      Runs CliAnswers (prepare args : CliProgram library _).run machine (.error failure) after →
        after = machine := by
  have hpermits : PermitsLocal (fun _ _ => True) machine := fun _ _ => trivial
  have hmust := must_prepare hpermits args
  refine ⟨fun prepared after => ⟨fun h => ?_, fun h => ?_⟩, fun failure after h => ?_⟩
  · obtain ⟨hsame, hprepared⟩ := hmust.runs h
    exact ⟨hprepared prepared rfl, hsame⟩
  · obtain ⟨hprepared, rfl⟩ := h
    exact hprepared.runs
  · exact (hmust.runs h).1

end Runs

end TwEinvoice.Cli
