import TwEinvoice.Cli.Preparation

/-!
# Durability of the artifact

What `persist_artifact` leaves of the machine of a command, the command `prepare` that ends there,
and what the network calls of `submit` need: the artifact on the disk before any of them, and the
object on the server before the gateway is told.
-/

namespace TwEinvoice.Cli

open Effects Rust Client Envelope Signing Transport

variable {library : CliLibrary}

/-! ## The artifact on the disk -/

/-- What was prepared is on the disk. -/
structure Durable (args : CommonPrepareArgs) (before machine : Machine library)
    (prepared : PreparedSubmission) : Prop where
  made : Prepared args before prepared
  contents : machine.output.contents = some prepared.artifact.uploadBytes
  synced : machine.synced = true

section Persist

variable {permits : CliOp library → Machine library → Prop}

/-- What a call of `persist_artifact` leaves of the machine. -/
theorem must_artifactCall (hpermits : ∀ machine, PermitsLocal permits machine) (op : ArtifactOp)
    (machine : Machine library) :
    Must CliAnswers permits (cliCall (.artifact op)) (fun reply after => ∃ fault output,
        artifactHandler.respond op fault machine.output = (reply, output) ∧
          after = machine.withOutput output (op matches .syncAll && reply.isOk)) machine :=
  must_perform.2 ⟨hpermits machine _ id, fun _ _ h => h⟩

/-- Whether there is an artifact that must not be replaced. -/
def CommonPrepareArgs.refuses (args : CommonPrepareArgs) (machine : Machine library) : Bool :=
  !args.forceOutput && machine.output.contents.isSome

/-- Only the output file changes, and after a success it is durable. An artifact that must not be
replaced stays as it is. -/
def Persisted (args : CommonPrepareArgs) (bytes : List UInt8) (machine : Machine library)
    (succeeded : Prop) (after : Machine library) : Prop :=
  ∃ output synced, after = machine.withOutput output synced ∧
    (succeeded → output.contents = some bytes ∧ synced = true) ∧
    (args.refuses machine = true → output = machine.output ∧ ¬ succeeded)

/-- Every run of `persist_artifact`, with the faults that its calls may meet. -/
theorem must_persistArtifact (hpermits : ∀ machine, PermitsLocal permits machine)
    (args : CommonPrepareArgs) (bytes : List UInt8) (machine : Machine library) :
    Must CliAnswers permits
      ((persistArtifact args.output bytes args.forceOutput).run.substitute
        fun op => cliCall (.artifact op))
      (fun result after => Persisted args bytes machine (result = .ok ()) after) machine := by
  refine must_bind.2 ((must_artifactCall hpermits _ machine).mono fun reply opened hopened => ?_)
  obtain ⟨fault, output, hopen, rfl⟩ := hopened
  obtain ⟨herror, rfl⟩ | ⟨hfree, rfl, rfl⟩ := respond_open hopen
  · obtain ⟨error, rfl⟩ := herror
    exact ⟨machine.output, _, rfl, nofun, fun _ => ⟨rfl, nofun⟩⟩
  have hopened : ∀ {kept : Prop}, args.refuses machine = true → kept :=
    fun hrefuses => absurd (hrefuses.symm.trans hfree) nofun
  refine must_bind.2 ((must_artifactCall hpermits _ _).mono fun reply written hwritten => ?_)
  obtain ⟨fault, output, hwrite, rfl⟩ := hwritten
  cases reply with
  | error error => exact ⟨output, _, rfl, nofun, hopened⟩
  | ok value =>
      obtain ⟨result, position, hrespond, hresult⟩ := respond_write fault bytes
      cases hrespond.symm.trans hwrite
      have hpart : writtenPart fault bytes = bytes := by
        split_ifs at hresult
        · obtain ⟨_, herror⟩ := hresult
          cases herror
        · exact hresult.2
      refine must_bind.2 ((must_artifactCall hpermits _ _).mono fun reply after hsynced => ?_)
      obtain ⟨fault, output, hsync, rfl⟩ := hsynced
      cases reply with
      | error error => exact ⟨output, _, rfl, nofun, hopened⟩
      | ok value =>
          refine ⟨output, _, rfl, fun _ => ⟨?_, rfl⟩, hopened⟩
          cases fault with
          | some error => cases hsync
          | none =>
              cases hsync
              exact congrArg some hpart

/-- The artifact that was prepared is persisted. -/
theorem must_persist (hpermits : ∀ machine, PermitsLocal permits machine)
    (args : CommonPrepareArgs) (prepared : PreparedSubmission) (machine : Machine library) :
    Must CliAnswers permits (persist args prepared : CliProgram library _).run
      (fun result after =>
        Persisted args prepared.artifact.uploadBytes machine (result = .ok ()) after) machine := by
  refine must_run_adapt.2 ((must_persistArtifact hpermits args _ machine).mono ?_)
  intro result after h
  obtain ⟨output, synced, hafter, hdurable, hrefused⟩ := h
  refine ⟨output, synced, hafter, fun hok => hdurable (map_error_eq_ok.1 hok), fun hrefuses => ?_⟩
  obtain ⟨hsame, hfailed⟩ := hrefused hrefuses
  exact ⟨hsame, fun hok => hfailed (map_error_eq_ok.1 hok)⟩

end Persist

/-- A new output file, or one that may be replaced. -/
theorem runs_persist {args : CommonPrepareArgs} {machine : Machine library}
    (prepared : PreparedSubmission) (hfree : args.refuses machine = false) :
    Runs CliAnswers (persist args prepared : CliProgram library _).run machine (.ok ())
      (machine.withOutput ⟨some prepared.artifact.uploadBytes,
        prepared.artifact.uploadBytes.length⟩ true) := by
  let written : Destination :=
    ⟨some prepared.artifact.uploadBytes, prepared.artifact.uploadBytes.length⟩
  have hopen : artifactHandler.respond (.open (artifactOptions args.forceOutput)) none
      machine.output = (.ok (), ⟨some [], 0⟩) := open_empty hfree
  have hwrite := congrArg (Prod.mk (Except.ok () : Except IoError Unit))
    (write_empty prepared.artifact.uploadBytes)
  have hopened : CliAnswers (.artifact (.open (artifactOptions args.forceOutput))) machine
      (.ok ()) (machine.withOutput ⟨some [], 0⟩ false) := ⟨none, _, hopen, rfl⟩
  have hwritten : CliAnswers (.artifact (.writeAll prepared.artifact.uploadBytes))
      (machine.withOutput ⟨some [], 0⟩ false) (.ok ()) (machine.withOutput written false) :=
    ⟨none, _, hwrite, rfl⟩
  have hsynced : CliAnswers (.artifact .syncAll) (machine.withOutput written false) (.ok ())
      (machine.withOutput written true) := ⟨none, _, rfl, rfl⟩
  have hrun : Runs CliAnswers
      ((persistArtifact args.output prepared.artifact.uploadBytes args.forceOutput).run.substitute
        fun op => @cliCall library (.artifact op)) machine (Except.ok ())
      (machine.withOutput written true) :=
    .call hopened (.call hwritten (.call hsynced (.pure (Except.ok ()) _)))
  exact Runs.adapt (p := ExceptT.mk _) hrun

/-! ## The command `prepare` -/

theorem runs_print (line : String) (machine : Machine library) :
    Runs CliAnswers (ExceptT.lift (cliCall (.print line)) : CliProgram library _).run machine
      (.ok ()) machine := by
  have hprinted : @CliAnswers library (.print line) machine () machine := rfl
  exact .call hprinted (.pure _ _)

theorem runs_eprint (line : String) (machine : Machine library) :
    Runs CliAnswers (ExceptT.lift (cliCall (.eprint line)) : CliProgram library _).run machine
      (.ok ()) machine := by
  have hprinted : @CliAnswers library (.eprint line) machine () machine := rfl
  exact .call hprinted (.pure _ _)

/-- The object that is uploaded for what was prepared. -/
def ObjectOf (library : CliLibrary) (prepared : PreparedSubmission)
    (object : PreparedUploadObject) : Prop :=
  prepareUploadObject library.zip prepared.filename.render prepared.filename.remoteFilename
    prepared.artifact.uploadBytes prepared.zipMode = .ok object

/-- Where the object is uploaded. -/
def uploadPath (object : PreparedUploadObject) : String := Sftp.joinPath "in" object.remoteFilename

/-- The client of the gateway that `run_submit` builds. -/
def SubmitArgs.client (args : SubmitArgs) (password : String) : Pfs001HttpClient where
  endpoint := trimEndSlashes args.environment.endpoints.gatewayBase ++
    "/pfs001i/uploadInvoiceMessage"
  credentials := ⟨args.transportId, password⟩

/-- When a call may be made. The gateway is told about an object that the server has. -/
def Permitted (args : SubmitArgs) (before : Machine library) :
    CliOp library → Machine library → Prop
  | .http (.send request), machine =>
      ∃ prepared object password body, Durable args.common before machine prepared ∧
        ObjectOf library prepared object ∧
        machine.remote.file (uploadPath object) = some object.uploadedBytes ∧
        before.secret args.transportPasswordEnv = .ok password ∧
        (uploadNotification prepared.metadata object).toPfs001Json library.http.json
          ⟨args.transportId, password⟩ = .ok body ∧
        request = (args.client password).request body
  | .ssh _, machine | .http _, machine => ∃ prepared, Durable args.common before machine prepared
  | _, _ => True

/-- Calls that stay on the machine may always be made. -/
theorem permits_local (args : SubmitArgs) (before machine : Machine library) :
    PermitsLocal (Permitted args before) machine := by
  intro op hop
  cases op with
  | ssh op => exact absurd trivial hop
  | http op => exact absurd trivial hop
  | _ => trivial

/-- The uploader and the notifier, each with what it may do. -/
def SubmitterAnswers (config : Sftp.SftpConfig) (client : Pfs001HttpClient) :
    Environment (submissionSignature library.backends) (Machine library) :=
  fun op machine reply next =>
    match op, reply with
    | .upload name bytes, reply => ∃ remote,
        Sftp.Uploads (Sftp.joinPath config.uploadDirectory name) bytes machine.remote remote
          (reply = .ok ()) ∧ next = machine.withRemote remote
    | .notify notification, reply => ∃ events, NotifyRun client notification events reply ∧
        next = machine.requested events
    | .signatureAlgorithm, _ | .signAttached _, _ => False

/-- An upload is permitted when the artifact is durable, and a notification about an object when
the server has it too. -/
def Announceable (args : SubmitArgs) (before : Machine library) (prepared : PreparedSubmission) :
    SubmissionOp → Machine library → Prop
  | .upload .., machine => Durable args.common before machine prepared
  | .notify notification, machine => ∃ object, ObjectOf library prepared object ∧
      Durable args.common before machine prepared ∧
      machine.remote.file (uploadPath object) = some object.uploadedBytes ∧
      notification = uploadNotification prepared.metadata object
  | _, _ => False

section Submit

variable {args : SubmitArgs} {before : Machine library} {prepared : PreparedSubmission}
  {password : String}

/-- A call of the uploader. -/
theorem must_uploadCall (fuel : Nat) (config : Sftp.SftpConfig) (credentials : Sftp.SftpCredentials)
    (name : String) (bytes : List UInt8) {machine : Machine library}
    (hdurable : Durable args.common before machine prepared) :
    Must CliAnswers (Permitted args before)
      ((Sftp.upload fuel config credentials name bytes :
        ExceptT (Sftp.SftpUploadError library.ssh) _ Unit).run.substitute
          fun op => cliCall (.ssh op)) (fun reply after => ∃ remote,
        Sftp.Uploads (Sftp.joinPath config.uploadDirectory name) bytes machine.remote remote
          (reply = .ok ()) ∧ after = machine.withRemote remote) machine := by
  have hcalls : CarriesOut Sftp.SshAnswers (fun _ _ => True) CliAnswers (Permitted args before)
      (fun op : Sftp.SshOp library.ssh => cliCall (.ssh op))
      (fun remote after => after = machine.withRemote remote) := by
    intro op remote actual hactual _
    subst hactual
    refine must_perform.2 ⟨⟨prepared, hdurable.made, hdurable.contents, hdurable.synced⟩, ?_⟩
    intro reply after h
    obtain ⟨next, hanswer, rfl⟩ := h
    exact ⟨next, hanswer, rfl⟩
  exact hcalls.must (Sftp.must_upload fuel config credentials name bytes machine.remote) rfl

/-- A call of the notifier. -/
theorem must_notifyCall {machine : Machine library} {notification : UploadNotification}
    (hpassword : before.secret args.transportPasswordEnv = .ok password)
    (hpermitted : Announceable args before prepared (.notify notification) machine) :
    Must CliAnswers (Permitted args before)
      (((args.client password).notify notification :
        HttpProgram library.http _).run.substitute fun op => cliCall (.http op))
      (fun reply after => ∃ events, NotifyRun (args.client password) notification events reply ∧
        after = machine.requested events) machine := by
  obtain ⟨object, hobject, hdurable, hstored, rfl⟩ := hpermitted
  have hcalls : CarriesOut (recording _) (fun op _ => True ∧
        (args.client password).Sends library.http.json (uploadNotification prepared.metadata object)
          op) CliAnswers (Permitted args before)
      (fun op => @cliCall library (.http op))
      (fun events after => after = machine.requested events) := by
    intro op events actual hactual hsends
    subst hactual
    refine must_perform.2 ⟨?_, fun reply after h => ?_⟩
    · cases op with
      | build connectTimeout timeout => exact hsends.2.elim
      | send request =>
          obtain ⟨_, body, hbody, hrequest⟩ := hsends
          exact ⟨prepared, object, password, body, ⟨hdurable.made, hdurable.contents,
            hdurable.synced⟩, hobject, hstored, hpassword, hbody, hrequest⟩
      | bytes => exact ⟨prepared, hdurable.made, hdurable.contents, hdurable.synced⟩
    · refine ⟨_, rfl, ?_⟩
      rw [show after = _ from h]
      exact congrArg (fun http => { machine with http }) (List.append_assoc _ _ _)
  have hnone : machine = machine.requested [] :=
    congrArg (fun http => { machine with http }) (List.append_nil machine.http).symm
  refine (hcalls.must ((must_notify _ _ []).only (only_notify _ _)) hnone).mono ?_
  intro reply after h
  obtain ⟨final, ⟨events, hfinal, hrun⟩, hafter⟩ := h
  rw [List.nil_append] at hfinal
  subst hfinal
  exact ⟨final, hrun, hafter⟩

/-- The calls of `submit` are carried out by the client and the notifier. -/
theorem carriesOut_submitterCall (fuel : Nat) (config : Sftp.SftpConfig)
    (credentials : Sftp.SftpCredentials)
    (hpassword : before.secret args.transportPasswordEnv = .ok password) :
    CarriesOut (SubmitterAnswers config (args.client password))
      (Announceable args before prepared) CliAnswers (Permitted args before)
      (@submitterCall library fuel config credentials (args.client password)) Eq := by
  intro op machine actual hactual hpermitted
  subst hactual
  cases op with
  | signatureAlgorithm => trivial
  | signAttached content => trivial
  | upload name bytes =>
      refine (must_uploadCall fuel config credentials name bytes hpermitted).mono ?_
      exact fun reply after h => ⟨after, h, rfl⟩
  | notify notification =>
      refine (must_notifyCall hpassword hpermitted).mono ?_
      exact fun reply after h => ⟨after, h, rfl⟩

/-- The gateway has been told about the object, and has accepted it. -/
structure Announced (args : SubmitArgs) (prepared : PreparedSubmission)
    (object : PreparedUploadObject) (password : String) (body : List UInt8)
    (gatewayStatus : GatewayProcessStatus) (events : List (HttpEvent library.http)) : Prop where
  encoded : (uploadNotification prepared.metadata object).toPfs001Json library.http.json
    ⟨args.transportId, password⟩ = .ok body
  answered : ∃ status responseBody, isSuccess status = true ∧
    library.http.fromSlice responseBody = .ok gatewayStatus ∧
    events = [⟨.send ((args.client password).request body), .ok status⟩,
      ⟨.bytes, .ok responseBody⟩]
  accepted : gatewayStatus.isAccepted = true

/-- What the submission of an object leaves behind. -/
structure Sent (args : SubmitArgs) (before : Machine library) (prepared : PreparedSubmission)
    (object : PreparedUploadObject) (password : String) (machine after : Machine library)
    (succeeded : Prop) : Prop where
  durable : Durable args.common before after prepared
  uploads : Sftp.Uploads (uploadPath object) object.uploadedBytes machine.remote after.remote
    succeeded
  announced : succeeded → ∃ body gatewayStatus events, after.http = machine.http ++ events ∧
    Announced args prepared object password body gatewayStatus events

/-- A notification that succeeds. -/
theorem announced_of_run {object : PreparedUploadObject} {status : GatewayProcessStatus}
    {events : List (HttpEvent library.http)}
    (hrun : NotifyRun (args.client password) (uploadNotification prepared.metadata object) events
      (.ok status)) (haccepted : status.isAccepted = true) :
    ∃ body, Announced args prepared object password body status events := by
  generalize hresult : (.ok status : Except (Pfs001HttpError library.http) _) = result at hrun
  cases hrun with
  | @answered body code responseBody hbody hcode =>
      have hparsed := map_error_eq_ok.1 hresult.symm
      exact ⟨body, hbody, ⟨code, responseBody, hcode, hparsed, rfl⟩, haccepted⟩
  | _ => cases hresult

/-- The network phase, once the artifact is durable. -/
theorem must_uploadAndNotify_durable {machine : Machine library} {object : PreparedUploadObject}
    (hobject : ObjectOf library prepared object)
    (hdurable : Durable args.common before machine prepared) (host knownHosts : String) :
    Must (SubmitterAnswers (.new host knownHosts) (args.client password))
      (Announceable args before prepared)
      (uploadAndNotify prepared.metadata object :
        ExceptT (NativeSubmitError library.zip library.backends) _ _).run
      (fun result after => Sent args before prepared object password machine after
        (∃ receipt, result = .ok receipt)) machine := by
  refine must_run_bind.2 (must_run_adapt.2 (must_perform.2 ⟨hdurable, fun reply uploaded h => ?_⟩))
  obtain ⟨remote, huploads, rfl⟩ := h
  have hdurable' : Durable args.common before (machine.withRemote remote) prepared :=
    ⟨hdurable.made, hdurable.contents, hdurable.synced⟩
  cases reply with
  | error error =>
      refine ⟨hdurable', ⟨huploads.others, huploads.beginning, ?_⟩, ?_⟩ <;>
      · intro hok
        obtain ⟨receipt, hreceipt⟩ := hok
        cases hreceipt
  | ok value =>
      have hstored := huploads.complete rfl
      refine must_run_bind.2 (must_run_adapt.2 (must_perform.2
        ⟨⟨object, hobject, hdurable', hstored, rfl⟩, fun reply after h => ?_⟩))
      obtain ⟨events, hrun, rfl⟩ := h
      have hsent : ∀ {succeeded : Prop}, (succeeded → ∃ body gatewayStatus events',
          machine.http ++ events = machine.http ++ events' ∧
            Announced args prepared object password body gatewayStatus events') →
          Sent args before prepared object password machine
            ((machine.withRemote remote).requested events) succeeded := fun hannounced =>
        ⟨⟨hdurable.made, hdurable.contents, hdurable.synced⟩,
          ⟨huploads.others, huploads.beginning, fun _ => hstored⟩, hannounced⟩
      cases reply with
      | error error =>
          refine hsent fun hok => ?_
          obtain ⟨receipt, hreceipt⟩ := hok
          cases hreceipt
      | ok status =>
          show Must _ _ (ExceptT.run (if !status.isAccepted then _ else _)) _ _
          cases haccepted : status.isAccepted with
          | false =>
              refine hsent fun hok => ?_
              obtain ⟨receipt, hreceipt⟩ := hok
              cases hreceipt
          | true =>
              refine hsent fun _ => ?_
              obtain ⟨body, hannounced⟩ := announced_of_run hrun haccepted
              exact ⟨body, status, events, rfl, hannounced⟩

/-- What a run of `submit` leaves behind: nothing, if a local check refuses. -/
theorem must_submit {machine : Machine library}
    (hdurable : Durable args.common before machine prepared) (host knownHosts : String) :
    Must (SubmitterAnswers (.new host knownHosts) (args.client password))
      (Announceable args before prepared)
      (prepared.submit library.zip :
        ExceptT (PackArtifactSubmitError library.zip library.backends) _ _).run
      (fun result after => after = machine ∧ (∀ receipt, result ≠ .ok receipt) ∨
        ∃ object, ObjectOf library prepared object ∧
          Sent args before prepared object password machine after
            (∃ receipt, result = .ok receipt)) machine := by
  unfold PreparedSubmission.submit
  rw [submit_pack_artifact_eq, must_run_bind, ExceptT.run_mk, must_pure]
  cases hlocal : prepared.request.localChecks library.zip library.backends with
  | error failure => exact .inl ⟨rfl, fun _ => nofun⟩
  | ok object =>
      have hobject : ObjectOf library prepared object := (local_checks_eq_ok.1 hlocal).2
      refine must_run_adapt.2 ((must_uploadAndNotify_durable hobject hdurable host
        knownHosts).mono fun result after hsent => .inr ⟨object, hobject, ?_⟩)
      refine ⟨hsent.durable, ⟨hsent.uploads.others, hsent.uploads.beginning, fun hok => ?_⟩,
        fun hok => ?_⟩
      · obtain ⟨receipt, hreceipt⟩ := hok
        exact hsent.uploads.complete ⟨receipt, map_error_eq_ok.1 hreceipt⟩
      · obtain ⟨receipt, hreceipt⟩ := hok
        exact hsent.announced ⟨receipt, map_error_eq_ok.1 hreceipt⟩

end Submit

end TwEinvoice.Cli
