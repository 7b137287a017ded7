import TwEinvoice.Cli.Durability
import TwEinvoice.Client.Submittable
import TwEinvoice.Signing.ArmorLines

/-!
# What a submission leaves behind

`run_submit` as a whole. The network is not used before the artifact is on the disk, the gateway is
not told before the object is on the server, and a success means that all three have it.
-/

namespace TwEinvoice.Cli

open Effects Rust Client Envelope Signing Transport

variable {library : CliLibrary}

/-! ## The command -/

/-- What a run of `run_submit` leaves behind. -/
inductive SubmitOutcome (args : SubmitArgs) (before after : Machine library) (succeeded : Prop) :
    Prop where
  | unsent (hremote : after.remote = before.remote) (hfailed : ¬ succeeded)
  | sent {prepared object password} (hobject : ObjectOf library prepared object)
      (hpassword : before.secret args.transportPasswordEnv = .ok password)
      (hdurable : Durable args.common before after prepared)
      (huploads : Sftp.Uploads (uploadPath object) object.uploadedBytes before.remote after.remote
        succeeded)
      (hannounced : succeeded → ∃ body gatewayStatus events,
        after.http = before.http ++ ⟨.build 10 120, .ok ()⟩ :: events ∧
          Announced args prepared object password body gatewayStatus events)

/-- The part of `run_submit` with the network. -/
theorem must_submitPrepared {args : SubmitArgs} {before machine : Machine library}
    {prepared : PreparedSubmission} (fuel : Nat)
    (hdurable : Durable args.common before machine prepared)
    (hsecret : machine.secret = before.secret) (hremote : machine.remote = before.remote)
    (hhttp : machine.http = before.http) :
    Must CliAnswers (Permitted args before)
      (submitPrepared fuel args prepared : CliProgram library _).run
      (fun result after => SubmitOutcome args before after (result = .ok ())) machine := by
  refine (must_readSecretEnvironment (permits_local args before machine) _).run_bind_reads
    (fun _ => .unsent hremote nofun) fun password ⟨_, hpassword⟩ => ?_
  rw [hsecret] at hpassword
  refine must_run_bind.2 (must_run_adapt.2 (must_bind.2 (must_perform.2
    ⟨⟨prepared, hdurable⟩, fun reply built hbuilt => ?_⟩)))
  subst hbuilt
  cases reply with
  | error error => exact .unsent hremote nofun
  | ok value =>
      refine must_run_bind.2 (must_run_lift.2 (must_perform.2 ⟨trivial, fun _ same hsame => ?_⟩))
      subst hsame
      have hdurable' : Durable args.common before
          (machine.requested [⟨.build 10 120, .ok value⟩]) prepared :=
        ⟨hdurable.made, hdurable.contents, hdurable.synced⟩
      have hmust := (carriesOut_submitterCall fuel
        (.new args.environment.endpoints.sftpHost args.knownHosts) ⟨args.transportId, password⟩
        hpassword).must (must_submit hdurable' _ _) rfl
      refine must_run_bind.2 (must_run_adapt.2 (hmust.mono fun result after h => ?_))
      obtain ⟨after, h, rfl⟩ := h
      rcases h with ⟨rfl, hfailed⟩ | ⟨object, hobject, hsent⟩
      · cases result with
        | error error => exact .unsent hremote nofun
        | ok receipt => exact absurd rfl (hfailed receipt)
      have hsame : (machine.requested [⟨.build 10 120, .ok value⟩]).remote = before.remote :=
        hremote
      obtain ⟨hdurable, huploads, hannounced⟩ := hsent
      rw [hsame] at huploads
      cases result with
      | error error =>
          exact .sent hobject hpassword hdurable ⟨huploads.others, huploads.beginning, nofun⟩ nofun
      | ok receipt =>
          have hok : ∃ value, (Except.ok receipt :
              SubmitResult library.zip library.backends) = .ok value := ⟨receipt, rfl⟩
          have houtcome : ∀ {succeeded : Prop}, SubmitOutcome args before after succeeded := by
            refine .sent hobject hpassword hdurable
              ⟨huploads.others, huploads.beginning, fun _ => huploads.complete hok⟩ fun _ => ?_
            obtain ⟨body, gatewayStatus, events, hevents, hannounced⟩ := hannounced hok
            refine ⟨body, gatewayStatus, events, hevents.trans ?_, hannounced⟩
            show machine.http ++ _ ++ _ = _
            rw [hhttp, List.append_assoc]
            rfl
          refine must_run_lift.2 (must_perform.2 ⟨trivial, fun _ same hsame => ?_⟩)
          subst hsame
          exact houtcome

/-- In every behaviour of `run_submit` each call is made when it may be. -/
theorem must_runSubmit (fuel : Nat) (args : SubmitArgs) (before : Machine library) :
    Must CliAnswers (Permitted args before) (runSubmit fuel args : CliProgram library _).run
      (fun result after => SubmitOutcome args before after (result = .ok ())) before := by
  have hlocal := permits_local args before
  refine (must_prepare (hlocal before) args.common).run_bind_reads (fun _ => .unsent rfl nofun) ?_
  intro prepared hprepared
  refine must_run_bind.2 ((must_persist hlocal _ _ before).mono fun result machine h => ?_)
  obtain ⟨output, synced, rfl, hpersisted, _⟩ := h
  cases result with
  | error error => exact .unsent rfl nofun
  | ok value =>
      obtain ⟨hcontents, hsynced⟩ := hpersisted rfl
      refine must_run_bind.2 (must_run_lift.2 (must_perform.2 ⟨trivial, fun _ same hsame => ?_⟩))
      subst hsame
      exact must_submitPrepared fuel ⟨hprepared, hcontents, hsynced⟩ rfl rfl rfl

/-- The order of a submission: whenever `run_submit` uses the network, the output file holds
exactly the artifact that was prepared and has been synchronized, and whenever it notifies the
gateway, the server holds exactly the object that the notification is about. -/
theorem submit_guarded {fuel : Nat} {args : SubmitArgs} {before machine : Machine library}
    {op : CliOp library}
    (h : Calls CliAnswers (runSubmit fuel args).run before op machine) :
    Permitted args before op machine :=
  (must_runSubmit fuel args before).calls h

/-- What a run of `run_submit` leaves behind: at most one remote file changes, and a success means
that the disk has the artifact, the server the object and the gateway its notification. -/
theorem submit_outcome {fuel : Nat} {args : SubmitArgs} {before after : Machine library}
    {result : Except (CliFailure library) Unit}
    (h : Runs CliAnswers (runSubmit fuel args).run before result after) :
    SubmitOutcome args before after (result = .ok ()) :=
  (must_runSubmit fuel args before).runs h

/-! ## A submission that succeeds -/

/-- The libraries of the sample. -/
def sampleCli : CliLibrary where
  ssh := Sftp.sampleLibrary
  http := ⟨⟨Unit, fun _ => .ok [123, 125]⟩, Unit, fun _ => .ok ⟨0, []⟩⟩
  openssl := sampleOpenSsl 128
  pkcs12 := sampleIdentities
  zip := storedCrate

/-- One write sends all the bytes. -/
theorem runs_upload {config : Sftp.SftpConfig} {credentials : Sftp.SftpCredentials} {name : String}
    (hname : safeRemoteBasename name = true) {bytes : List UInt8} (hbytes : bytes ≠ [])
    (files : Sftp.RemoteFiles) :
    Sftp.sampleServer.Returns (fun _ _ => ())
      (Sftp.upload 2 config credentials name bytes :
        ExceptT (Sftp.SftpUploadError Sftp.sampleLibrary) _ _).run files (.ok ())
      ((files.created (Sftp.joinPath config.uploadDirectory name)).appended bytes) := by
  unfold Sftp.upload
  rw [hname]
  have hlogin : Sftp.sampleServer.Returns (fun _ _ => ())
      (Sftp.connectSession config credentials : Sftp.ConnectProgram Sftp.sampleLibrary _).run files
      (.ok ()) files := rfl
  have hwrite : ∀ files : Sftp.RemoteFiles, Sftp.sampleServer.Returns (fun _ _ => ())
      (writeAll (fun bytes => Sftp.request (.write bytes)) 2 bytes :
        ExceptT IoFailure (Program (Sftp.sshSignature Sftp.sampleLibrary)) Unit).run files (.ok ())
      (files.appended bytes) := by
    intro files
    have hpos := List.length_pos_iff.2 hbytes
    unfold writeAll
    rw [if_neg hbytes]
    show Handler.Returns _ _ (if bytes.length = 0 then _ else _) _ _ _
    rw [if_neg (by omega)]
    show Handler.Returns _ _ (if bytes.drop bytes.length = [] then _ else _) _ _ _
    rw [if_pos (List.drop_length)]
    rfl
  let created := files.created (Sftp.joinPath config.uploadDirectory name)
  have hsftp : Sftp.sampleServer.Returns (fun _ _ => ())
      (Sftp.callSsh (Sftp.request .sftp) : Sftp.ConnectProgram Sftp.sampleLibrary _).run files
      (.ok ()) files := rfl
  have hcreated : Sftp.sampleServer.Returns (fun _ _ => ())
      (Sftp.callSsh (Sftp.request (.create (Sftp.joinPath config.uploadDirectory name))) :
        Sftp.ConnectProgram Sftp.sampleLibrary _).run files (.ok ()) created := rfl
  refine @Handler.Returns.run_adapt _ _ _ _ _ _ _ _ _ _ _ (.ok ()) ?_
  refine hlogin.run_bind (hsftp.run_bind (hcreated.run_bind ?_))
  refine (Handler.Returns.run_adapt (hwrite created)).run_bind ?_
  rfl

def sampleArgs : SubmitArgs where
  common := {
    filename := sampleFilename.render
    mig := ["invoice.xml"]
    fromVac := "FROM-VAC"
    toVac := "TO-VAC"
    fromDescription := some "Sender & Co"
    toDescription := none
    fromVacDescription := some "Route <A>"
    toVacDescription := none
    action := "C0401"
    service := .store
    zip := .zip
    pfx := "identity.pfx"
    pfxPasswordEnv := "PFX_PASSWORD"
    output := "signed.cms"
    forceOutput := false
    apiVersion := "3.1.3"
    turnkeyVersion := "0.1.0" }
  environment := .test
  knownHosts := "known_hosts"
  transportId := "transport-id"
  transportPasswordEnv := "TRANSPORT_PASSWORD"

def sampleMachine : Machine sampleCli where
  file path := .ok (if path = "identity.pfx" then [75] else samplePayload.bytes)
  secret _ := .ok "secret"
  output := ⟨none, 0⟩
  synced := false
  remote := Sftp.sampleFiles
  http := []

/-- What the identity of the sample signs for a content. -/
def signedContent (content : List UInt8) : CmsSignedData :=
  ⟨(signedParts 128 content).layout, encode_ne_nil (encode_eq _)⟩

theorem sample_filename_parsed :
    TurnkeyPackFilename.parse sampleFilename.render = .ok sampleFilename := by
  have hparsed : (TurnkeyPackFilename.parse sampleFilename.render).toOption =
      some sampleFilename := by decide +kernel
  cases hresult : TurnkeyPackFilename.parse sampleFilename.render with
  | error error =>
      rw [hresult] at hparsed
      cases hparsed
  | ok filename =>
      rw [hresult] at hparsed
      exact congrArg Except.ok (Option.some.inj hparsed)

/-- The artifact of the sample is small. -/
theorem sample_size :
    (intoBytes (signedContent sampleContent).toTurnkeyArmored).length ≤ maxSignedSourceBytes := by
  have hencoded : (signedContent sampleContent).encoded.length ≤ 3000 := by decide +kernel
  have harmor := (armor_length (signedContent sampleContent)).2
  unfold maxSignedSourceBytes
  omega

/-- The sample can be prepared. -/
theorem sample_prepared :
    ∃ prepared, Prepared sampleArgs.common sampleMachine prepared ∧
      prepared.filename = sampleFilename ∧ prepared.zipMode = .zip ∧
      prepared.metadata = samplePlan.metadata 1 ∧
      prepared.artifact.uploadBytes.length ≤ maxSignedSourceBytes := by
  have hplans : Plans sampleArgs.common sampleMachine samplePlan :=
    ⟨sample_filename_parsed, .cons rfl .nil, rfl, rfl, rfl, rfl, rfl, rfl⟩
  have hcontent : samplePlan.envelope.toTurnkeyXml = .ok sampleContent :=
    to_turnkey_xml_single rfl (from_utf8_into_bytes "<Invoice/>") (by decide)
  have hsigns := sample_signs 128 sampleContent
  have hsize := sample_size
  change _ = Except.ok (Except.ok (signedContent sampleContent)) at hsigns
  generalize signedContent sampleContent = cms at hsigns hsize
  refine ⟨⟨sampleFilename, ⟨intoBytes cms.toTurnkeyArmored, sampleContent.length,
    .rsaPkcs1v15Sha256⟩, .zip, samplePlan.metadata 1⟩, ?_, rfl, rfl, rfl, hsize⟩
  exact ⟨[75], "secret", sampleSigner 128, samplePlan, sampleContent, cms, rfl, by decide, rfl,
    rfl, hplans, by decide, hcontent, hsigns, 1, rfl, rfl⟩

/-- The gateway of the sample accepts what is in range. -/
theorem runs_notify {client : Pfs001HttpClient} {notification : UploadNotification}
    (hquantity : notification.quantity = 1) (hsize : notification.size.toNat < 2 ^ 31)
    (hretry : notification.retry = 0) (machine : Machine sampleCli) :
    ∃ after, Runs CliAnswers ((client.notify notification :
      HttpProgram sampleCli.http _).run.substitute fun op => cliCall (.http op)) machine
        (Except.ok ⟨0, []⟩) after := by
  have hbody : ∃ body, notification.toPfs001Json sampleCli.http.json client.credentials =
      .ok body := by
    unfold UploadNotification.toPfs001Json
    rw [hquantity, hretry, checked_i32_of_lt "size" hsize]
    exact ⟨_, rfl⟩
  obtain ⟨body, hbody⟩ := hbody
  unfold Pfs001HttpClient.notify
  rw [hbody]
  have hsent : @CliAnswers sampleCli (.http (.send (client.request body))) machine
      (Except.ok 200) (machine.requested [⟨.send (client.request body), Except.ok 200⟩]) := rfl
  have hread : ∀ state, @CliAnswers sampleCli (.http .bytes) state (Except.ok [])
      (state.requested [⟨.bytes, Except.ok []⟩]) := fun _ => rfl
  have haccepted : sampleCli.http.fromSlice [] = .ok ⟨0, []⟩ := rfl
  exact ⟨_, .call hsent (.call (hread _) (.pure (Except.ok (⟨0, []⟩ : GatewayProcessStatus)) _))⟩

/-- What was prepared can be submitted to the sample. -/
theorem runs_submitPrepared {machine : Machine sampleCli} {prepared : PreparedSubmission}
    {object : PreparedUploadObject} (hsecret : machine.secret "TRANSPORT_PASSWORD" = .ok "secret")
    (hlocal : prepared.request.localChecks sampleCli.zip sampleCli.backends = .ok object)
    (hname : safeRemoteBasename object.remoteFilename = true) (hbytes : object.uploadedBytes ≠ [])
    (hquantity : prepared.metadata.message.quantity = 1)
    (hsize : object.notificationSize.toNat < 2 ^ 31) (hretry : prepared.metadata.retry = 0) :
    ∃ after, Runs CliAnswers (submitPrepared 2 sampleArgs prepared : CliProgram sampleCli _).run
      machine (.ok ()) after := by
  let config : Sftp.SftpConfig :=
    .new sampleArgs.environment.endpoints.sftpHost sampleArgs.knownHosts
  let credentials : Sftp.SftpCredentials := ⟨sampleArgs.transportId, "secret"⟩
  let client : Pfs001HttpClient := sampleArgs.client "secret"
  have hupload : ∀ machine : Machine sampleCli, ∃ after, Runs CliAnswers
      (submitterCall 2 config credentials client
        (.upload object.remoteFilename object.uploadedBytes)) machine (Except.ok ()) after := by
    intro machine
    have hrun := (@runs_upload config credentials _ hname _ hbytes machine.remote).runs_of
      Sftp.sampleServer_answers
    have hcall : ∀ (op : Sftp.SshOp Sftp.sampleLibrary) files reply next,
        Sftp.SshAnswers op files reply next → Runs (@CliAnswers sampleCli)
          (cliCall (.ssh op)) (machine.withRemote files) reply (machine.withRemote next) := by
      intro op files reply next h
      have hanswer : @CliAnswers sampleCli (.ssh op) (machine.withRemote files) reply
          (machine.withRemote next) := ⟨next, h, rfl⟩
      exact .perform hanswer
    exact ⟨_, hrun.substitute hcall⟩
  let built := machine.requested [⟨.build 10 120, Except.ok ()⟩]
  obtain ⟨uploaded, huploaded⟩ := hupload built
  obtain ⟨after, hnotified⟩ := @runs_notify client (uploadNotification prepared.metadata object)
    hquantity hsize hretry uploaded
  have hnetwork : Runs (fun op state reply next => Runs CliAnswers
      (submitterCall 2 config credentials client op) state reply next)
      (uploadAndNotify prepared.metadata object :
        ExceptT (NativeSubmitError sampleCli.zip sampleCli.backends) _ _).run built
      (.ok ⟨object.remoteFilename, ⟨0, []⟩⟩) after :=
    .call huploaded (.call hnotified (.pure (Except.ok
      (⟨object.remoteFilename, ⟨0, []⟩⟩ : NativeSubmissionReceipt)) _))
  have hsubmit : Runs CliAnswers ((prepared.submit sampleCli.zip :
      ExceptT (PackArtifactSubmitError sampleCli.zip sampleCli.backends) _ _).run.substitute
        (submitterCall 2 config credentials client)) built
      (Except.ok ⟨object.remoteFilename, ⟨0, []⟩⟩) after := by
    unfold PreparedSubmission.submit
    rw [submit_pack_artifact_eq, hlocal]
    have hadapted : Runs _ (ExceptT.adapt PackArtifactSubmitError.native
        (uploadAndNotify prepared.metadata object)).run _ _ _ := hnetwork.adapt
    have hcalls : Runs CliAnswers (Program.substitute _ _) (id _) _ (id _) :=
      hadapted.substitute fun op state reply next h => h
    exact hcalls
  have hbuilt : @CliAnswers sampleCli (.http (.build 10 120)) machine (Except.ok ())
      built := rfl
  refine ⟨after, (runs_readSecretEnvironment (by decide) hsecret).run_bind ?_⟩
  have hclient : Runs CliAnswers (ExceptT.adapt CliFailure.client (ExceptT.mk
      ((Pfs001HttpClient.new sampleArgs.environment.endpoints.gatewayBase
        ⟨sampleArgs.transportId, "secret"⟩ :
          HttpProgram sampleCli.http _).run.substitute fun op => cliCall (.http op)))).run machine
      (.ok client) built := by
    have hnew : Runs CliAnswers ((Pfs001HttpClient.new
        sampleArgs.environment.endpoints.gatewayBase ⟨sampleArgs.transportId, "secret"⟩ :
          HttpProgram sampleCli.http _).run.substitute fun op => cliCall (.http op)) machine
        (Except.ok client) built := .call hbuilt (.pure (Except.ok client) _)
    exact Runs.adapt (p := ExceptT.mk _) hnew
  refine hclient.run_bind ((runs_eprint _ _).run_bind ?_)
  exact Runs.run_bind (Runs.adapt (p := ExceptT.mk _) hsubmit) (runs_print _ _)

/-- An object of the sample is an archive. -/
theorem sample_object {prepared : PreparedSubmission} (hzip : prepared.zipMode = .zip)
    (hname : SafeCharacters prepared.filename.render)
    (hsize : prepared.artifact.uploadBytes.length ≤ maxSignedSourceBytes) :
    ∃ object, ObjectOf sampleCli prepared object ∧ object.uploadedBytes ≠ [] := by
  have hpackaged : packageBytes storedCrate prepared.filename.render
      prepared.artifact.uploadBytes prepared.zipMode =
        .ok ((intoBytes prepared.filename.render).flatMap ([1, ·]) ++ [0] ++
          prepared.artifact.uploadBytes) := by
    rw [hzip]
    rfl
  obtain ⟨object, hobject⟩ := (@prepare_upload_object_iff storedCrate prepared).2
    ⟨hname, hsize, _, hpackaged⟩
  refine ⟨object, hobject, fun hempty => ?_⟩
  obtain ⟨_, _, _, hsame⟩ := prepare_upload_object_ok hobject
  rw [hpackaged, hempty] at hsame
  have hnil := Except.ok.inj hsame
  simp at hnil

/-- The sample succeeds. -/
theorem sample_submits :
    ∃ after, Runs CliAnswers (runSubmit 2 sampleArgs : CliProgram sampleCli _).run sampleMachine
      (.ok ()) after := by
  obtain ⟨prepared, hprepared, hfilename, hzip, hmetadata, hsize⟩ := sample_prepared
  have hsafe : SafeCharacters sampleFilename.render := by
    unfold SafeCharacters
    decide +kernel
  have hremote : safeRemoteBasename sampleFilename.remoteFilename = true := by decide +kernel
  rw [← hfilename] at hsafe hremote
  obtain ⟨object, hobject, hbytes⟩ := sample_object hzip hsafe hsize
  obtain ⟨hname, _, hlength, _⟩ := prepare_upload_object_ok hobject
  have hplan : validatePlan samplePlan = .ok () := by decide
  have hcount : (checkPackCount prepared.filename prepared.metadata.message.quantity :
      Except (PackArtifactSubmitError sampleCli.zip sampleCli.backends) Unit) = .ok () := by
    rw [hfilename, hmetadata]
    exact @check_pack_count_ok _ _ samplePlan _ hplan (by decide)
  have hlocal : prepared.request.localChecks sampleCli.zip sampleCli.backends = .ok object :=
    local_checks_eq_ok.2 ⟨hcount, hobject⟩
  have hsmall : object.notificationSize.toNat < 2 ^ 31 := by
    rw [hlength]
    unfold maxSignedSourceBytes at hsize
    omega
  let machine : Machine sampleCli := sampleMachine.withOutput
    ⟨some prepared.artifact.uploadBytes, prepared.artifact.uploadBytes.length⟩ true
  obtain ⟨after, hsubmitted⟩ := @runs_submitPrepared machine prepared object rfl hlocal
    (hname ▸ hremote) hbytes (by rw [hmetadata]; rfl) hsmall (by rw [hmetadata]; rfl)
  exact ⟨after, hprepared.runs.run_bind ((runs_persist prepared rfl).run_bind
    ((runs_print _ _).run_bind hsubmitted))⟩

/-- Nothing has been uploaded before the sample. -/
theorem sample_not_uploaded (name : String) :
    Sftp.sampleFiles.file (Sftp.joinPath "in" name) = none := by
  have hne : Sftp.joinPath "in" name ≠ "out/ProcessResult.xml" := by
    intro heq
    unfold Sftp.joinPath at heq
    split_ifs at heq with hslash hempty
    · rw [heq] at hslash
      exact absurd hslash (by decide)
    · exact absurd hempty (by decide)
    have hhead := congrArg (fun path => path.toList.head?) heq
    simp at hhead
  exact Function.update_of_ne hne (some ([60, 47, 62] : List UInt8)) fun _ => none

/-- The sample uploads its object, and sends its notification. -/
theorem sample_submit_guarded :
    (∃ op machine, Sftp.IsFileCall op ∧ Permitted sampleArgs sampleMachine (.ssh op) machine) ∧
    ∃ request machine, Permitted sampleArgs sampleMachine (.http (.send request)) machine := by
  obtain ⟨after, h⟩ := sample_submits
  cases (must_runSubmit 2 sampleArgs sampleMachine).runs h with
  | unsent hremote hfailed => exact absurd rfl hfailed
  | @sent prepared object password hobject hpassword hdurable huploads hannounced =>
      refine ⟨?_, ?_⟩
      · -- The call with which the object appears on the server.
        have hafter : after.remote.file (uploadPath object) ≠ none := by
          rw [huploads.complete rfl]
          exact Option.some_ne_none _
        obtain ⟨op, machine, reply, next, hcalls, hanswer, hfree, htaken⟩ :=
          h.exists_call (fun machine => machine.remote.file (uploadPath object) ≠ none)
            (not_not.2 (sample_not_uploaded _)) hafter
        obtain ⟨call, rfl, hcall⟩ := CliAnswers.file_call hanswer fun hsame =>
          hfree (hsame ▸ htaken)
        exact ⟨call, machine, hcall, submit_guarded hcalls⟩
      · -- The call that is recorded as a request.
        obtain ⟨body, gatewayStatus, events, hevents, hannounced⟩ := hannounced rfl
        obtain ⟨status, responseBody, _, _, rfl⟩ := hannounced.answered
        obtain ⟨event, hevent, request, hrequest⟩ : ∃ event ∈ after.http,
            ∃ request, event.1 = .send request := by
          rw [hevents]
          exact ⟨_, List.mem_cons_of_mem _ List.mem_cons_self, _, rfl⟩
        obtain ⟨op, machine, reply, next, hcalls, hanswer, hunsent, hsent⟩ :=
          h.exists_call (fun machine => event ∈ machine.http) (fun hmem => by cases hmem) hevent
        rw [CliAnswers.recorded hanswer hunsent hsent, hrequest] at hcalls
        exact ⟨request, machine, submit_guarded hcalls⟩

theorem sample_submit_outcome :
    ∃ after, SubmitOutcome sampleArgs sampleMachine after
      ((Except.ok () : Except (CliFailure sampleCli) Unit) = .ok ()) := by
  obtain ⟨after, h⟩ := sample_submits
  exact ⟨after, submit_outcome h⟩

end TwEinvoice.Cli
