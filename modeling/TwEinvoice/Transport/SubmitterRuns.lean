import TwEinvoice.Transport.Submitter

/-!
# What a submission does

`NetworkRun` lists the calls that one network phase may make, with their replies and its result,
and `SubmitRun` those of a whole `submit_pack_artifact`. The programs do nothing else.
-/

namespace TwEinvoice.Transport

open Rust Effects

variable {backends : Backends} {crate : ZipCrate}

/-- What `submit_pack_artifact` computes before its first call. -/
def PackArtifactSubmission.localChecks (crate : ZipCrate) (backends : Backends)
    (request : PackArtifactSubmission) :
    Except (PackArtifactSubmitError crate backends) PreparedUploadObject := do
  checkPackCount request.filename request.metadata.message.quantity
  (prepareUploadObject crate request.filename.render request.filename.remoteFilename
    request.uploadBytes request.zipMode).mapError fun error => .native (.prepare error)

/-- The calls of `uploadAndNotify` with their replies, and its result. -/
inductive NetworkRun (metadata : NativeSubmissionMetadata) (object : PreparedUploadObject) :
    List (SubmissionEvent backends) → NativeResult crate backends → Prop where
  | uploadFailed (source) :
      NetworkRun metadata object
        [⟨.upload object.remoteFilename object.uploadedBytes, .error source⟩]
        (.error (.upload object.remoteFilename source))
  | notifyFailed (source) :
      NetworkRun metadata object
        [⟨.upload object.remoteFilename object.uploadedBytes, .ok ()⟩,
          ⟨.notify (uploadNotification metadata object), .error source⟩]
        (.error (.notify object.remoteFilename source))
  | gatewayRejected (status : GatewayProcessStatus) (hstatus : status.isAccepted = false) :
      NetworkRun metadata object
        [⟨.upload object.remoteFilename object.uploadedBytes, .ok ()⟩,
          ⟨.notify (uploadNotification metadata object), .ok status⟩]
        (.error (.gatewayRejected object.remoteFilename status))
  | accepted (status : GatewayProcessStatus) (hstatus : status.isAccepted = true) :
      NetworkRun metadata object
        [⟨.upload object.remoteFilename object.uploadedBytes, .ok ()⟩,
          ⟨.notify (uploadNotification metadata object), .ok status⟩]
        (.ok ⟨object.remoteFilename, status⟩)

/-- The calls of `submit_pack_artifact` with their replies, and its result. -/
inductive SubmitRun (request : PackArtifactSubmission) :
    List (SubmissionEvent backends) → SubmitResult crate backends → Prop where
  | refused {error} (h : request.localChecks crate backends = .error error) :
      SubmitRun request [] (.error error)
  | sent {object events} {result : NativeResult crate backends}
      (h : request.localChecks crate backends = .ok object)
      (hrun : NetworkRun request.metadata object events result) :
      SubmitRun request events (result.mapError .native)

/-- The calls recorded by every run of the network phase. -/
theorem must_uploadAndNotify (metadata : NativeSubmissionMetadata) (object : PreparedUploadObject)
    (trace : List (SubmissionEvent backends)) :
    Must (recording _) (fun _ _ => True) (uploadAndNotify metadata object).run
      (fun (result : NativeResult crate backends) final => ∃ events, final = trace ++ events ∧
        NetworkRun metadata object events result) trace := by
  rw [uploadAndNotify, must_run_bind, must_run_adapt, ExceptT.run_mk, must_perform_recording]
  refine ⟨trivial, fun reply => ?_⟩
  cases reply with
  -- A failed upload ends the submission, and nothing is announced.
  | error source => exact ⟨_, rfl, .uploadFailed source⟩
  | ok =>
      show Must _ _ (ExceptT.run (_ >>= _)) _ _
      rw [must_run_bind, must_run_adapt, ExceptT.run_mk, must_perform_recording]
      refine ⟨trivial, fun reply => ?_⟩
      rw [List.append_assoc]
      cases reply with
      | error source => exact ⟨_, rfl, .notifyFailed source⟩
      | ok status =>
          show Must _ _ (ExceptT.run (if !status.isAccepted then _ else _)) _ _
          cases hstatus : status.isAccepted with
          | false => exact ⟨_, rfl, .gatewayRejected status hstatus⟩
          | true => exact ⟨_, rfl, .accepted status hstatus⟩

/-- The local checks end with the object that is uploaded. -/
theorem local_checks_eq_ok {request : PackArtifactSubmission} {object : PreparedUploadObject} :
    request.localChecks crate backends = .ok object ↔
      (checkPackCount request.filename request.metadata.message.quantity :
        Except (PackArtifactSubmitError crate backends) Unit) = .ok () ∧
      prepareUploadObject crate request.filename.render request.filename.remoteFilename
        request.uploadBytes request.zipMode = .ok object := by
  refine ⟨fun h => ?_, fun h => ?_⟩
  · obtain ⟨_, hcount, h⟩ := ok_of_bind_ok h
    exact ⟨hcount, map_error_eq_ok.1 h⟩
  · rw [PackArtifactSubmission.localChecks, h.1, h.2]
    rfl

/-- A submission computes its local checks and goes on with the network phase. -/
theorem submit_pack_artifact_eq (request : PackArtifactSubmission) :
    submitPackArtifact crate request =
      ExceptT.mk (pure (request.localChecks crate backends)) >>= fun object =>
        ExceptT.adapt .native (uploadAndNotify request.metadata object) := by
  rw [submitPackArtifact, PackArtifactSubmission.localChecks, submit]
  cases (checkPackCount request.filename request.metadata.message.quantity :
      Except (PackArtifactSubmitError crate backends) Unit) with
  | error failure => rfl
  | ok =>
      cases prepareUploadObject crate request.filename.render request.filename.remoteFilename
          request.uploadBytes request.zipMode with
      | error failure => rfl
      | ok object => rfl

/-- The calls recorded by every run of a submission. -/
theorem must_submitPackArtifact (request : PackArtifactSubmission)
    (trace : List (SubmissionEvent backends)) :
    Must (recording _) (fun _ _ => True) (submitPackArtifact crate request).run
      (fun (result : SubmitResult crate backends) final => ∃ events, final = trace ++ events ∧
        SubmitRun request events result) trace := by
  rw [submit_pack_artifact_eq, must_run_bind, ExceptT.run_mk, must_pure]
  cases hlocal : request.localChecks crate backends with
  | error failure => exact ⟨[], (List.append_nil trace).symm, .refused hlocal⟩
  | ok object =>
      rw [onResult_ok, must_run_adapt]
      refine (must_uploadAndNotify request.metadata object trace).mono ?_
      intro result final hresult
      obtain ⟨events, hfinal, hrun⟩ := hresult
      exact ⟨events, hfinal, .sent hlocal hrun⟩

/-- Every network phase that is listed is one of the program. -/
theorem NetworkRun.runs {metadata : NativeSubmissionMetadata} {object : PreparedUploadObject}
    {events : List (SubmissionEvent backends)} {result : NativeResult crate backends}
    (h : NetworkRun metadata object events result) (trace : List (SubmissionEvent backends)) :
    Runs (recording _) (uploadAndNotify metadata object).run trace result (trace ++ events) := by
  cases h with
  | uploadFailed source => exact .recorded (Except.error source) (.pure _ _)
  | notifyFailed source =>
      rw [List.append_cons]
      refine .recorded (Except.ok ()) (.recorded (Except.error source) ?_)
      exact .pure _ _
  | gatewayRejected status hstatus | accepted status hstatus =>
      rw [List.append_cons]
      refine .recorded (Except.ok ()) (.recorded (Except.ok status) ?_)
      show Runs _ (ExceptT.run (if !status.isAccepted then _ else _)) _ _ _
      rw [hstatus]
      exact .pure _ _

/-- `SubmitRun` lists exactly the runs of `submit_pack_artifact`. -/
theorem submit_pack_artifact_runs_iff {request : PackArtifactSubmission}
    {trace final : List (SubmissionEvent backends)} {result : SubmitResult crate backends} :
    Runs (recording _) (submitPackArtifact crate request).run trace result final ↔
      ∃ events, final = trace ++ events ∧ SubmitRun request events result := by
  refine ⟨(must_submitPackArtifact request trace).runs, ?_⟩
  rintro ⟨events, rfl, hrun⟩
  rw [submit_pack_artifact_eq]
  cases hrun with
  | refused hlocal =>
      rw [hlocal, List.append_nil]
      exact .pure _ _
  | sent hlocal hrun =>
      rw [hlocal]
      exact (hrun.runs trace).adapt

/-! ## The order of the calls -/

/-- A call of `sign_attached`. -/
def isSign : SubmissionEvent backends → Bool
  | ⟨.signAttached _, _⟩ => true
  | _ => false

/-- A call of the uploader. -/
def isUpload : SubmissionEvent backends → Bool
  | ⟨.upload .., _⟩ => true
  | _ => false

/-- A call of the notifier. -/
def isNotify : SubmissionEvent backends → Bool
  | ⟨.notify _, _⟩ => true
  | _ => false

/-- The object that an error names. -/
def NativeSubmitError.remoteFilename : NativeSubmitError crate backends → Option String
  | .prepare _ => none
  | .upload name _ | .notify name _ | .gatewayRejected name _ => some name

/-- The object that an error names. -/
def PackArtifactSubmitError.remoteFilename : PackArtifactSubmitError crate backends → Option String
  | .native error => error.remoteFilename
  | _ => none

section NetworkRun

variable {metadata : NativeSubmissionMetadata} {object : PreparedUploadObject}
  {events : List (SubmissionEvent backends)} {result : NativeResult crate backends}

/-- Nothing is signed on the way to the network. -/
theorem NetworkRun.no_sign (h : NetworkRun metadata object events result) :
    ∀ event ∈ events, isSign event = false := by
  cases h <;> simp [isSign]

/-- There is at most one upload. -/
theorem NetworkRun.upload_once (h : NetworkRun metadata object events result) :
    events.countP isUpload ≤ 1 := by
  cases h <;> exact Nat.le_refl 1

/-- The object is uploaded, and nothing else is. -/
theorem NetworkRun.mem_upload (h : NetworkRun metadata object events result) {name bytes reply}
    (hmem : ⟨.upload name bytes, reply⟩ ∈ events) :
    name = object.remoteFilename ∧ bytes = object.uploadedBytes := by
  cases h <;> simp at hmem <;> exact hmem.1

/-- An element of a pair that is not the first is the second. -/
theorem eq_second {τ : Type} {first second element : τ} {before after : List τ}
    (h : [first, second] = before ++ element :: after) (hne : element ≠ first) :
    before = [first] ∧ element = second ∧ after = [] := by
  simp only [List.cons_eq_append_iff, List.cons.injEq, List.nil_eq_append_iff] at h
  rcases h with ⟨_, hfirst, _⟩ | ⟨more, rfl, ⟨rfl, hsecond, hafter⟩ | ⟨_, _, _, h⟩⟩
  · exact (hne hfirst).elim
  · exact ⟨rfl, hsecond, hafter⟩
  · cases h

/-- The notifier is called for the object, directly after it has been uploaded, and last. -/
theorem NetworkRun.notify (h : NetworkRun metadata object events result)
    {before notification reply after}
    (hevents : events = before ++ ⟨.notify notification, reply⟩ :: after) :
    before = [⟨.upload object.remoteFilename object.uploadedBytes, .ok ()⟩] ∧
      notification = uploadNotification metadata object ∧ after = [] := by
  cases h with
  | uploadFailed source => simp [List.cons_eq_append_iff] at hevents
  | notifyFailed | gatewayRejected | accepted =>
      obtain ⟨rfl, hnotify, hafter⟩ := eq_second hevents nofun
      cases hnotify
      exact ⟨rfl, rfl, hafter⟩

/-- An error names the object, unless the object could not be prepared. -/
theorem NetworkRun.error_named (h : NetworkRun metadata object events result)
    {error : NativeSubmitError crate backends} (herror : result = .error error) :
    error.remoteFilename = some object.remoteFilename := by
  cases h <;> cases herror <;> rfl

/-- A receipt means an upload and a notification that the gateway has accepted. -/
theorem NetworkRun.accepted_iff (h : NetworkRun metadata object events result) :
    (∃ receipt, result = .ok receipt) ↔
      ∃ name bytes notification status, ⟨.upload name bytes, .ok ()⟩ ∈ events ∧
        ⟨.notify notification, .ok status⟩ ∈ events ∧ status.statusCode = 0 := by
  cases h with
  | uploadFailed source => simp
  | notifyFailed source => simp
  | gatewayRejected status hstatus | accepted status hstatus =>
      simpa [GatewayProcessStatus.isAccepted] using hstatus

end NetworkRun

end TwEinvoice.Transport
