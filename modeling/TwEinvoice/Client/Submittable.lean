import TwEinvoice.Client.Agreement

/-!
# When a prepared submission is refused

The checks of `prepare_submission` and of `submit` overlap only in part. `submit_refused_iff` says
what `submit` may still refuse without calling anybody: a filename with a path separator or a
NUL, a signed file above 20 MiB, or a failure of the ZIP crate. The counts never disagree.
-/

namespace TwEinvoice.Client

open Rust Effects Envelope Signing Transport

variable {crate : ZipCrate} {backends : Backends}

/-! ## Names -/

/-- No character of the name separates paths or ends a C string. -/
def SafeCharacters (name : String) : Prop :=
  '/' ∉ name.toList ∧ '\\' ∉ name.toList ∧ '\x00' ∉ name.toList

/-- A name with a character that is not a dot is only refused for its characters. -/
theorem validate_basename_iff {field name : String} {character : Char}
    (hmem : character ∈ name.toList) (hdot : character ≠ '.') :
    (validateBasename field name : Except (PrepareUploadError crate) Unit) = .ok () ↔
      SafeCharacters name := by
  have hempty : name ≠ "" := by
    rintro rfl
    cases hmem
  have hcurrent : name ≠ "." := by
    rintro rfl
    exact hdot (by simpa using hmem)
  have hparent : name ≠ ".." := by
    rintro rfl
    exact hdot (by simpa using hmem)
  unfold validateBasename SafeCharacters
  split_ifs with hrefused
  · rcases hrefused with h | h | h | h | h | h <;> simp_all
  · simp only [not_or] at hrefused
    exact iff_of_true rfl hrefused.2.2.2

theorem dash_mem_remoteFilename (filename : TurnkeyPackFilename) :
    '-' ∈ filename.remoteFilename.toList := by
  simp [TurnkeyPackFilename.remoteFilename, MessageCommonName.render]

theorem underscore_mem_render (filename : TurnkeyPackFilename) :
    '_' ∈ filename.render.toList := by
  simp [TurnkeyPackFilename.render]

/-- The local filename contains the remote one. -/
theorem SafeCharacters.remote {filename : TurnkeyPackFilename}
    (h : SafeCharacters filename.render) : SafeCharacters filename.remoteFilename := by
  have hsub : ∀ c, c ∈ filename.remoteFilename.toList → c ∈ filename.render.toList := by
    intro c hc
    simp only [TurnkeyPackFilename.render, TurnkeyPackFilename.remoteFilename,
      String.toList_append, List.mem_append] at hc ⊢
    exact .inl (.inl (.inr hc))
  exact ⟨fun hc => h.1 (hsub _ hc), fun hc => h.2.1 (hsub _ hc), fun hc => h.2.2 (hsub _ hc)⟩

/-! ## The local checks -/

/-- What a prepared submission needs to get past the local checks of `submit`. -/
structure Sendable (crate : ZipCrate) (prepared : PreparedSubmission) : Prop where
  name : SafeCharacters prepared.filename.render
  size : prepared.artifact.uploadBytes.length ≤ maxSignedSourceBytes
  packaged : ∃ uploaded, packageBytes crate prepared.filename.render
    prepared.artifact.uploadBytes prepared.zipMode = .ok uploaded

/-- An object is produced exactly for what is sendable. -/
theorem prepare_upload_object_iff {prepared : PreparedSubmission} :
    (∃ object, prepareUploadObject crate prepared.filename.render
      prepared.filename.remoteFilename prepared.artifact.uploadBytes prepared.zipMode =
        .ok object) ↔ Sendable crate prepared := by
  constructor
  · rintro ⟨object, h⟩
    obtain ⟨_, _, _, hpackaged⟩ := prepare_upload_object_ok h
    obtain ⟨_, hlocal, h⟩ := ok_of_bind_ok h
    obtain ⟨_, _, h⟩ := ok_of_bind_ok h
    obtain ⟨_, hlimit, _⟩ := ok_of_bind_ok h
    exact ⟨(validate_basename_iff (underscore_mem_render _) (by decide)).1 hlocal,
      ensure_eq_ok.1 hlimit, _, hpackaged⟩
  · rintro ⟨hname, hsize, uploaded, hpackaged⟩
    have hlocal : (validateBasename "signed local filename" prepared.filename.render :
        Except (PrepareUploadError crate) Unit) = .ok () :=
      (validate_basename_iff (underscore_mem_render _) (by decide)).2 hname
    have hremote : (validateBasename "remote filename" prepared.filename.remoteFilename :
        Except (PrepareUploadError crate) Unit) = .ok () :=
      (validate_basename_iff (dash_mem_remoteFilename _) (by decide)).2 hname.remote
    have hlimit : (ensure (prepared.artifact.uploadBytes.length ≤ maxSignedSourceBytes)
        (.sourceTooLarge prepared.artifact.uploadBytes.length maxSignedSourceBytes) :
        Except (PrepareUploadError crate) Unit) = .ok () := ensure_eq_ok.2 hsize
    have hlength : u64TryFrom prepared.artifact.uploadBytes.length =
        some (UInt64.ofNat prepared.artifact.uploadBytes.length) := by
      unfold maxSignedSourceBytes at hsize
      exact if_pos (by omega)
    unfold prepareUploadObject
    rw [hlocal, hremote, hlimit, hlength, hpackaged]
    exact ⟨_, rfl⟩

/-- The pack count of a consistent plan is the quantity. -/
theorem check_pack_count_ok {plan : SubmissionPlan} {quantity : UInt32}
    (hplan : validatePlan plan = .ok ()) (hquantity : quantity.toNat = plan.envelope.count) :
    (checkPackCount plan.filename quantity :
      Except (PackArtifactSubmitError crate backends) Unit) = .ok () := by
  have hcount := (validate_plan_ok hplan).1
  have hpositive : 0 < plan.envelope.count := plan.envelope.payloads_pos
  have hconverted : u32TryFrom plan.filename.packCount = some quantity :=
    u32_try_from_eq_some.2 ⟨by omega, by omega⟩
  have hlt : 0 < quantity := by
    rw [UInt32.lt_iff_toNat_lt, UInt32.toNat_zero]
    omega
  unfold checkPackCount
  rw [hconverted, Option.filter_some, if_pos (by simpa using hlt)]
  exact ensure_eq_ok.2 rfl

/-- What a submit of a prepared submission returns without calling anybody, and when. -/
structure Attempt.RefusedUnless (prepared : PreparedSubmission)
    (attempt : Attempt crate backends) : Prop where
  /-- The counts agree. -/
  pack_count : ∀ count, attempt.result ≠ .error (.invalidPackCount count)
  quantity : ∀ filenameCount notificationQuantity,
    attempt.result ≠ .error (.quantityMismatch filenameCount notificationQuantity)
  /-- The object cannot be prepared exactly when the submission is not sendable. -/
  refused_iff : (∃ error, attempt.result = .error (.native (.prepare error))) ↔
    ¬ Sendable crate prepared
  /-- A refused submit calls nobody. -/
  silent : ¬ Sendable crate prepared → attempt.events = []
  /-- Every other submit calls the uploader. -/
  uploads : Sendable crate prepared →
    ∃ name bytes reply, ⟨.upload name bytes, reply⟩ ∈ attempt.events

/-- A network phase calls the uploader and does not return an error of the preparation. -/
theorem network_run_sent {metadata : NativeSubmissionMetadata} {object : PreparedUploadObject}
    {events : List (SubmissionEvent backends)} {result : NativeResult crate backends}
    (h : NetworkRun metadata object events result) :
    (∃ name bytes reply, ⟨.upload name bytes, reply⟩ ∈ events) ∧
      ∀ error, result ≠ .error (.prepare error) := by
  cases h <;> exact ⟨⟨_, _, _, List.mem_cons_self⟩, nofun⟩

/-- The count checks pass for everything that has been prepared. -/
theorem PrepareRun.pack_count_ok {plan : SubmissionPlan} {events : List (SubmissionEvent backends)}
    {prepared : PreparedSubmission} (h : PrepareRun plan events (.ok prepared)) :
    (checkPackCount prepared.filename prepared.metadata.message.quantity :
      Except (PackArtifactSubmitError crate backends) Unit) = .ok () := by
  cases h with
  | signed algorithm cms hlocal =>
      obtain ⟨hplan, hquantity, _⟩ := local_preparation_ok hlocal
      exact check_pack_count_ok hplan hquantity

/-- After the count checks, only the object can be refused. -/
theorem local_checks_of_count {prepared : PreparedSubmission}
    (hcount : (checkPackCount prepared.filename prepared.metadata.message.quantity :
      Except (PackArtifactSubmitError crate backends) Unit) = .ok ()) :
    prepared.request.localChecks crate backends =
      (prepareUploadObject crate prepared.filename.render prepared.filename.remoteFilename
        prepared.artifact.uploadBytes prepared.zipMode).mapError
          fun error => .native (.prepare error) := by
  show (checkPackCount prepared.filename prepared.metadata.message.quantity >>= fun _ => _) = _
  rw [hcount]
  rfl

/-- After the count checks, a submit is refused exactly when no object can be prepared. -/
theorem refused_unless_of_run {prepared : PreparedSubmission} {attempt : Attempt crate backends}
    (hcount : (checkPackCount prepared.filename prepared.metadata.message.quantity :
      Except (PackArtifactSubmitError crate backends) Unit) = .ok ())
    (h : SubmitRun prepared.request attempt.events attempt.result) :
    attempt.RefusedUnless prepared := by
  obtain ⟨events, result⟩ := attempt
  have hobject := @prepare_upload_object_iff crate prepared
  cases h with
  | @refused failure hchecks =>
      -- The count checks pass, so the object could not be prepared.
      have hprepare : ∃ error, failure = .native (.prepare error) ∧
          prepareUploadObject crate prepared.filename.render prepared.filename.remoteFilename
            prepared.artifact.uploadBytes prepared.zipMode = .error error := by
        rw [local_checks_of_count hcount] at hchecks
        cases hresult : prepareUploadObject crate prepared.filename.render
            prepared.filename.remoteFilename prepared.artifact.uploadBytes prepared.zipMode with
        | ok object =>
            rw [hresult] at hchecks
            cases hchecks
        | error error =>
            rw [hresult] at hchecks
            cases hchecks
            exact ⟨error, rfl, rfl⟩
      obtain ⟨error, rfl, hfailed⟩ := hprepare
      have hnot : ¬ Sendable crate prepared := by
        rw [← hobject]
        rintro ⟨object, hok⟩
        cases hfailed.symm.trans hok
      exact ⟨nofun, nofun, iff_of_true ⟨error, rfl⟩ hnot, fun _ => rfl,
        fun hsendable => absurd hsendable hnot⟩
  | @sent object events result hchecks hrun =>
      have hsendable := hobject.1 ⟨object, (local_checks_eq_ok.1 hchecks).2⟩
      obtain ⟨hupload, hresult⟩ := network_run_sent hrun
      refine ⟨?_, ?_, iff_of_false ?_ (not_not.2 hsendable),
        fun hnot => absurd hsendable hnot, fun _ => hupload⟩
      · cases result <;> exact nofun
      · cases result <;> exact nofun
      · rintro ⟨error, herror⟩
        cases result with
        | ok receipt => cases herror
        | error failure =>
            cases herror
            exact hresult error rfl

/-- Every submit of a prepared submission passes the count checks, and is refused exactly when the
submission is not sendable. -/
theorem submit_refused_iff {plan : SubmissionPlan} {prepared : PreparedSubmission}
    {preparation trace : List (SubmissionEvent backends)} {attempts : List (Attempt crate backends)}
    (h : Session plan preparation (.ok prepared) attempts trace) {attempt : Attempt crate backends}
    (hattempt : attempt ∈ attempts) : attempt.RefusedUnless prepared := by
  obtain ⟨hprepare, _, hattempts⟩ := h.runs
  obtain ⟨_, hok, hsubmit⟩ := hattempts attempt hattempt
  cases hok
  exact refused_unless_of_run hprepare.pack_count_ok hsubmit

theorem sample_submit_refused_iff : sampleAccepted.RefusedUnless samplePrepared :=
  submit_refused_iff sample_session (List.mem_cons_of_mem _ (List.mem_singleton_self _))

/-! ## A prepared submission that is refused -/

/-- A filename whose source name is a path. -/
def pathFilename : TurnkeyPackFilename := { sampleFilename with sourceName := "out/source.xml" }

def pathPlan : SubmissionPlan := { samplePlan with filename := pathFilename }

def pathPrepared : PreparedSubmission := { samplePrepared with filename := pathFilename }

/-- A submit that calls nobody. -/
def pathRefused : Attempt storedCrate sampleBackends where
  events := []
  result := .error (.native (.prepare (.invalidFilename "signed local filename")))

/-- A plan whose source name is a path is prepared and signed, and every submit is refused. -/
theorem path_prepared_and_refused :
    Session pathPlan samplePreparation (.ok pathPrepared) [pathRefused] samplePreparation ∧
      pathRefused.result = .error (.native (.prepare (.invalidFilename "signed local filename"))) :=
    by
  have hlocal : pathPlan.localPreparation sampleBackends = .ok (1, sampleContent) :=
    sample_local_preparation
  have hchecks : pathPrepared.request.localChecks storedCrate sampleBackends =
      .error (.native (.prepare (.invalidFilename "signed local filename"))) := by
    have hslash : '/' ∈ pathFilename.render.toList := by
      simp [TurnkeyPackFilename.render, pathFilename]
    have hname : (validateBasename "signed local filename" pathFilename.render :
        Except (PrepareUploadError storedCrate) Unit) =
          .error (.invalidFilename "signed local filename") :=
      if_pos (.inr (.inr (.inr (.inl hslash))))
    have hobject : prepareUploadObject storedCrate pathFilename.render
        pathFilename.remoteFilename samplePrepared.artifact.uploadBytes .zip =
          .error (.invalidFilename "signed local filename") := by
      unfold prepareUploadObject
      rw [hname]
      rfl
    exact (local_checks_of_count rfl).trans (congrArg _ hobject)
  have hrefused : ∀ attempt ∈ [pathRefused],
      SubmitRun pathPrepared.request attempt.events attempt.result := by
    intro attempt hattempt
    rw [List.mem_singleton.1 hattempt]
    exact .refused hchecks
  refine ⟨.prepared ?_ (Submits.of_runs hrefused samplePreparation), rfl⟩
  exact prepare_submission_runs_iff.2 ⟨_, rfl, .signed _ sampleCms hlocal⟩

end TwEinvoice.Client
