import TwEinvoice.Client.Submission
import TwEinvoice.Transport.SubmitterRuns

/-!
# Sessions

A session is one preparation followed by any number of submits of what was prepared. The signer,
the uploader and the notifier may reply anything. `session_ordered` says in which order
they are called and how the results depend on the replies.
-/

namespace TwEinvoice.Client

open Rust Effects Envelope Signing Transport

variable {crate : ZipCrate} {backends : Backends}

/-! ## The calls of a session -/

/-- One submit: its calls with their replies, and its result. -/
structure Attempt (crate : ZipCrate) (backends : Backends) where
  events : List (SubmissionEvent backends)
  result : SubmitResult crate backends

/-- Submits of the same prepared submission, one after another, with the trace before and
after. -/
inductive Submits (prepared : PreparedSubmission) :
    List (SubmissionEvent backends) → List (Attempt crate backends) →
      List (SubmissionEvent backends) → Prop where
  | none (trace) : Submits prepared trace [] trace
  | more {trace final attempt rest} :
      Runs (recording _) (prepared.submit crate).run trace attempt.result
        (trace ++ attempt.events) →
      Submits prepared (trace ++ attempt.events) rest final →
      Submits prepared trace (attempt :: rest) final

/-- A preparation with its calls and its result, the submits that follow it, and the calls of
all of them. -/
inductive Session (plan : SubmissionPlan) :
    List (SubmissionEvent backends) → PrepareResult backends → List (Attempt crate backends) →
      List (SubmissionEvent backends) → Prop where
  | failed {preparation error} :
      Runs (recording _) (prepareSubmission plan).run [] (.error error) preparation →
      Session plan preparation (.error error) [] preparation
  | prepared {preparation prepared attempts trace} :
      Runs (recording _) (prepareSubmission plan).run [] (.ok prepared) preparation →
      Submits prepared preparation attempts trace →
      Session plan preparation (.ok prepared) attempts trace

/-- The calls of the submits follow those that were made before, and each submit is one run. -/
theorem Submits.runs {prepared : PreparedSubmission} {trace final : List (SubmissionEvent backends)}
    {attempts : List (Attempt crate backends)} (h : Submits prepared trace attempts final) :
    final = trace ++ attempts.flatMap Attempt.events ∧
      ∀ attempt ∈ attempts, SubmitRun prepared.request attempt.events attempt.result := by
  induction h with
  | none trace => exact ⟨(List.append_nil trace).symm, by simp⟩
  | @more trace final attempt rest hrun _ ih =>
      obtain ⟨hfinal, hrest⟩ := ih
      obtain ⟨events, hevents, hsubmit⟩ := submit_pack_artifact_runs_iff.1 hrun
      obtain rfl := List.append_cancel_left hevents
      refine ⟨by rw [hfinal, List.flatMap_cons, List.append_assoc], ?_⟩
      intro other hother
      rcases List.mem_cons.1 hother with rfl | hother
      · exact hsubmit
      · exact hrest other hother

/-- Submits that are listed one by one can follow any trace. -/
theorem Submits.of_runs {prepared : PreparedSubmission} {attempts : List (Attempt crate backends)}
    (h : ∀ attempt ∈ attempts, SubmitRun prepared.request attempt.events attempt.result)
    (trace : List (SubmissionEvent backends)) :
    Submits prepared trace attempts (trace ++ attempts.flatMap Attempt.events) := by
  induction attempts generalizing trace with
  | nil =>
      rw [List.flatMap_nil, List.append_nil]
      exact .none trace
  | cons attempt attempts ih =>
      rw [List.flatMap_cons, ← List.append_assoc]
      refine .more (submit_pack_artifact_runs_iff.2 ⟨_, rfl, h attempt (by simp)⟩) (ih ?_ _)
      intro other hother
      exact h other (List.mem_cons_of_mem _ hother)

/-- A session is one run of the preparation and one run for each submit. -/
theorem Session.runs {plan : SubmissionPlan} {preparation trace : List (SubmissionEvent backends)}
    {outcome : PrepareResult backends} {attempts : List (Attempt crate backends)}
    (h : Session plan preparation outcome attempts trace) :
    PrepareRun plan preparation outcome ∧
      trace = preparation ++ attempts.flatMap Attempt.events ∧
      ∀ attempt ∈ attempts, ∃ prepared, outcome = .ok prepared ∧
        SubmitRun prepared.request attempt.events attempt.result := by
  cases h with
  | failed hrun =>
      obtain ⟨events, rfl, hprepare⟩ := prepare_submission_runs_iff.1 hrun
      exact ⟨hprepare, by simp, by simp⟩
  | prepared hrun hsubmits =>
      obtain ⟨events, rfl, hprepare⟩ := prepare_submission_runs_iff.1 hrun
      obtain ⟨htrace, hattempts⟩ := hsubmits.runs
      exact ⟨hprepare, htrace, fun attempt hattempt => ⟨_, rfl, hattempts attempt hattempt⟩⟩

/-! ## Ordering -/

/-- What one submit of a prepared submission may do. -/
structure Attempt.Ordered (prepared : PreparedSubmission) (attempt : Attempt crate backends) :
    Prop where
  /-- Nothing is signed. -/
  no_sign : ∀ event ∈ attempt.events, isSign event = false
  /-- At most one object is uploaded. -/
  upload_once : attempt.events.countP isUpload ≤ 1
  /-- A submit that a local check refuses makes no call and returns the refusal. -/
  refused : ∀ error, prepared.request.localChecks crate backends = .error error →
    attempt.events = [] ∧ attempt.result = .error error
  /-- The call before a notification is the successful upload of the object that it names. -/
  notify_after_upload : ∀ before notification reply after,
    attempt.events = before ++ ⟨.notify notification, reply⟩ :: after →
      ∃ earlier bytes, before = earlier ++ [⟨.upload notification.filename bytes, .ok ()⟩]
  /-- The submit succeeds exactly when the upload and the notification succeed with status 0. -/
  accepted_iff : (∃ receipt, attempt.result = .ok receipt) ↔
    ∃ name bytes notification status, ⟨.upload name bytes, .ok ()⟩ ∈ attempt.events ∧
      ⟨.notify notification, .ok status⟩ ∈ attempt.events ∧ status.statusCode = 0
  /-- An error after the call of the uploader names the object of that call. -/
  error_named : ∀ name bytes reply error, ⟨.upload name bytes, reply⟩ ∈ attempt.events →
    attempt.result = .error error → error.remoteFilename = some name

/-- What a session may do. -/
structure Ordered (plan : SubmissionPlan) (preparation : List (SubmissionEvent backends))
    (outcome : PrepareResult backends) (attempts : List (Attempt crate backends))
    (trace : List (SubmissionEvent backends)) : Prop where
  trace_eq : trace = preparation ++ attempts.flatMap Attempt.events
  /-- The preparation uses no network. -/
  preparation_local : ∀ event ∈ preparation, isUpload event = false ∧ isNotify event = false
  sign_once : trace.countP isSign ≤ 1
  /-- What is signed is the serialized envelope of a consistent plan. -/
  sign_checked : ∀ content reply, ⟨.signAttached content, reply⟩ ∈ trace →
    validatePlan plan = .ok () ∧ plan.envelope.toTurnkeyXml = .ok content
  /-- A successful signature precedes every upload and every notification. -/
  signed_before : ∀ before event after, trace = before ++ event :: after →
    isUpload event || isNotify event →
      ∃ content cms, ⟨.signAttached content, .ok cms⟩ ∈ before
  /-- Every submit is one of what was prepared. -/
  attempts_ordered : ∀ attempt ∈ attempts, ∃ prepared, outcome = .ok prepared ∧
    attempt.Ordered prepared

/-- Every submit is ordered. -/
theorem Attempt.ordered {prepared : PreparedSubmission} {attempt : Attempt crate backends}
    (h : SubmitRun prepared.request attempt.events attempt.result) : attempt.Ordered prepared := by
  obtain ⟨events, result⟩ := attempt
  cases h with
  | @refused failure hlocal =>
      refine ⟨by simp, Nat.zero_le 1, fun error herror => ⟨rfl, ?_⟩, by simp, by simp, by simp⟩
      rw [hlocal] at herror
      cases herror
      rfl
  | @sent object events result hlocal hrun =>
      refine ⟨hrun.no_sign, hrun.upload_once, ?_, ?_, ?_, ?_⟩
      · intro error herror
        rw [hlocal] at herror
        cases herror
      · intro before notification reply after hevents
        obtain ⟨rfl, rfl, _⟩ := hrun.notify hevents
        exact ⟨[], object.uploadedBytes, rfl⟩
      · refine Iff.trans ?_ hrun.accepted_iff
        cases result <;> simp
      · intro name bytes reply error hupload herror
        rw [(hrun.mem_upload hupload).1]
        cases result with
        | ok receipt => cases herror
        | error failure =>
            cases herror
            exact hrun.error_named rfl

/-! ## The preparation -/

section PrepareRun

variable {plan : SubmissionPlan} {events : List (SubmissionEvent backends)}
  {result : PrepareResult backends}

/-- The preparation that passes all checks, with the quantity and the serialized envelope. -/
theorem local_preparation_ok {quantity : UInt32} {content : List UInt8}
    (h : plan.localPreparation backends = .ok (quantity, content)) :
    validatePlan plan = .ok () ∧ quantity.toNat = plan.envelope.count ∧
      plan.envelope.toTurnkeyXml = .ok content := by
  obtain ⟨_, hplan, h⟩ := ok_of_bind_ok h
  obtain ⟨count, hcount, h⟩ := ok_of_bind_ok h
  obtain ⟨bytes, hbytes, h⟩ := ok_of_bind_ok h
  cases h
  exact ⟨map_error_eq_ok.1 hplan,
    u32_try_from_usize_eq_some (ok_or_eq_ok.1 (map_error_eq_ok.1 hcount)),
    map_error_eq_ok.1 hbytes⟩

/-- A preparation neither uploads nor notifies. -/
theorem PrepareRun.local (h : PrepareRun plan events result) :
    ∀ event ∈ events, isUpload event = false ∧ isNotify event = false := by
  cases h <;> simp [isUpload, isNotify]

/-- A preparation signs at most once. -/
theorem PrepareRun.sign_once (h : PrepareRun plan events result) : events.countP isSign ≤ 1 := by
  cases h with
  | refused => exact Nat.zero_le 1
  | signingFailed | signed => exact Nat.le_refl 1

/-- What is signed is the envelope of a plan that was checked. -/
theorem PrepareRun.sign_checked (h : PrepareRun plan events result) {content reply}
    (hmem : ⟨.signAttached content, reply⟩ ∈ events) :
    validatePlan plan = .ok () ∧ plan.envelope.toTurnkeyXml = .ok content := by
  cases h with
  | refused => cases hmem
  | signingFailed algorithm source hlocal | signed algorithm cms hlocal =>
      obtain ⟨hplan, _, hcontent⟩ := local_preparation_ok hlocal
      simp at hmem
      exact ⟨hplan, hmem.1 ▸ hcontent⟩

/-- A preparation that succeeds has had its envelope signed. -/
theorem PrepareRun.signed_of_ok {prepared : PreparedSubmission}
    (h : PrepareRun plan events (.ok prepared)) :
    ∃ content cms, ⟨.signAttached content, .ok cms⟩ ∈ events := by
  cases h with
  | @signed quantity content algorithm cms => exact ⟨content, cms, by simp⟩

end PrepareRun

/-- An element that is not in the first part of a list is preceded by all of it. -/
theorem append_cons_of_not_mem {τ : Type} {first second before after : List τ} {element : τ}
    (h : first ++ second = before ++ element :: after) (hmem : element ∉ first) :
    ∃ earlier, before = first ++ earlier ∧ element ∈ second := by
  rcases List.append_eq_append_iff.1 h with ⟨earlier, hbefore, rfl⟩ | ⟨rest, rfl, hrest⟩
  · exact ⟨earlier, hbefore, by simp⟩
  · cases rest with
    | nil => exact ⟨[], by simp, by rw [List.nil_append] at hrest; simp [← hrest]⟩
    | cons other rest =>
        obtain ⟨rfl, _⟩ := List.cons.inj hrest
        exact (hmem (by simp)).elim

/-- In every session, whatever the signer, the uploader and the notifier reply: the envelope of
a consistent plan is signed at most once and before any use of the network, and each submit
uploads at most one object, announces it only directly after its successful upload, succeeds
exactly when both are accepted, and names the object in every later error. -/
theorem session_ordered {plan : SubmissionPlan}
    {preparation trace : List (SubmissionEvent backends)} {outcome : PrepareResult backends}
    {attempts : List (Attempt crate backends)}
    (h : Session plan preparation outcome attempts trace) :
    Ordered plan preparation outcome attempts trace := by
  obtain ⟨hprepare, htrace, hattempts⟩ := h.runs
  have hordered : ∀ attempt ∈ attempts, ∃ prepared, outcome = .ok prepared ∧
      attempt.Ordered prepared := by
    intro attempt hattempt
    obtain ⟨prepared, houtcome, hsubmit⟩ := hattempts attempt hattempt
    exact ⟨prepared, houtcome, Attempt.ordered hsubmit⟩
  have hnosign : ∀ event ∈ attempts.flatMap Attempt.events, isSign event = false := by
    intro event hevent
    obtain ⟨attempt, hattempt, hevent⟩ := List.mem_flatMap.1 hevent
    obtain ⟨prepared, _, hattempt⟩ := hordered attempt hattempt
    exact hattempt.no_sign event hevent
  refine ⟨htrace, hprepare.local, ?_, ?_, ?_, hordered⟩
  · -- The submits sign nothing, so only the preparation counts.
    have hnone : (attempts.flatMap Attempt.events).countP isSign = 0 :=
      List.countP_eq_zero.2 fun event hevent => by simp [hnosign event hevent]
    rw [htrace, List.countP_append, hnone]
    exact hprepare.sign_once
  · intro content reply hmem
    rw [htrace] at hmem
    rcases List.mem_append.1 hmem with hmem | hmem
    · exact hprepare.sign_checked hmem
    · exact absurd (hnosign _ hmem) (by simp [isSign])
  · -- The call is not in the preparation, so the whole preparation precedes it.
    intro before event after hsplit hnetwork
    have hlater : event ∉ preparation := by
      intro hmem
      obtain ⟨hupload, hnotify⟩ := hprepare.local event hmem
      rw [hupload, hnotify] at hnetwork
      cases hnetwork
    obtain ⟨earlier, rfl, hevent⟩ := append_cons_of_not_mem (htrace.symm.trans hsplit) hlater
    obtain ⟨attempt, hattempt, _⟩ := List.mem_flatMap.1 hevent
    obtain ⟨prepared, rfl, _⟩ := hordered attempt hattempt
    obtain ⟨content, cms, hsigned⟩ := hprepare.signed_of_ok
    exact ⟨content, cms, List.mem_append_left _ hsigned⟩

/-! ## A sample session -/

def sampleBackends : Backends := ⟨Unit, Unit, Unit⟩

def samplePayload : MigPayload := ⟨intoBytes "<Invoice/>", by decide⟩

def sampleEnvelope : InvoiceEnvelope where
  routing :=
    ⟨⟨"12345678", some "Sender & Co"⟩, ⟨"FROM-VAC", some "Route <A>"⟩, ⟨"0000000000", none⟩,
      ⟨"TO-VAC", none⟩⟩
  metadata := ⟨"F0401", .v4_1⟩
  payloads := [samplePayload]
  payloads_pos := Nat.zero_lt_one
  payloads_le := by decide

def sampleFilename : TurnkeyPackFilename where
  sourceName := "source.xml"
  fromParty := "12345678"
  toParty := "0000000000"
  commonName := ⟨"4.1", "F0401", "20260825", "170000000", "550e8400-e29b-41d4-a716-446655440000"⟩
  packCount := 1

def samplePlan : SubmissionPlan :=
  ⟨sampleEnvelope, sampleFilename, .store, .zip, "C0401", ⟨"3.1.3", "0.1.0"⟩⟩

def sampleContent : List UInt8 :=
  intoBytes (appendLikeJavaReadLine (sampleEnvelope.pushHeader "") "<Invoice/>" ++
    "</InvoicePack>\n</InvoiceEnvelope>\n")

def sampleCms : CmsSignedData := ⟨[0x30, 0x80, 0, 0], by decide⟩

def samplePrepared : PreparedSubmission :=
  ⟨sampleFilename, ⟨intoBytes sampleCms.toTurnkeyArmored, sampleContent.length, .ecdsaSha256⟩, .zip,
    samplePlan.metadata 1⟩

def sampleObject : PreparedUploadObject where
  remoteFilename := sampleFilename.remoteFilename
  uploadedBytes :=
    (intoBytes sampleFilename.render).flatMap ([1, ·]) ++ [0] ++ intoBytes "MIAAAA==\n"
  notificationSize := 9
  zipMode := .zip

/-- The calls of the preparation. -/
def samplePreparation : List (SubmissionEvent sampleBackends) :=
  [⟨.signatureAlgorithm, .ecdsaSha256⟩, ⟨.signAttached sampleContent, .ok sampleCms⟩]

/-- A submit whose notification is lost. -/
def sampleLost : Attempt storedCrate sampleBackends where
  events :=
    [⟨.upload sampleObject.remoteFilename sampleObject.uploadedBytes, .ok ()⟩,
      ⟨.notify (uploadNotification samplePrepared.metadata sampleObject), .error ()⟩]
  result := .error (.native (.notify sampleObject.remoteFilename ()))

/-- A submit that the gateway accepts. -/
def sampleAccepted : Attempt storedCrate sampleBackends where
  events :=
    [⟨.upload sampleObject.remoteFilename sampleObject.uploadedBytes, .ok ()⟩,
      ⟨.notify (uploadNotification samplePrepared.metadata sampleObject), .ok ⟨0, []⟩⟩]
  result := .ok ⟨sampleObject.remoteFilename, ⟨0, []⟩⟩

def sampleAttempts : List (Attempt storedCrate sampleBackends) := [sampleLost, sampleAccepted]

theorem sample_local_preparation :
    samplePlan.localPreparation sampleBackends = .ok (1, sampleContent) := by
  have hplan : validatePlan samplePlan = .ok () := by decide
  have hcontent : samplePlan.envelope.toTurnkeyXml = .ok sampleContent :=
    to_turnkey_xml_single rfl (from_utf8_into_bytes "<Invoice/>") (by decide)
  rw [SubmissionPlan.localPreparation, hplan, hcontent]
  rfl

theorem sample_object :
    prepareUploadObject storedCrate sampleFilename.render sampleFilename.remoteFilename
      samplePrepared.artifact.uploadBytes .zip = .ok sampleObject := by
  have hobject : (prepareUploadObject storedCrate sampleFilename.render
      sampleFilename.remoteFilename samplePrepared.artifact.uploadBytes .zip).toOption =
        some sampleObject := by
    decide +kernel
  cases hresult : prepareUploadObject storedCrate sampleFilename.render
      sampleFilename.remoteFilename samplePrepared.artifact.uploadBytes .zip with
  | error failure =>
      rw [hresult] at hobject
      cases hobject
  | ok object =>
      rw [hresult] at hobject
      exact congrArg Except.ok (Option.some.inj hobject)

theorem sample_local_checks :
    samplePrepared.request.localChecks storedCrate sampleBackends = .ok sampleObject :=
  local_checks_eq_ok.2 ⟨rfl, sample_object⟩

/-- The sample prepares one submission and submits it. -/
theorem sample_session :
    Session samplePlan samplePreparation (.ok samplePrepared) sampleAttempts
      (samplePreparation ++ sampleAttempts.flatMap Attempt.events) := by
  have hrun : ∀ attempt ∈ sampleAttempts,
      SubmitRun samplePrepared.request attempt.events attempt.result := by
    intro attempt hattempt
    simp only [sampleAttempts, List.mem_cons, List.not_mem_nil, or_false] at hattempt
    rcases hattempt with rfl | rfl
    · exact .sent sample_local_checks (.notifyFailed ())
    · exact .sent sample_local_checks (.accepted ⟨0, []⟩ rfl)
  refine .prepared ?_ (Submits.of_runs hrun samplePreparation)
  exact prepare_submission_runs_iff.2 ⟨_, rfl, .signed _ sampleCms sample_local_preparation⟩

theorem sample_session_ordered :
    Ordered samplePlan samplePreparation (.ok samplePrepared) sampleAttempts
      (samplePreparation ++ sampleAttempts.flatMap Attempt.events) :=
  session_ordered sample_session

end TwEinvoice.Client
