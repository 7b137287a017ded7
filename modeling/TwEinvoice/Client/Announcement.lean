import TwEinvoice.Client.Session
import TwEinvoice.Transport.Gateway

/-!
# What is uploaded can be announced

The gateway takes 32-bit integers, and the conversion is checked only after the upload.
`uploaded_in_range` shows that it cannot fail then: the bounds are those of the envelope and of
the signed file, which are checked before.
-/

namespace TwEinvoice.Client

open Rust Effects Envelope Signing Transport

variable {crate : ZipCrate} {backends : Backends}

/-- An object is produced only for a signed file of at most 20 MiB. -/
theorem prepare_upload_object_size {signedLocalFilename remoteFilename : String}
    {signedBytes : List UInt8} {zipMode : ZipMode} {object : PreparedUploadObject}
    (h : prepareUploadObject crate signedLocalFilename remoteFilename signedBytes zipMode =
      .ok object) : object.notificationSize.toNat ≤ maxSignedSourceBytes := by
  obtain ⟨_, _, hsize, _⟩ := prepare_upload_object_ok h
  obtain ⟨_, _, h⟩ := ok_of_bind_ok h
  obtain ⟨_, _, h⟩ := ok_of_bind_ok h
  obtain ⟨_, hlimit, _⟩ := ok_of_bind_ok h
  rw [hsize]
  exact ensure_eq_ok.1 hlimit

/-- The notification of an object made from a prepared plan. -/
theorem upload_notification_in_range {plan : SubmissionPlan} {quantity : UInt32}
    {object : PreparedUploadObject} (hquantity : quantity.toNat = plan.envelope.count)
    (hsize : object.notificationSize.toNat ≤ maxSignedSourceBytes) :
    (uploadNotification (plan.metadata quantity) object).InRange where
  quantity_pos := by
    show 1 ≤ quantity.toNat
    rw [hquantity]
    exact plan.envelope.payloads_pos
  quantity_le := by
    show quantity.toNat ≤ 1000
    rw [hquantity]
    exact plan.envelope.payloads_le
  size_le := hsize
  retry_eq := rfl

/-- In every session, whatever the signer returns: once a submit has called the uploader, every
notification of that submit is in range, so that encoding it never fails for an integer. -/
theorem uploaded_in_range {plan : SubmissionPlan}
    {preparation trace : List (SubmissionEvent backends)} {outcome : PrepareResult backends}
    {attempts : List (Attempt crate backends)}
    (h : Session plan preparation outcome attempts trace) {attempt : Attempt crate backends}
    (hattempt : attempt ∈ attempts) {name : String} {bytes : List UInt8}
    {reply : Except backends.UploadError Unit}
    (hupload : ⟨.upload name bytes, reply⟩ ∈ attempt.events) :
    ∃ prepared object notification, outcome = .ok prepared ∧
      prepared.request.localChecks crate backends = .ok object ∧
      notification = uploadNotification prepared.metadata object ∧
      (∀ announced reply, ⟨.notify announced, reply⟩ ∈ attempt.events →
        announced = notification) ∧
      notification.InRange ∧
      ∀ json credentials field value,
        notification.toPfs001Json json credentials ≠ .error (.integerOutOfRange field value) := by
  obtain ⟨hprepare, _, hattempts⟩ := h.runs
  obtain ⟨prepared, rfl, hsubmit⟩ := hattempts attempt hattempt
  obtain ⟨events, result⟩ := attempt
  cases hprepare with
  | @signed quantity content algorithm cms hlocal =>
      obtain ⟨_, hquantity, _⟩ := local_preparation_ok hlocal
      cases hsubmit with
      | refused => cases hupload
      | @sent object events result hchecks hrun =>
          have hsize := prepare_upload_object_size (local_checks_eq_ok.1 hchecks).2
          have hrange := upload_notification_in_range hquantity hsize
          refine ⟨_, object, _, rfl, hchecks, rfl, ?_, hrange, hrange.encodes⟩
          intro announced reply hnotify
          obtain ⟨before, after, hevents⟩ := List.append_of_mem hnotify
          exact (hrun.notify hevents).2.1

theorem sample_uploaded_in_range :
    ∃ prepared object notification,
      (.ok samplePrepared : PrepareResult sampleBackends) = .ok prepared ∧
      prepared.request.localChecks storedCrate sampleBackends = .ok object ∧
      notification = uploadNotification prepared.metadata object ∧
      (∀ announced reply, ⟨.notify announced, reply⟩ ∈ sampleAccepted.events →
        announced = notification) ∧
      notification.InRange ∧
      ∀ json credentials field value,
        notification.toPfs001Json json credentials ≠ .error (.integerOutOfRange field value) :=
  uploaded_in_range sample_session (List.mem_cons_of_mem _ (List.mem_singleton_self _))
    List.mem_cons_self

end TwEinvoice.Client
