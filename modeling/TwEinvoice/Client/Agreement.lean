import TwEinvoice.Client.Session
import TwEinvoice.Envelope.Header

/-!
# Agreement of the layers

The signed envelope, the pack filename, the notification and the uploaded object repeat each
other. `layers_agree` compares what each of them says in a session that reaches the notifier.
-/

namespace TwEinvoice.Client

open Rust Effects Envelope Signing Transport

variable {crate : ZipCrate} {backends : Backends}

/-- The notification repeats what is read from the header of the signed envelope. -/
structure RepeatsHeader (notification : UploadNotification) (header : EnvelopeHeader) : Prop where
  from_eq : notification.from = ⟨header.routing.from.identifier, header.routing.from.description,
    header.routing.fromVac.identifier, header.routing.fromVac.description⟩
  to_eq : notification.to = ⟨header.routing.to.identifier, header.routing.to.description,
    header.routing.toVac.identifier, header.routing.toVac.description⟩
  messageType_eq : notification.messageType = header.messageType
  quantity_eq : notification.quantity.toNat = header.count

/-- The notification repeats what the filename of the pack says. -/
structure RepeatsFilename (notification : UploadNotification) (filename : TurnkeyPackFilename) :
    Prop where
  from_eq : notification.from.partyId = filename.fromParty
  to_eq : notification.to.partyId = filename.toParty
  messageType_eq : notification.messageType = filename.commonName.messageType
  migVersion_eq : notification.migVersion = filename.commonName.migVersion
  quantity_eq : (notification.quantity.toNat : Int) = filename.packCount.toInt
  filename_eq : notification.filename = filename.commonName.render

/-- What a plan that passes `validate_plan` repeats. -/
theorem validate_plan_ok {plan : SubmissionPlan} (h : validatePlan plan = .ok ()) :
    (plan.envelope.count : Int) = plan.filename.packCount.toInt ∧
      plan.filename.commonName.messageType = plan.envelope.metadata.messageType ∧
      plan.filename.commonName.migVersion = plan.envelope.metadata.version.asStr ∧
      plan.filename.fromParty = plan.envelope.routing.from.identifier ∧
      plan.filename.toParty = plan.envelope.routing.to.identifier := by
  obtain ⟨count, hcount, h⟩ := ok_of_bind_ok h
  obtain ⟨_, henvelope, h⟩ := ok_of_bind_ok h
  obtain ⟨_, hmessageType, h⟩ := ok_of_bind_ok h
  obtain ⟨_, hmigVersion, h⟩ := ok_of_bind_ok h
  obtain ⟨_, hfrom, hto⟩ := ok_of_bind_ok h
  have hvalue : (count : Int) = plan.filename.packCount.toInt :=
    (usize_try_from_eq_some _ _).1 (Option.filter_eq_some_iff.1 (ok_or_eq_ok.1 hcount)).1
  refine ⟨?_, ensure_eq_ok.1 hmessageType, ensure_eq_ok.1 hmigVersion, ensure_eq_ok.1 hfrom,
    ensure_eq_ok.1 hto⟩
  rw [← ensure_eq_ok.1 henvelope, hvalue]

section Metadata

variable {plan : SubmissionPlan} {quantity : UInt32} (object : PreparedUploadObject)

/-- The notification is derived from the fields of the envelope that its header shows. -/
theorem repeats_header (hquantity : quantity.toNat = plan.envelope.count) :
    RepeatsHeader (uploadNotification (plan.metadata quantity) object) plan.envelope.header :=
  ⟨rfl, rfl, rfl, hquantity⟩

/-- The filename repeats the fields that the notification is derived from. -/
theorem repeats_filename (hplan : validatePlan plan = .ok ())
    (hquantity : quantity.toNat = plan.envelope.count)
    (hname : object.remoteFilename = plan.filename.remoteFilename) :
    RepeatsFilename (uploadNotification (plan.metadata quantity) object) plan.filename := by
  obtain ⟨hcount, hmessageType, hmigVersion, hfrom, hto⟩ := validate_plan_ok hplan
  refine ⟨hfrom.symm, hto.symm, hmessageType.symm, hmigVersion.symm, ?_, hname⟩
  show (quantity.toNat : Int) = _
  rw [hquantity, hcount]

end Metadata

/-- In every session that reaches the notifier, the notification repeats what is read from the
signed bytes and what the filename says, its filename is the name of the uploaded object, and
the object is the armored CMS that the signer returned, packed as the notification says. -/
theorem layers_agree {unzip : List UInt8 → Option (List (String × List UInt8))}
    (hunzip : Unzips crate unzip) {plan : SubmissionPlan}
    {preparation trace : List (SubmissionEvent backends)} {outcome : PrepareResult backends}
    {attempts : List (Attempt crate backends)}
    (h : Session plan preparation outcome attempts trace) {attempt : Attempt crate backends}
    (hattempt : attempt ∈ attempts) {notification : UploadNotification}
    {reply : Except backends.NotifyError GatewayProcessStatus}
    (hnotify : ⟨.notify notification, reply⟩ ∈ attempt.events) :
    ∃ algorithm content cms header uploaded,
      plan.envelope.toTurnkeyXml = .ok content ∧
      preparation = [⟨.signatureAlgorithm, algorithm⟩, ⟨.signAttached content, .ok cms⟩] ∧
      readHeader content = some header ∧
      RepeatsHeader notification header ∧
      RepeatsFilename notification plan.filename ∧
      attempt.events = [⟨.upload notification.filename uploaded, .ok ()⟩,
        ⟨.notify notification, reply⟩] ∧
      decodeObject unzip plan.filename.render notification.zipMode uploaded =
        some (intoBytes cms.toTurnkeyArmored) ∧
      notification.size.toNat = (intoBytes cms.toTurnkeyArmored).length := by
  obtain ⟨hprepare, _, hattempts⟩ := h.runs
  obtain ⟨prepared, rfl, hsubmit⟩ := hattempts attempt hattempt
  obtain ⟨events, result⟩ := attempt
  cases hprepare with
  | @signed quantity content algorithm cms hlocal =>
      obtain ⟨hplan, hquantity, hcontent⟩ := local_preparation_ok hlocal
      cases hsubmit with
      | refused => cases hnotify
      | @sent object events result hchecks hrun =>
          -- A notification is the second of two calls, about the object of the first.
          obtain ⟨before, after, hevents⟩ := List.append_of_mem hnotify
          obtain ⟨rfl, rfl, rfl⟩ := hrun.notify hevents
          obtain ⟨hname, hmode, hsize, hbytes⟩ :=
            prepare_upload_object_ok (local_checks_eq_ok.1 hchecks).2
          refine ⟨algorithm, content, cms, plan.envelope.header, object.uploadedBytes, hcontent,
            rfl, read_header_recovers hcontent, repeats_header object hquantity,
            repeats_filename object hplan hquantity hname, hevents, ?_, hsize⟩
          show decodeObject unzip plan.filename.render object.zipMode object.uploadedBytes = _
          rw [hmode]
          exact decode_packageBytes hunzip hbytes

theorem sample_layers_agree :
    ∃ algorithm content cms header uploaded,
      samplePlan.envelope.toTurnkeyXml = .ok content ∧
      samplePreparation = [⟨.signatureAlgorithm, algorithm⟩, ⟨.signAttached content, .ok cms⟩] ∧
      readHeader content = some header ∧
      RepeatsHeader (uploadNotification samplePrepared.metadata sampleObject) header ∧
      RepeatsFilename (uploadNotification samplePrepared.metadata sampleObject) sampleFilename ∧
      sampleAccepted.events =
        [⟨.upload sampleObject.remoteFilename uploaded, .ok ()⟩,
          ⟨.notify (uploadNotification samplePrepared.metadata sampleObject), .ok ⟨0, []⟩⟩] ∧
      decodeObject storedUnzip sampleFilename.render .zip uploaded =
        some (intoBytes cms.toTurnkeyArmored) ∧
      sampleObject.notificationSize.toNat = (intoBytes cms.toTurnkeyArmored).length :=
  layers_agree stored_unzips sample_session (List.mem_cons_of_mem _ (List.mem_singleton_self _))
    (List.mem_cons_of_mem _ (List.mem_singleton_self _))

end TwEinvoice.Client
