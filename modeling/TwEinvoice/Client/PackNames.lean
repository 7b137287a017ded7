import TwEinvoice.Client.Agreement
import TwEinvoice.Transport.FilenameGrammar

/-!
# What the pack filename of a plan says

`validate_plan` compares the fields of the filename with those of the envelope, and not with the
grammar of filenames. `prepared_filename_read_back_iff` says when the rendered name, under which
`submit` stores the signed file in the ZIP, is read as these fields again.
-/

namespace TwEinvoice.Client

open Rust Effects Envelope Signing Transport

variable {backends : Backends}

/-- The filename says what the envelope does. -/
structure NamesEnvelope (filename : TurnkeyPackFilename) (envelope : InvoiceEnvelope) : Prop where
  fromParty : filename.fromParty = envelope.routing.from.identifier
  toParty : filename.toParty = envelope.routing.to.identifier
  messageType : filename.commonName.messageType = envelope.metadata.messageType
  migVersion : filename.commonName.migVersion = envelope.metadata.version.asStr
  count : filename.packCount.toInt = envelope.count

/-- The filename of a prepared submission is the one of its plan, and says what the envelope
does. -/
theorem PrepareRun.names_envelope {plan : SubmissionPlan}
    {events : List (SubmissionEvent backends)} {prepared : PreparedSubmission}
    (h : PrepareRun plan events (.ok prepared)) :
    prepared.filename = plan.filename ∧ NamesEnvelope plan.filename plan.envelope := by
  cases h with
  | signed algorithm cms hlocal =>
      obtain ⟨hplan, _, _⟩ := local_preparation_ok hlocal
      obtain ⟨hcount, hmessageType, hmigVersion, hfrom, hto⟩ := validate_plan_ok hplan
      exact ⟨rfl, hfrom, hto, hmessageType, hmigVersion, hcount.symm⟩

/-- What a plan that is accepted is submitted as is read as its filename, with the fields of its
envelope, exactly if this filename is well-formed. -/
theorem prepared_filename_read_back_iff {plan : SubmissionPlan} {prepared : PreparedSubmission}
    {trace final : List (SubmissionEvent backends)}
    (h : Runs (recording _) (prepareSubmission plan).run trace (.ok prepared) final) :
    (TurnkeyPackFilename.parse prepared.request.filename.render = .ok plan.filename ∧
        NamesEnvelope plan.filename plan.envelope) ↔ plan.filename.WellFormed := by
  obtain ⟨events, _, hprepare⟩ := prepare_submission_runs_iff.1 h
  obtain ⟨hfilename, hnames⟩ := hprepare.names_envelope
  show (TurnkeyPackFilename.parse prepared.filename.render = _ ∧ _) ↔ _
  rw [hfilename, and_iff_left hnames]
  exact TurnkeyPackFilename.parse_eq_ok_iff.trans (and_iff_left plan.filename.render_numeral)

theorem sample_prepared :
    Runs (recording _) (prepareSubmission samplePlan).run [] (.ok samplePrepared)
      samplePreparation :=
  prepare_submission_runs_iff.2 ⟨_, rfl, .signed _ sampleCms sample_local_preparation⟩

theorem sample_read_back :
    (TurnkeyPackFilename.parse samplePrepared.request.filename.render = .ok samplePlan.filename ∧
      NamesEnvelope samplePlan.filename samplePlan.envelope) ↔ samplePlan.filename.WellFormed :=
  prepared_filename_read_back_iff sample_prepared

/-! ## A party with an underscore -/

/-- The sample plan with a sender whose identifier has an underscore. -/
def underscorePlan : SubmissionPlan :=
  { samplePlan with
    envelope :=
      { sampleEnvelope with
        routing := { sampleEnvelope.routing with «from» := ⟨"12_34", none⟩ } }
    filename := { sampleFilename with fromParty := "12_34" } }

/-- It is accepted. -/
theorem underscore_plan_prepared :
    ∃ prepared final, Runs (recording _) (prepareSubmission underscorePlan).run []
        (.ok prepared : PrepareResult sampleBackends) final ∧
      prepared.request.filename = underscorePlan.filename := by
  -- The fields agree with the envelope, which is all that is checked.
  have hplan : validatePlan underscorePlan = .ok () := by decide
  obtain ⟨content, hcontent⟩ : ∃ content, underscorePlan.envelope.toTurnkeyXml = .ok content :=
    ⟨_, to_turnkey_xml_single rfl (from_utf8_into_bytes "<Invoice/>") (by decide)⟩
  have hlocal : underscorePlan.localPreparation sampleBackends = .ok (1, content) := by
    rw [SubmissionPlan.localPreparation, hplan, hcontent]
    rfl
  exact ⟨_, _, prepare_submission_runs_iff.2 ⟨_, rfl, .signed .ecdsaSha256 sampleCms hlocal⟩, rfl⟩

/-- Its filename is read with another source name and another sender. -/
theorem underscore_read_as_other_sender :
    ∃ prepared final read, Runs (recording _) (prepareSubmission underscorePlan).run []
        (.ok prepared : PrepareResult sampleBackends) final ∧
      TurnkeyPackFilename.parse prepared.request.filename.render = .ok read ∧
      read.fromParty ≠ underscorePlan.envelope.routing.from.identifier := by
  obtain ⟨prepared, final, hrun, hfilename⟩ := underscore_plan_prepared
  refine ⟨prepared, final, { sampleFilename with sourceName := "source.xml_12", fromParty := "34" },
    hrun, ?_, by decide⟩
  rw [hfilename]
  decide +kernel

end TwEinvoice.Client
