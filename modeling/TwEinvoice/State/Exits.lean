import TwEinvoice.State.Record

/-!
# The exits of the operations on a record

What each operation returns on each of its exit paths, with the guards of the path and the record
it leaves, stated once for each operation.
-/

namespace TwEinvoice.State

open Rust Results

/-! ## Accepted summaries -/

/-- The terminal summary a message stands for, if it belongs to the submission and passes
validation. -/
def acceptedSummary (build : Build) (messageId : String) (quantity : UInt32)
    (message : SummaryMessage) : Option TerminalSummary :=
  if message.info.id = messageId then
    match message.validationIssues build (some quantity) with
    | .ok [] => (TerminalSummary.fromValidatedMessage message).toOption
    | _ => none
  else none

/-- When a summary message is accepted, and as what. -/
theorem accepted_summary_eq_some {build : Build} {messageId : String} {quantity : UInt32}
    {message : SummaryMessage} {summary : TerminalSummary} :
    acceptedSummary build messageId quantity message = some summary ↔
      message.info.id = messageId ∧ message.validationIssues build (some quantity) = .ok [] ∧
        TerminalSummary.fromValidatedMessage message = .ok summary := by
  unfold acceptedSummary
  split
  · rename_i hid
    split
    · rename_i hissues
      cases hsummary : TerminalSummary.fromValidatedMessage message <;>
        simp [hid, hissues, Except.toOption]
    · rename_i hissues
      simp only [reduceCtorEq, false_iff, not_and]
      exact fun _ h => absurd h hissues
  · rename_i hid
    simp [hid]

/-- The terminal summary a message stands for, if the record may accept it. -/
def SubmissionRecord.accepted (build : Build) (self : SubmissionRecord)
    (message : SummaryMessage) : Option TerminalSummary :=
  acceptedSummary build self.messageId self.expectedQuantity message

/-- A message with issues is not accepted. -/
theorem rejected_of_issues {build : Build} {self : SubmissionRecord} {message : SummaryMessage}
    {issues : List SummaryValidationIssue}
    (hissues : message.validationIssues build (some self.expectedQuantity) = .ok issues)
    (hsome : issues ≠ []) : self.accepted build message = none := by
  cases issues with
  | nil => exact absurd rfl hsome
  | cons issue issues => simp [SubmissionRecord.accepted, acceptedSummary, hissues]

/-! ## The exits of the operations -/

section Exits

variable (self : SubmissionRecord)

/-- The exits of `advance_transport`. -/
inductive AdvanceExit (target : TransportState) : TransportAdvance → SubmissionRecord → Prop where
  | advanced :
      self.transport < target →
      AdvanceExit target (.advanced self.transport target) { self with transport := target }
  | unchanged :
      target = self.transport →
      AdvanceExit target .unchanged self
  | ignoredStale :
      target < self.transport →
      AdvanceExit target (.ignoredStale self.transport target) self

/-- The exits of `apply_process_result`. -/
inductive ProcessExit (result : ProcessResult) : Applied → SubmissionRecord → Prop where
  | mismatch :
      result.message.id ≠ self.messageId →
      ProcessExit result (.ok (.error (.messageIdMismatch self.messageId result.message.id))) self
  | replay :
      result.message.id = self.messageId → result ∈ self.processResults →
      ProcessExit result (.ok (.ok .unchangedReplay)) self
  | stored :
      result.message.id = self.messageId → result ∉ self.processResults →
      ProcessExit result (.ok (.ok .changed))
        { self with
          transport := self.transport ⊔ .processObserved
          processResults := self.processResults ++ [result] }

/-- The exits of `apply_summary_message`. -/
inductive MessageExit (build : Build) (message : SummaryMessage) :
    Applied → SubmissionRecord → Prop where
  | mismatch :
      message.info.id ≠ self.messageId →
      MessageExit build message
        (.ok (.error (.messageIdMismatch self.messageId message.info.id))) self
  -- A checked build panics when the sum of the counts overflows.
  | panicked (panic) :
      self.accepted build message = none →
      MessageExit build message (.error panic) self
  | inconsistent (issues) :
      message.validationIssues build (some self.expectedQuantity) = .ok issues → issues ≠ [] →
      MessageExit build message (.ok (.error (.inconsistentSummary self.messageId issues))) self
  | replay (existing) :
      self.terminal = some existing → self.accepted build message = some existing →
      MessageExit build message (.ok (.ok .unchangedReplay)) self
  | conflicting (existing incoming) :
      self.terminal = some existing → self.accepted build message = some incoming →
      existing ≠ incoming →
      MessageExit build message
        (.ok (.error (.conflictingTerminalSummary self.messageId existing incoming))) self
  | closed (incoming) :
      self.terminal = none → self.accepted build message = some incoming →
      MessageExit build message (.ok (.ok .changed))
        { self with
          transport := self.transport ⊔ .summaryObserved
          terminal := some incoming }

/-- The entries of a result that carry the message ID of the record. -/
def SubmissionRecord.entries (result : SummaryResult) : List SummaryMessage :=
  result.messages.filter fun message => message.info.id = self.messageId

/-- The exits of `apply_summary_result`. -/
inductive SummaryExit (build : Build) (result : SummaryResult) :
    Applied → SubmissionRecord → Prop where
  | missing :
      self.entries result = [] →
      SummaryExit build result (.ok (.error (.summaryMessageMissing self.messageId))) self
  | duplicate :
      2 ≤ (self.entries result).length →
      SummaryExit build result
        (.ok (.error
          (.duplicateSummaryMessage self.messageId (self.entries result).length))) self
  | entry (message) (outcome : Applied) (after : SubmissionRecord) :
      self.entries result = [message] → MessageExit self build message outcome after →
      SummaryExit build result outcome after

end Exits

namespace SubmissionRecord

variable {build : Build} {self : SubmissionRecord}

theorem ensure_message_id_ok {actual : String} (h : actual = self.messageId) :
    self.ensureMessageId actual = .ok () :=
  if_pos h

theorem ensure_message_id_mismatch {actual : String} (h : actual ≠ self.messageId) :
    self.ensureMessageId actual = .error (.messageIdMismatch self.messageId actual) :=
  if_neg h

/-- Advancing the transport state takes the maximum. -/
theorem advance_transport_eq (self : SubmissionRecord) (target : TransportState) :
    (self.advanceTransport target).2 = { self with transport := self.transport ⊔ target } := by
  unfold advanceTransport
  split
  · rename_i h
    have hlt := compare_gt_iff_gt.mp h
    rw [sup_eq_right.mpr hlt.le]
  · rename_i h
    rw [compare_eq_iff_eq.mp h, sup_idem]
  · rename_i h
    have hlt := compare_lt_iff_lt.mp h
    rw [sup_eq_left.mpr hlt.le]

/-- How an advance can end. -/
theorem advance_transport_exit (self : SubmissionRecord) (target : TransportState) :
    AdvanceExit self target (self.advanceTransport target).1 (self.advanceTransport target).2 := by
  unfold advanceTransport
  split
  · next h => exact .advanced (compare_gt_iff_gt.mp h)
  · next h => exact .unchanged (compare_eq_iff_eq.mp h)
  · next h => exact .ignoredStale (compare_lt_iff_lt.mp h)

/-- How a process result can end. -/
theorem apply_process_result_exit (self : SubmissionRecord) (result : ProcessResult) :
    ProcessExit self result (self.applyProcessResult result).1
      (self.applyProcessResult result).2 := by
  unfold applyProcessResult
  by_cases hid : result.message.id = self.messageId
  · rw [ensure_message_id_ok hid]
    by_cases hmem : result ∈ self.processResults
    · rw [List.contains_iff_mem.mpr hmem]
      exact .replay hid hmem
    · have hcontains : ¬ self.processResults.contains result := by simpa using hmem
      simp only [if_neg hcontains, advance_transport_eq]
      exact .stored hid hmem
  · rw [ensure_message_id_mismatch hid]
    exact .mismatch hid

/-- How a summary message can end. -/
theorem apply_summary_message_exit (build : Build) (self : SubmissionRecord)
    (message : SummaryMessage) :
    MessageExit self build message (self.applySummaryMessage build message).1
      (self.applySummaryMessage build message).2 := by
  unfold applySummaryMessage
  by_cases hid : message.info.id = self.messageId
  · rw [ensure_message_id_ok hid]
    cases hissues : message.validationIssues build (some self.expectedQuantity) with
    | error panic => exact .panicked panic (by simp [accepted, acceptedSummary, hissues])
    | ok issues =>
        cases issues with
        | cons issue issues => exact .inconsistent _ hissues (List.cons_ne_nil _ _)
        | nil =>
            cases hincoming : TerminalSummary.fromValidatedMessage message with
            | error panic =>
                refine .panicked panic ?_
                simp [accepted, acceptedSummary, hissues, hincoming, Except.toOption]
            | ok incoming =>
                have haccepted : self.accepted build message = some incoming :=
                  accepted_summary_eq_some.mpr ⟨hid, hissues, hincoming⟩
                simp only [List.isEmpty_nil, not_true_eq_false, if_false]
                cases hterminal : self.terminal with
                | none =>
                    simp only [advance_transport_eq]
                    exact .closed incoming hterminal haccepted
                | some existing =>
                    by_cases hsame : existing = incoming
                    · simp only [if_pos hsame]
                      exact .replay existing hterminal (hsame ▸ haccepted)
                    · simp only [if_neg hsame]
                      exact .conflicting existing incoming hterminal haccepted hsame
  · rw [ensure_message_id_mismatch hid]
    exact .mismatch hid

/-- What is done with the entries that carry the message ID of the record. -/
def applyEntries (build : Build) (self : SubmissionRecord) :
    List SummaryMessage → Applied × SubmissionRecord
  | [] => (.ok (.error (.summaryMessageMissing self.messageId)), self)
  | [message] => self.applySummaryMessage build message
  | messages => (.ok (.error (.duplicateSummaryMessage self.messageId messages.length)), self)

/-- `apply_summary_result` depends on these entries only: both passes see them. -/
theorem apply_summary_result_entries (build : Build) (self : SubmissionRecord)
    (result : SummaryResult) :
    self.applySummaryResult build result = self.applyEntries build (self.entries result) := by
  unfold applySummaryResult
  -- The second pass counts the list that the first one goes through.
  cases hentries : result.messages.filter fun message => message.info.id = self.messageId with
  | nil =>
      rw [entries, hentries]
      rfl
  | cons message matching =>
      rw [entries, hentries]
      cases matching with
      | nil => rfl
      | cons other matching => rfl

/-- How a summary result can end. -/
theorem apply_summary_result_exit (build : Build) (self : SubmissionRecord)
    (result : SummaryResult) :
    SummaryExit self build result (self.applySummaryResult build result).1
      (self.applySummaryResult build result).2 := by
  rw [apply_summary_result_entries]
  cases hfilter : self.entries result with
  | nil => exact .missing hfilter
  | cons message matching =>
      cases matching with
      | nil => exact .entry message _ _ hfilter (apply_summary_message_exit build self message)
      | cons other matching =>
          have hmany : 2 ≤ (self.entries result).length := by
            rw [hfilter]
            exact Nat.le_add_left 2 matching.length
          show SummaryExit self build result (.ok (.error (.duplicateSummaryMessage self.messageId
            (message :: other :: matching).length))) self
          rw [← hfilter]
          exact .duplicate hmany

end SubmissionRecord

end TwEinvoice.State
