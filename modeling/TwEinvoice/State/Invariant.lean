import TwEinvoice.EventLog.Journal
import TwEinvoice.State.Exits

/-!
# What the operations of a record keep

A submission record is a journal in the sense of `EventLog.Journal`: the transport state is its
level, the stored process results its observations and the terminal summary its verdict.
`deliver_eq` says that every operation, on every exit path, absorbs the contribution of its
argument and does nothing else. The representation invariant `WellFormed` and its preservation
(`deliver_well_formed`) are read off that equation.
-/

namespace TwEinvoice.State

open Rust Results EventLog

/-! ## Accepted summaries -/

/-- A terminal summary agrees with its stored message and with the submission it closes. -/
structure TerminalSummary.Agrees (summary : TerminalSummary) (messageId : String)
    (quantity : UInt32) : Prop where
  id : summary.message.info.id = messageId
  sum : summary.total.toNat = summary.good.toNat + summary.failed.toNat
  expected : summary.total = quantity
  totalCount : (summary.total.toNat : Int) = summary.message.result.total.count.toInt
  goodCount : (summary.good.toNat : Int) = summary.message.result.good.count.toInt
  failedCount : (summary.failed.toNat : Int) = summary.message.result.failed.count.toInt
  goodInvoices : summary.goodInvoices = summary.message.result.good.invoices
  failedInvoices : summary.failedInvoices = summary.message.result.failed.invoices
  allGood : summary.disposition = .allGood ↔ summary.failed = 0
  allFailed : summary.disposition = .allFailed ↔ summary.good = 0
  partialSuccess : summary.disposition = .partialSuccess ↔ 0 < summary.good ∧ 0 < summary.failed

/-- The summary built from a validated message agrees with it. -/
theorem from_validated_message_agrees {message : SummaryMessage} {summary : TerminalSummary}
    {messageId : String} {quantity : UInt32}
    (h : TerminalSummary.fromValidatedMessage message = .ok summary)
    (hid : message.info.id = messageId) (hconsistent : message.Consistent)
    (hquantity : message.result.total.count.toInt = quantity.toNat) (hpos : quantity ≠ 0) :
    summary.Agrees messageId quantity ∧ summary.message = message := by
  simp only [TerminalSummary.fromValidatedMessage, bind, Except.bind] at h
  split at h
  · cases h
  · rename_i total htotal
    split at h
    · cases h
    · rename_i good hgood
      split at h
      · cases h
      · rename_i failed hfailed
        simp only [pure, Except.pure, Except.ok.injEq] at h
        rw [expect_eq_ok, u32_try_from_eq_some] at htotal hgood hfailed
        have hsum := hconsistent.sum
        have hzero : ∀ count : UInt32, count = 0 ↔ count.toNat = 0 := fun count => by
          rw [← UInt32.toNat_inj, UInt32.toNat_zero]
        have hlt : ∀ count : UInt32, 0 < count ↔ 0 < count.toNat := fun count => by
          rw [UInt32.lt_iff_toNat_lt, UInt32.toNat_zero]
        rw [ne_eq, hzero] at hpos
        subst h
        refine ⟨⟨hid, ?_, ?_, htotal.2, hgood.2, hfailed.2, rfl, rfl, ?_, ?_, ?_⟩, rfl⟩
        · dsimp only
          omega
        · rw [← UInt32.toNat_inj]
          dsimp only
          omega
        all_goals
          dsimp only
          simp only [hzero, hlt]
          split
          · simp only [reduceCtorEq, true_iff, false_iff]
            omega
          · split <;> simp only [reduceCtorEq, true_iff, false_iff] <;> omega

/-- An accepted summary keeps the message and agrees with the submission. -/
theorem accepted_summary_agrees {build : Build} {messageId : String} {quantity : UInt32}
    {message : SummaryMessage} {summary : TerminalSummary} (hpos : quantity ≠ 0)
    (h : acceptedSummary build messageId quantity message = some summary) :
    summary.Agrees messageId quantity ∧ summary.message = message := by
  obtain ⟨hid, hissues, hsummary⟩ := accepted_summary_eq_some.mp h
  obtain ⟨hconsistent, hquantity⟩ := validation_issues_eq_nil.mp hissues
  exact from_validated_message_agrees hsummary hid hconsistent hquantity hpos

/-! ## Contributions -/

/-- A contribution to the journal of a submission. -/
abbrev RecordContribution := Contribution TransportState ProcessResult TerminalSummary

/-- The contribution of an event that a record ignores. -/
def noContribution : RecordContribution := ⟨.created, none, none⟩

/-- What a summary message adds. -/
def messageContribution (build : Build) (messageId : String) (quantity : UInt32)
    (message : SummaryMessage) : RecordContribution :=
  match acceptedSummary build messageId quantity message with
  | some summary => ⟨.summaryObserved, none, some summary⟩
  | none => noContribution

/-- What an event adds to the record of a submission, whatever the state of the record. -/
def Event.contribution (build : Build) (messageId : String) (quantity : UInt32) :
    Event → RecordContribution
  | .advance target => ⟨target, none, none⟩
  | .process result =>
      if result.message.id = messageId then ⟨.processObserved, some result, none⟩
      else noContribution
  | .message entry => messageContribution build messageId quantity entry
  | .summary result =>
      match result.messages.filter fun entry => entry.info.id = messageId with
      | [entry] => messageContribution build messageId quantity entry
      | _ => noContribution

/-- The level an event contributes covers its observation and its verdict. -/
theorem message_contribution_level (build : Build) (messageId : String) (quantity : UInt32)
    (message : SummaryMessage) :
    (messageContribution build messageId quantity message).observed = none ∧
      ((messageContribution build messageId quantity message).verdict ≠ none →
        (messageContribution build messageId quantity message).level = .summaryObserved) := by
  unfold messageContribution
  split <;> simp [noContribution]

/-- A contribution with a verdict comes from a message that was accepted: the message of a
message event, or the only entry of a summary result that carries the submission's ID. -/
theorem contribution_verdict {build : Build} {messageId : String} {quantity : UInt32}
    {event : Event} {summary : TerminalSummary}
    (h : (event.contribution build messageId quantity).verdict = some summary) :
    ∃ message, acceptedSummary build messageId quantity message = some summary ∧
      (event = .message message ∨ ∃ result, event = .summary result ∧
        (result.messages.filter fun entry => entry.info.id = messageId) = [message]) := by
  have hmessage : ∀ message,
      (messageContribution build messageId quantity message).verdict = some summary →
        acceptedSummary build messageId quantity message = some summary := by
    intro message hverdict
    unfold messageContribution at hverdict
    split at hverdict
    · rename_i accepted haccepted
      rw [haccepted]
      exact hverdict
    · cases hverdict
  cases event with
  | advance target => cases h
  | process result =>
      simp only [Event.contribution] at h
      split at h <;> cases h
  | message message => exact ⟨message, hmessage message h, .inl rfl⟩
  | summary result =>
      simp only [Event.contribution] at h
      split at h
      · rename_i message hfilter
        exact ⟨message, hmessage message h, .inr ⟨result, rfl, hfilter⟩⟩
      · cases h

/-- A contribution with an observation comes from a process result of the submission. -/
theorem contribution_observed {build : Build} {messageId : String} {quantity : UInt32}
    {event : Event} {result : ProcessResult}
    (h : (event.contribution build messageId quantity).observed = some result) :
    event = .process result ∧ result.message.id = messageId := by
  have hmessage : ∀ message,
      (messageContribution build messageId quantity message).observed ≠ some result := by
    intro message
    rw [(message_contribution_level build messageId quantity message).1]
    simp
  cases event with
  | advance target => cases h
  | process other =>
      simp only [Event.contribution] at h
      split at h
      · rename_i hid
        cases h
        exact ⟨rfl, hid⟩
      · cases h
  | message message => exact absurd h (hmessage message)
  | summary summary =>
      simp only [Event.contribution] at h
      split at h
      · exact absurd h (hmessage _)
      · cases h

/-- The level of a contribution dominates what its other parts require. -/
theorem contribution_level (build : Build) (messageId : String) (quantity : UInt32)
    (event : Event) :
    ((event.contribution build messageId quantity).observed ≠ none →
      (event.contribution build messageId quantity).level = .processObserved) ∧
    ((event.contribution build messageId quantity).verdict ≠ none →
      (event.contribution build messageId quantity).level = .summaryObserved) := by
  cases event with
  | advance target => simp [Event.contribution]
  | process result =>
      simp only [Event.contribution]
      split <;> simp [noContribution]
  | message message =>
      have h := message_contribution_level build messageId quantity message
      exact ⟨fun hobserved => absurd h.1 hobserved, h.2⟩
  | summary result =>
      simp only [Event.contribution]
      split
      · rename_i message _
        have h := message_contribution_level build messageId quantity message
        exact ⟨fun hobserved => absurd h.1 hobserved, h.2⟩
      · simp [noContribution]

/-! ## The representation invariant -/

/-- The representation invariant of `SubmissionRecord`. -/
structure SubmissionRecord.WellFormed (record : SubmissionRecord) : Prop where
  messageId : record.messageId ≠ ""
  expectedQuantity : 0 < record.expectedQuantity
  resultIds : ∀ result ∈ record.processResults, result.message.id = record.messageId
  resultsNodup : record.processResults.Nodup
  resultsObserved : record.processResults ≠ [] → .processObserved ≤ record.transport
  terminalObserved : ∀ summary, record.terminal = some summary →
    record.transport = .summaryObserved
  terminalAgrees : ∀ summary, record.terminal = some summary →
    summary.Agrees record.messageId record.expectedQuantity

namespace SubmissionRecord

/-- A new record satisfies the invariant. -/
theorem new_well_formed {messageId : String} {quantity : UInt32} {record : SubmissionRecord}
    (h : new messageId quantity = .ok record) : record.WellFormed := by
  unfold new at h
  split at h
  · cases h
  · rename_i hid
    split at h
    · cases h
    · rename_i hquantity
      cases h
      refine ⟨?_, UInt32.pos_iff_ne_zero.mpr hquantity, by simp, List.nodup_nil, by simp,
        by simp, by simp⟩
      simpa using hid

/-- A new record has the given identity. -/
theorem new_identity {messageId : String} {quantity : UInt32} {record : SubmissionRecord}
    (h : new messageId quantity = .ok record) :
    record.messageId = messageId ∧ record.expectedQuantity = quantity := by
  unfold new at h
  split at h
  · cases h
  · split at h <;> cases h
    exact ⟨rfl, rfl⟩

/-- The journal a record is. -/
def journal (self : SubmissionRecord) : Journal TransportState ProcessResult TerminalSummary :=
  ⟨self.transport, self.processResults, self.terminal⟩

/-- Replace the journal of a record. -/
def withJournal (self : SubmissionRecord)
    (journal : Journal TransportState ProcessResult TerminalSummary) : SubmissionRecord :=
  { self with
    transport := journal.level
    processResults := journal.observed
    terminal := journal.verdict }

/-- The record after absorbing the contribution of an event. -/
def absorb (build : Build) (self : SubmissionRecord) (event : Event) : SubmissionRecord :=
  self.withJournal
    (self.journal.absorb (event.contribution build self.messageId self.expectedQuantity))

/-- Absorbing a covered contribution leaves the record as it is. -/
theorem withJournal_absorb_of_covers {self : SubmissionRecord}
    {contribution : RecordContribution} (h : self.journal.Covers contribution) :
    self.withJournal (self.journal.absorb contribution) = self := by
  rw [h.absorb_eq]
  rfl

/-- An ignored event leaves the record as it is. -/
@[simp] theorem withJournal_noContribution (self : SubmissionRecord) :
    self.withJournal (self.journal.absorb noContribution) = self :=
  withJournal_absorb_of_covers ⟨TransportState.created_le _, by simp [noContribution],
    by simp [noContribution]⟩

end SubmissionRecord

/-! ## Every exit absorbs the contribution -/

section Absorbed

variable {build : Build} {self after : SubmissionRecord} {outcome : Applied}

/-- However a process result ends, the record has absorbed it. -/
theorem ProcessExit.absorbed {result : ProcessResult}
    (h : ProcessExit self result outcome after) (hself : self.WellFormed) :
    after = self.absorb build (.process result) := by
  show after = self.withJournal (self.journal.absorb (if result.message.id = self.messageId then
    ⟨.processObserved, some result, none⟩ else noContribution))
  cases h with
  | mismatch hid => rw [if_neg hid, SubmissionRecord.withJournal_noContribution]
  | replay hid hmem =>
      have hcovers : self.journal.Covers ⟨.processObserved, some result, none⟩ := by
        refine ⟨hself.resultsObserved (List.ne_nil_of_mem hmem), ?_, by simp⟩
        rintro value ⟨⟩
        exact hmem
      rw [if_pos hid, SubmissionRecord.withJournal_absorb_of_covers hcovers]
  | stored hid hmem =>
      simp [hid, SubmissionRecord.withJournal, SubmissionRecord.journal, Journal.absorb, observe,
        hmem]

/-- A message that is not accepted contributes nothing. -/
theorem absorb_rejected {message : SummaryMessage} (h : self.accepted build message = none) :
    self.absorb build (.message message) = self := by
  have hcontribution : messageContribution build self.messageId self.expectedQuantity message =
      noContribution := by
    rw [messageContribution, show acceptedSummary .. = none from h]
  rw [SubmissionRecord.absorb, Event.contribution, hcontribution,
    SubmissionRecord.withJournal_noContribution]

/-- An accepted message is absorbed with its summary. -/
theorem absorb_accepted {message : SummaryMessage} {incoming : TerminalSummary}
    (h : self.accepted build message = some incoming) :
    self.absorb build (.message message) =
      self.withJournal (self.journal.absorb ⟨.summaryObserved, none, some incoming⟩) := by
  rw [SubmissionRecord.absorb, Event.contribution, messageContribution,
    show acceptedSummary .. = some incoming from h]

/-- A terminal record covers every accepted message. -/
theorem covers_terminal {existing : TerminalSummary} (h : self.WellFormed)
    (hterminal : self.terminal = some existing) (incoming : TerminalSummary) :
    self.journal.Covers ⟨.summaryObserved, none, some incoming⟩ := by
  refine ⟨(h.terminalObserved existing hterminal).ge, by simp, ?_⟩
  simp [SubmissionRecord.journal, hterminal]

/-- However a summary message ends, the record has absorbed it. -/
theorem MessageExit.absorbed {message : SummaryMessage}
    (h : MessageExit self build message outcome after) (hself : self.WellFormed) :
    after = self.absorb build (.message message) := by
  cases h with
  | mismatch hid => exact (absorb_rejected (if_neg hid)).symm
  | panicked panic haccepted => exact (absorb_rejected haccepted).symm
  | inconsistent issues hissues hsome =>
      exact (absorb_rejected (rejected_of_issues hissues hsome)).symm
  -- A replay and a conflict leave the record as it is, which covers the contribution.
  | replay existing hterminal haccepted =>
      rw [absorb_accepted haccepted,
        SubmissionRecord.withJournal_absorb_of_covers (covers_terminal hself hterminal existing)]
  | conflicting existing incoming hterminal haccepted =>
      rw [absorb_accepted haccepted,
        SubmissionRecord.withJournal_absorb_of_covers (covers_terminal hself hterminal incoming)]
  | closed incoming hterminal haccepted =>
      rw [absorb_accepted haccepted]
      simp [SubmissionRecord.withJournal, SubmissionRecord.journal, Journal.absorb, observe,
        hterminal]

/-- However a summary result ends, the record has absorbed it. -/
theorem SummaryExit.absorbed {result : SummaryResult}
    (h : SummaryExit self build result outcome after) (hself : self.WellFormed) :
    after = self.absorb build (.summary result) := by
  have hcontribution : self.absorb build (.summary result) = self.withJournal
      (self.journal.absorb (match self.entries result with
        | [message] => messageContribution build self.messageId self.expectedQuantity message
        | _ => noContribution)) := rfl
  cases h with
  | missing hentries => rw [hcontribution, hentries, SubmissionRecord.withJournal_noContribution]
  | duplicate hmany =>
      rw [hcontribution]
      split
      · next message hentries =>
          rw [hentries, List.length_singleton] at hmany
          omega
      · rw [SubmissionRecord.withJournal_noContribution]
  | entry message _ _ hentries hmessage =>
      rw [hcontribution, hentries]
      exact hmessage.absorbed hself

end Absorbed

namespace SubmissionRecord

variable {build : Build} {self : SubmissionRecord}

/-- `apply_process_result` absorbs the contribution of the result. -/
theorem apply_process_result_eq (h : self.WellFormed) (result : ProcessResult) :
    (self.applyProcessResult result).2 = self.absorb build (.process result) :=
  (self.apply_process_result_exit result).absorbed h

/-- `apply_summary_message` absorbs the contribution of the message. -/
theorem apply_summary_message_eq (h : self.WellFormed) (message : SummaryMessage) :
    (self.applySummaryMessage build message).2 = self.absorb build (.message message) :=
  (apply_summary_message_exit build self message).absorbed h

/-- `apply_summary_result` absorbs the contribution of the result. -/
theorem apply_summary_result_eq (h : self.WellFormed) (result : SummaryResult) :
    (self.applySummaryResult build result).2 = self.absorb build (.summary result) :=
  (apply_summary_result_exit build self result).absorbed h

/-- Every operation absorbs the contribution of its argument and does nothing else, whatever it
returns. -/
theorem deliver_eq (h : self.WellFormed) (event : Event) :
    self.deliver build event = self.absorb build event := by
  cases event with
  | advance target =>
      simp [deliver, advance_transport_eq, absorb, Event.contribution, withJournal, journal,
        Journal.absorb, observe]
  | process result => exact apply_process_result_eq h result
  | message message => exact apply_summary_message_eq h message
  | summary result => exact apply_summary_result_eq h result

/-- Absorbing a contribution keeps the invariant. -/
theorem absorb_well_formed (h : self.WellFormed) (event : Event) :
    (self.absorb build event).WellFormed := by
  have hlevel := contribution_level build self.messageId self.expectedQuantity event
  have hquantity : self.expectedQuantity ≠ 0 := UInt32.pos_iff_ne_zero.mp h.expectedQuantity
  refine ⟨h.messageId, h.expectedQuantity, ?_, nodup_observe _ h.resultsNodup, ?_, ?_, ?_⟩
  · intro result hresult
    rcases mem_observe.mp hresult with hold | hnew
    · exact h.resultIds result hold
    · exact (contribution_observed hnew).2
  · intro hne
    obtain ⟨result, hresult⟩ := List.exists_mem_of_ne_nil _ hne
    rcases mem_observe.mp hresult with hold | hnew
    · exact (h.resultsObserved (List.ne_nil_of_mem hold)).trans le_sup_left
    · exact (hlevel.1 (by simp [hnew])).ge.trans le_sup_right
  · intro summary hsummary
    rcases Option.or_eq_some_iff.mp hsummary with hold | ⟨-, hnew⟩
    · exact le_antisymm (TransportState.le_summary_observed _)
        ((h.terminalObserved summary hold).ge.trans le_sup_left)
    · exact le_antisymm (TransportState.le_summary_observed _)
        ((hlevel.2 (by simp [hnew])).ge.trans le_sup_right)
  · intro summary hsummary
    rcases Option.or_eq_some_iff.mp hsummary with hold | ⟨-, hnew⟩
    · exact h.terminalAgrees summary hold
    · obtain ⟨message, haccepted, -⟩ := contribution_verdict hnew
      exact (accepted_summary_agrees hquantity haccepted).1

variable (build)

/-- Every operation keeps the invariant. -/
theorem deliver_well_formed (h : self.WellFormed) (event : Event) :
    (self.deliver build event).WellFormed := by
  rw [deliver_eq h]
  exact absorb_well_formed h event

/-! ## Runs -/

/-- A record that some sequence of operations leads to from `new`. -/
def Reachable (record : SubmissionRecord) : Prop :=
  ∃ messageId quantity created events, new messageId quantity = .ok created ∧
    record = created.deliverAll build events

/-- A run keeps the invariant and the identity, and absorbs the contributions of its events. -/
theorem deliver_all_spec (h : self.WellFormed) (events : List Event) :
    (self.deliverAll build events).WellFormed ∧
      self.deliverAll build events = self.withJournal
        ((events.map (Event.contribution build self.messageId self.expectedQuantity)).foldl
          Journal.absorb self.journal) := by
  induction events generalizing self with
  | nil => exact ⟨h, rfl⟩
  | cons event rest ih =>
      obtain ⟨hwell, heq⟩ := ih (deliver_well_formed build h event)
      refine ⟨hwell, ?_⟩
      rw [show self.deliverAll build (event :: rest) =
        (self.deliver build event).deliverAll build rest from rfl, heq, deliver_eq h]
      rfl

/-- The journal after a run absorbs the contributions of its events. -/
theorem deliver_all_journal (h : self.WellFormed) (events : List Event) :
    (self.deliverAll build events).journal =
      (events.map (Event.contribution build self.messageId self.expectedQuantity)).foldl
        Journal.absorb self.journal := by
  rw [(deliver_all_spec build h events).2]
  rfl

/-- A run keeps the identity of the submission. -/
theorem deliver_all_identity (h : self.WellFormed) (events : List Event) :
    (self.deliverAll build events).messageId = self.messageId ∧
      (self.deliverAll build events).expectedQuantity = self.expectedQuantity := by
  rw [(deliver_all_spec build h events).2]
  exact ⟨rfl, rfl⟩

variable {build} in
/-- A reachable record satisfies the invariant. -/
theorem Reachable.wellFormed {record : SubmissionRecord} (h : Reachable build record) :
    record.WellFormed := by
  obtain ⟨messageId, quantity, created, events, hnew, rfl⟩ := h
  exact (deliver_all_spec build (new_well_formed hnew) events).1

end SubmissionRecord

end TwEinvoice.State
