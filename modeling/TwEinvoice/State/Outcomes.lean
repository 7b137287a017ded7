import TwEinvoice.State.History

/-!
# What the calls on a record return

`truthful_outcomes` says that a call reports whether it changed the record, and
`other_entries_irrelevant` that a summary result is decided by the entries that carry the message
ID of the record. Both are read off the exits of the operations and do not need the invariant of
the record.
-/

namespace TwEinvoice.State

open Rust Results

/-! ## Calls say what they did -/

/-- What a call returns. -/
inductive Returned where
  | advance (outcome : TransportAdvance)
  | applied (result : Applied)

/-- One call, with what it returns and the record it leaves. -/
def SubmissionRecord.call (build : Build) (self : SubmissionRecord) :
    Event → Returned × SubmissionRecord
  | .advance target => (self.advanceTransport target).map .advance id
  | .process result => (self.applyProcessResult result).map .applied id
  | .message message => (self.applySummaryMessage build message).map .applied id
  | .summary result => (self.applySummaryResult build result).map .applied id

/-- A call leaves the record that a delivery leaves. -/
theorem SubmissionRecord.call_deliver (build : Build) (self : SubmissionRecord) (event : Event) :
    (self.call build event).2 = self.deliver build event := by
  cases event <;> rfl

/-- The call reports a change. -/
def Returned.Changed : Returned → Prop
  | .advance (.advanced ..) => True
  | .applied (.ok (.ok .changed)) => True
  | _ => False

/-- The call reports that there is no change, or fails. -/
def Returned.Unchanged : Returned → Prop
  | .advance .unchanged => True
  | .advance (.ignoredStale ..) => True
  | .applied (.ok (.ok .unchangedReplay)) => True
  | .applied (.ok (.error _)) => True
  | .applied (.error _) => True
  | _ => False

/-- `event.Alters before after` says `after` is another record than `before`, and differs from it
only in the fields that the call on `event` may set. -/
def Event.Alters (before after : SubmissionRecord) : Event → Prop
  | .advance _ =>
      before.transport ≠ after.transport ∧ after = { before with transport := after.transport }
  | .process result =>
      after = { before with
        transport := after.transport
        processResults := before.processResults ++ [result] }
  | .message _ | .summary _ =>
      before.terminal ≠ after.terminal ∧
        after = { before with transport := after.transport, terminal := after.terminal }

/-- A record that was altered is another record. -/
theorem Event.Alters.ne {before after : SubmissionRecord} {event : Event}
    (h : event.Alters before after) : after ≠ before := by
  rintro rfl
  cases event with
  | advance target => exact h.1 rfl
  | process result =>
      have hlength := congrArg (List.length ∘ SubmissionRecord.processResults) h
      simp at hlength
  | message message => exact h.1 rfl
  | summary result => exact h.1 rfl

/-- The exits of one call: it reports no change and leaves the record, or it reports a change and
alters it. -/
def Event.Truthful (before : SubmissionRecord) (event : Event) (returned : Returned)
    (after : SubmissionRecord) : Prop :=
  (returned.Unchanged ∧ after = before) ∨ (returned.Changed ∧ event.Alters before after)

section Truthful

variable {build : Build} {self after : SubmissionRecord}

theorem AdvanceExit.truthful {target : TransportState} {outcome : TransportAdvance}
    (h : AdvanceExit self target outcome after) :
    (Event.advance target).Truthful self (.advance outcome) after := by
  cases h with
  | advanced hlt => exact .inr ⟨trivial, hlt.ne, rfl⟩
  | unchanged => exact .inl ⟨trivial, rfl⟩
  | ignoredStale => exact .inl ⟨trivial, rfl⟩

theorem ProcessExit.truthful {result : ProcessResult} {outcome : Applied}
    (h : ProcessExit self result outcome after) :
    (Event.process result).Truthful self (.applied outcome) after := by
  cases h with
  | mismatch => exact .inl ⟨trivial, rfl⟩
  | replay => exact .inl ⟨trivial, rfl⟩
  | stored => exact .inr ⟨trivial, rfl⟩

theorem MessageExit.truthful {message : SummaryMessage} {outcome : Applied}
    (h : MessageExit self build message outcome after) :
    (Event.message message).Truthful self (.applied outcome) after := by
  cases h with
  | mismatch => exact .inl ⟨trivial, rfl⟩
  | panicked => exact .inl ⟨trivial, rfl⟩
  | inconsistent => exact .inl ⟨trivial, rfl⟩
  | replay => exact .inl ⟨trivial, rfl⟩
  | conflicting => exact .inl ⟨trivial, rfl⟩
  -- The only path that writes, and it has no terminal summary to replace.
  | closed incoming hterminal =>
      have hne : self.terminal ≠ some incoming := by
        rw [hterminal]
        exact (Option.some_ne_none incoming).symm
      exact .inr ⟨trivial, hne, rfl⟩

theorem SummaryExit.truthful {result : SummaryResult} {outcome : Applied}
    (h : SummaryExit self build result outcome after) :
    (Event.summary result).Truthful self (.applied outcome) after := by
  cases h with
  | missing => exact .inl ⟨trivial, rfl⟩
  | duplicate => exact .inl ⟨trivial, rfl⟩
  | entry message _ _ _ hmessage => exact hmessage.truthful

end Truthful

/-- Every outcome says what has happened. -/
theorem call_truthful (build : Build) (self : SubmissionRecord) (event : Event) :
    event.Truthful self (self.call build event).1 (self.call build event).2 := by
  cases event with
  | advance target => exact (self.advance_transport_exit target).truthful
  | process result => exact (self.apply_process_result_exit result).truthful
  | message message => exact (self.apply_summary_message_exit build message).truthful
  | summary result => exact (self.apply_summary_result_exit build result).truthful

/-- No outcome says both. -/
theorem Returned.Unchanged.not_changed {returned : Returned} (h : returned.Unchanged) :
    ¬ returned.Changed := by
  intro hchanged
  unfold Returned.Changed at hchanged
  split at hchanged
  · exact h
  · exact h
  · exact hchanged

/-- What the calls of a run return, in order. -/
def SubmissionRecord.returns (build : Build) (self : SubmissionRecord) :
    List Event → List Returned
  | [] => []
  | event :: events =>
      (self.call build event).1 :: (self.call build event).2.returns build events

/-- A run in which no call reports a change leaves the record as it was. -/
theorem deliver_all_of_unchanged (build : Build) (self : SubmissionRecord) (events : List Event)
    (h : ∀ returned ∈ self.returns build events, returned.Unchanged) :
    self.deliverAll build events = self := by
  induction events with
  | nil => rfl
  | cons event events ih =>
      rw [SubmissionRecord.returns, List.forall_mem_cons, SubmissionRecord.call_deliver] at h
      obtain ⟨hfirst, hrest⟩ := h
      have hsame : self.deliver build event = self := by
        rw [← SubmissionRecord.call_deliver]
        obtain ⟨_, hsame⟩ | ⟨hchanged, _⟩ := call_truthful build self event
        · exact hsame
        · exact absurd hchanged hfirst.not_changed
      rw [hsame] at hrest
      rw [SubmissionRecord.deliverAll, List.foldl_cons, hsame]
      exact ih hrest

/-- A call that reports no change, or fails, leaves the record as it was, and a call that reports
a change alters it in the fields of its operation. -/
theorem truthful_outcomes (build : Build) (self : SubmissionRecord) (event : Event) :
    ((self.call build event).1.Unchanged → (self.call build event).2 = self) ∧
      ((self.call build event).1.Changed → (self.call build event).2 ≠ self ∧
        event.Alters self (self.call build event).2) := by
  obtain ⟨hunchanged, hsame⟩ | ⟨hchanged, halters⟩ := call_truthful build self event
  · exact ⟨fun _ => hsame, fun hchanged => absurd hchanged hunchanged.not_changed⟩
  · exact ⟨fun hunchanged => absurd hchanged hunchanged.not_changed, fun _ =>
      ⟨halters.ne, halters⟩⟩

/-! ## The entries that decide a summary result -/

section Entries

variable {build : Build} {self after : SubmissionRecord}

/-- The errors of `apply_summary_message` are not about the number of entries. -/
theorem MessageExit.not_counted {message : SummaryMessage} {outcome : Applied}
    (h : MessageExit self build message outcome after) (messageId : String) (count : Nat) :
    outcome ≠ .ok (.error (.summaryMessageMissing messageId)) ∧
      outcome ≠ .ok (.error (.duplicateSummaryMessage messageId count)) := by
  cases h <;> simp

/-- A message is missing exactly when no entry has its ID. -/
theorem SummaryExit.missing_iff {result : SummaryResult} {outcome : Applied} {messageId : String}
    (h : SummaryExit self build result outcome after) :
    outcome = .ok (.error (.summaryMessageMissing messageId)) ↔
      messageId = self.messageId ∧ self.entries result = [] := by
  cases h with
  | missing hentries => simp [hentries, eq_comm]
  | duplicate hmany =>
      have hsome : self.entries result ≠ [] := List.ne_nil_of_length_pos (by omega)
      simp [hsome]
  | entry message _ _ hentries hmessage =>
      simp [hentries, (hmessage.not_counted messageId 0).1]

/-- A message is duplicated exactly when several entries have its ID. -/
theorem SummaryExit.duplicate_iff {result : SummaryResult} {outcome : Applied}
    {messageId : String} {count : Nat} (h : SummaryExit self build result outcome after) :
    outcome = .ok (.error (.duplicateSummaryMessage messageId count)) ↔
      messageId = self.messageId ∧ count = (self.entries result).length ∧
        2 ≤ (self.entries result).length := by
  cases h with
  | missing hentries => simp [hentries]
  | duplicate hmany => simp [hmany, eq_comm]
  | entry message _ _ hentries hmessage =>
      simp [hentries, (hmessage.not_counted messageId count).2]

end Entries

/-- Results with the same entries for a record have the same outcome and leave the same record,
and the outcome is that of the only entry unless there is none or there are several. -/
theorem other_entries_irrelevant (build : Build) {self : SubmissionRecord}
    {first second : SummaryResult} (h : self.entries first = self.entries second) :
    self.applySummaryResult build first = self.applySummaryResult build second ∧
      (∀ messageId, (self.applySummaryResult build first).1 =
          .ok (.error (.summaryMessageMissing messageId)) ↔
        messageId = self.messageId ∧ self.entries first = []) ∧
      (∀ messageId count, (self.applySummaryResult build first).1 =
          .ok (.error (.duplicateSummaryMessage messageId count)) ↔
        messageId = self.messageId ∧ count = (self.entries first).length ∧
          2 ≤ (self.entries first).length) ∧
      ∀ message, self.entries first = [message] →
        self.applySummaryResult build first = self.applySummaryMessage build message := by
  have hexit := self.apply_summary_result_exit build first
  refine ⟨?_, fun _ => hexit.missing_iff, fun _ _ => hexit.duplicate_iff, ?_⟩
  · rw [SubmissionRecord.apply_summary_result_entries, h,
      ← SubmissionRecord.apply_summary_result_entries]
  · intro message hentries
    rw [SubmissionRecord.apply_summary_result_entries, hentries]
    rfl

/-- The summary of the sample record alone, and among entries of other messages. -/
def aloneResult : SummaryResult := ⟨sampleRouting, [sampleSummary "m" 2 1 1]⟩

def crowdedResult : SummaryResult :=
  ⟨⟨⟨"87654321", none⟩, ⟨"FROM", none⟩, ⟨"PLATFORM", none⟩, ⟨"TO", some "Route"⟩⟩,
    [sampleSummary "other" 5 1 (-1), sampleSummary "m" 2 1 1, sampleSummary "" 0 0 0]⟩

/-- Other entries beside the own one make no difference. -/
theorem sample_other_entries :
    sampleRecord.applySummaryResult .checked aloneResult =
      sampleRecord.applySummaryResult .checked crowdedResult :=
  have hentries : sampleRecord.entries aloneResult = sampleRecord.entries crowdedResult := by decide
  (other_entries_irrelevant .checked hentries).1

end TwEinvoice.State
