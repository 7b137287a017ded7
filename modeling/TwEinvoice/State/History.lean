import TwEinvoice.State.Invariant

/-!
# Histories of a record

Properties of whole runs of the record operations: the representation invariant, the growth of
the history, the harmlessness of repeated delivery and the irrelevance of delivery order. Each
is the corresponding law of `EventLog.Journal`, carried over by `deliver_all_journal`.
-/

namespace TwEinvoice.State

open Rust Results EventLog

/-! ## Sample values -/

/-- A routing tuple. -/
def sampleRouting : ResultRouting where
  from_ := ⟨"12345678", none⟩
  fromVac := ⟨"FROM", none⟩
  to_ := ⟨"PLATFORM", none⟩
  toVac := ⟨"TO", none⟩

/-- A process result of the message `id` with one diagnostic. -/
def sampleProcess (id code : String) : ProcessResult where
  routing := sampleRouting
  message := ⟨id, "123", "F0401", "S", "C0401"⟩
  diagnostics := [⟨code, some "synthetic diagnostic", Vector.replicate 5 none⟩]

/-- A summary message of the message `id`. -/
def sampleSummary (id : String) (total good failed : Int32) : SummaryMessage where
  info := ⟨id, "123", "F0401", "S", "C0401"⟩
  result := ⟨⟨total, []⟩, ⟨good, []⟩, ⟨failed, []⟩⟩

/-- A record right after `new`. -/
def sampleRecord : SubmissionRecord where
  messageId := "m"
  expectedQuantity := 2
  transport := .created
  processResults := []
  terminal := none

theorem new_sample_record : SubmissionRecord.new "m" 2 = .ok sampleRecord := by decide

/-- A log with a rejected summary, an accepted one, and a late process result. -/
def sampleLog : List Event :=
  [.advance .prepared, .message (sampleSummary "m" 1 1 0), .message (sampleSummary "m" 2 2 0),
    .process (sampleProcess "m" "LATE")]

/-- The summary entries an event carries. -/
def Event.entries : Event → List SummaryMessage
  | .message entry => [entry]
  | .summary result => result.messages
  | .advance _ | .process _ => []

namespace SubmissionRecord

/-! ## The representation invariant -/

/-- The representation invariant holds of every record that any finite sequence of operations,
failing ones included, leads to from `new`. -/
theorem reachable_well_formed (build : Build) (record : SubmissionRecord)
    (h : Reachable build record) : record.WellFormed :=
  h.wellFormed

theorem sample_log_well_formed :
    Reachable .checked (sampleRecord.deliverAll .checked sampleLog) ∧
      (sampleRecord.deliverAll .checked sampleLog).WellFormed :=
  ⟨⟨_, _, _, _, new_sample_record, rfl⟩,
    reachable_well_formed .checked _ ⟨_, _, _, _, new_sample_record, rfl⟩⟩

/-! ## Growth -/

/-- A later record of the same submission: the same identity, a transport state that is no
earlier, more process results at the end, and the same terminal summary once there is one. -/
structure Continues (earlier later : SubmissionRecord) : Prop where
  messageId : later.messageId = earlier.messageId
  expectedQuantity : later.expectedQuantity = earlier.expectedQuantity
  transport : earlier.transport ≤ later.transport
  processResults : earlier.processResults <+: later.processResults
  terminal : ∀ summary, earlier.terminal = some summary → later.terminal = some summary

theorem Continues.refl (record : SubmissionRecord) : Continues record record :=
  ⟨rfl, rfl, le_rfl, List.prefix_rfl, fun _ h => h⟩

theorem Continues.trans {first second third : SubmissionRecord} (h : Continues first second)
    (hnext : Continues second third) : Continues first third :=
  ⟨hnext.messageId.trans h.messageId, hnext.expectedQuantity.trans h.expectedQuantity,
    h.transport.trans hnext.transport, h.processResults.trans hnext.processResults,
    fun summary hsummary => hnext.terminal summary (h.terminal summary hsummary)⟩

variable {build : Build} {self : SubmissionRecord}

/-- A run of operations continues the record. -/
theorem deliver_all_continues (h : self.WellFormed) (events : List Event) :
    Continues self (self.deliverAll build events) := by
  have hjournal := deliver_all_journal build h events
  have hgrowth := Journal.foldl_absorb_extends self.journal
    (events.map (Event.contribution build self.messageId self.expectedQuantity))
  rw [← hjournal] at hgrowth
  obtain ⟨hid, hquantity⟩ := deliver_all_identity build h events
  exact ⟨hid, hquantity, hgrowth.level, hgrowth.observed, hgrowth.verdict⟩

/-- The operation that makes a submission terminal applies a summary message of the submission
that passed validation. -/
theorem deliver_terminal (h : self.WellFormed) {event : Event} {summary : TerminalSummary}
    (hnone : self.terminal = none) (hsome : (self.deliver build event).terminal = some summary) :
    ∃ message,
      (event = .message message ∨ ∃ result, event = .summary result ∧
        (result.messages.filter fun entry => entry.info.id = self.messageId) = [message]) ∧
      message.info.id = self.messageId ∧
      message.validationIssues build (some self.expectedQuantity) = .ok [] ∧
      summary.message = message := by
  rw [deliver_eq h] at hsome
  have hverdict : (event.contribution build self.messageId self.expectedQuantity).verdict =
      some summary := by
    simpa [absorb, withJournal, journal, Journal.absorb, hnone] using hsome
  obtain ⟨message, haccepted, hevent⟩ := contribution_verdict hverdict
  obtain ⟨hid, hissues, -⟩ := accepted_summary_eq_some.mp haccepted
  have hquantity := UInt32.pos_iff_ne_zero.mp h.expectedQuantity
  exact ⟨message, hevent, hid, hissues, (accepted_summary_agrees hquantity haccepted).2⟩

/-- The history of a reachable record is monotone along every further run, and the terminal
summary appears only in a step that applies a summary message accepted by validation. -/
theorem history_monotone (build : Build) (record : SubmissionRecord)
    (h : Reachable build record) :
    (∀ events, Continues record (record.deliverAll build events)) ∧
    ∀ event summary, record.terminal = none →
      (record.deliver build event).terminal = some summary →
      ∃ message,
        (event = .message message ∨ ∃ result, event = .summary result ∧
          (result.messages.filter fun entry => entry.info.id = record.messageId) = [message]) ∧
        message.info.id = record.messageId ∧
        message.validationIssues build (some record.expectedQuantity) = .ok [] ∧
        summary.message = message :=
  ⟨fun events => deliver_all_continues h.wellFormed events,
    fun _ _ hnone hsome => deliver_terminal h.wellFormed hnone hsome⟩

theorem sample_history_monotone :
    Continues sampleRecord (sampleRecord.deliverAll .wrapping sampleLog) :=
  (history_monotone .wrapping sampleRecord ⟨_, _, _, [], new_sample_record, rfl⟩).1 sampleLog

/-! ## Repeated delivery -/

/-- Delivering again any events of a run, in any order, leaves the record as it is. -/
theorem deliver_all_replay (h : self.WellFormed) {events replayed : List Event}
    (hmem : ∀ event ∈ replayed, event ∈ events) :
    (self.deliverAll build events).deliverAll build replayed = self.deliverAll build events := by
  obtain ⟨hwell, heq⟩ := deliver_all_spec build h events
  obtain ⟨hid, hquantity⟩ := deliver_all_identity build h events
  have hreplay : replayed.map (Event.contribution build self.messageId self.expectedQuantity) ⊆
      events.map (Event.contribution build self.messageId self.expectedQuantity) :=
    List.map_subset _ hmem
  rw [(deliver_all_spec build hwell replayed).2, hid, hquantity, deliver_all_journal build h events,
    Journal.foldl_absorb_replay hreplay, ← deliver_all_journal build h events]
  rfl

/-- At-least-once delivery is harmless: an event that occurred anywhere in a run leaves the
record exactly as it is when it is delivered again, and so does a whole log however often it is
replayed. -/
theorem redelivery_harmless (build : Build) (messageId : String) (quantity : UInt32)
    (created : SubmissionRecord) (hnew : new messageId quantity = .ok created)
    (events : List Event) :
    (∀ event ∈ events, (created.deliverAll build events).deliver build event =
      created.deliverAll build events) ∧
    ∀ times, created.deliverAll build (List.replicate (times + 1) events).flatten =
      created.deliverAll build events := by
  have hwell := new_well_formed hnew
  constructor
  · intro event hevent
    have hsingle : ∀ other ∈ [event], other ∈ events := by simpa using hevent
    exact deliver_all_replay hwell hsingle
  · intro times
    rw [List.replicate_succ, List.flatten_cons, deliverAll, List.foldl_append]
    refine deliver_all_replay hwell fun event hevent => ?_
    obtain ⟨log, hlog, hmem⟩ := List.mem_flatten.mp hevent
    rwa [List.eq_of_mem_replicate hlog] at hmem

theorem sample_redelivery_harmless :
    new "m" 2 = .ok sampleRecord ∧
      (sampleRecord.deliverAll .checked sampleLog).deliver .checked
        (.message (sampleSummary "m" 1 1 0)) = sampleRecord.deliverAll .checked sampleLog :=
  ⟨new_sample_record,
    (redelivery_harmless .checked "m" 2 sampleRecord new_sample_record sampleLog).1 _
      (by simp [sampleLog])⟩

/-! ## Delivery order -/

/-- A verdict among the contributions of a log comes from a summary entry of the log. -/
theorem mem_verdicts {messageId : String} {quantity : UInt32} {events : List Event}
    {summary : TerminalSummary}
    (h : summary ∈ (events.map (Event.contribution build messageId quantity)).filterMap
      Contribution.verdict) :
    ∃ message ∈ events.flatMap Event.entries, message.info.id = messageId ∧
      message.validationIssues build (some quantity) = .ok [] ∧
      TerminalSummary.fromValidatedMessage message = .ok summary := by
  obtain ⟨contribution, hcontribution, hverdict⟩ := List.mem_filterMap.mp h
  obtain ⟨event, hevent, rfl⟩ := List.mem_map.mp hcontribution
  obtain ⟨message, haccepted, hsource⟩ := contribution_verdict hverdict
  refine ⟨message, List.mem_flatMap.mpr ⟨event, hevent, ?_⟩,
    accepted_summary_eq_some.mp haccepted⟩
  rcases hsource with rfl | ⟨result, rfl, hfilter⟩
  · simp [Event.entries]
  · have hmem : message ∈ result.messages.filter fun entry => entry.info.id = messageId := by
      simp [hfilter]
    exact (List.mem_filter.mp hmem).1

/-- Delivery order does not matter: two permutations of the same events lead to the same
transport state and to the same process results up to order, and to the same terminal summary
when the entries that could become terminal are all equal. -/
theorem delivery_order_irrelevant (build : Build) (messageId : String) (quantity : UInt32)
    (created : SubmissionRecord) (hnew : new messageId quantity = .ok created)
    (events permuted : List Event) (hperm : events.Perm permuted) :
    (created.deliverAll build events).transport =
        (created.deliverAll build permuted).transport ∧
      (created.deliverAll build events).processResults.Perm
        (created.deliverAll build permuted).processResults ∧
      ((∀ first ∈ events.flatMap Event.entries, ∀ second ∈ events.flatMap Event.entries,
          first.info.id = messageId →
          first.validationIssues build (some quantity) = .ok [] →
          second.info.id = messageId →
          second.validationIssues build (some quantity) = .ok [] → first = second) →
        (created.deliverAll build events).terminal =
          (created.deliverAll build permuted).terminal) := by
  have hwell := new_well_formed hnew
  have hcontributions := hperm.map (Event.contribution build created.messageId
    created.expectedQuantity)
  have hidentity : created.messageId = messageId ∧ created.expectedQuantity = quantity :=
    new_identity hnew
  have hfirst := deliver_all_journal build hwell events
  have hsecond := deliver_all_journal build hwell permuted
  refine ⟨?_, ?_, fun hagree => ?_⟩
  · exact (congrArg Journal.level hfirst).trans
      ((Journal.level_perm hcontributions).trans (congrArg Journal.level hsecond).symm)
  · have hobserved := Journal.observed_perm hcontributions
      (show created.journal.observed.Nodup from hwell.resultsNodup)
    rw [← hfirst, ← hsecond] at hobserved
    exact hobserved
  · -- The first verdict of a log may depend on the order, so all verdicts must be equal.
    refine (congrArg Journal.verdict hfirst).trans
      ((Journal.verdict_perm hcontributions ?_).trans (congrArg Journal.verdict hsecond).symm)
    intro first hfirstMem second hsecondMem
    obtain ⟨message, hmessage, hid, hissues, hsummary⟩ := mem_verdicts hfirstMem
    obtain ⟨other, hother, hotherId, hotherIssues, hotherSummary⟩ := mem_verdicts hsecondMem
    rw [hidentity.1] at hid hotherId
    rw [hidentity.2] at hissues hotherIssues
    obtain rfl := hagree message hmessage other hother hid hissues hotherId hotherIssues
    rw [hsummary] at hotherSummary
    exact Except.ok.inj hotherSummary

theorem sample_delivery_order_irrelevant :
    sampleLog.Perm sampleLog.reverse ∧
      (sampleRecord.deliverAll .checked sampleLog).transport =
        (sampleRecord.deliverAll .checked sampleLog.reverse).transport :=
  ⟨(List.reverse_perm sampleLog).symm,
    (delivery_order_irrelevant .checked "m" 2 sampleRecord new_sample_record sampleLog
      sampleLog.reverse (List.reverse_perm sampleLog).symm).1⟩

end SubmissionRecord

end TwEinvoice.State
