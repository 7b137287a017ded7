import Mathlib.Order.Lattice
import Mathlib.Data.Nat.Basic
import Mathlib.Order.Compare
import TwEinvoice.Results.Summary

/-!
# The submission record

`SubmissionRecord` of the state crate with its four mutating operations. An operation returns
the value of the call together with the record it leaves behind; a call that panics leaves the
record as it was at the panic.
-/

namespace TwEinvoice.State

open Rust Results

/-- Monotonic transport progress of one submitted message. -/
inductive TransportState where
  | created
  | prepared
  | uploaded
  | enqueued
  | processObserved
  | summaryObserved
  deriving DecidableEq, Repr

/-- The place of a state in the declared order, which the derived `Ord` compares. -/
def TransportState.rank : TransportState → Nat
  | .created => 0
  | .prepared => 1
  | .uploaded => 2
  | .enqueued => 3
  | .processObserved => 4
  | .summaryObserved => 5

theorem TransportState.rank_injective : Function.Injective TransportState.rank := by
  intro first second h
  cases first <;> cases second <;> first | rfl | cases h

/-- Transport states are ordered as they are declared. -/
instance : LinearOrder TransportState :=
  LinearOrder.lift' TransportState.rank TransportState.rank_injective

@[simp] theorem TransportState.created_le (state : TransportState) : .created ≤ state :=
  Nat.zero_le _

@[simp] theorem TransportState.le_summary_observed (state : TransportState) :
    state ≤ .summaryObserved := by
  cases state <;> decide

/-- What a transport advance did. -/
inductive TransportAdvance where
  | advanced (from_ to_ : TransportState)
  | unchanged
  | ignoredStale (current attempted : TransportState)
  deriving DecidableEq, Repr

/-- Business outcome of a terminal summary. -/
inductive TerminalDisposition where
  | allGood
  | allFailed
  | partialSuccess
  deriving DecidableEq, Repr

/-- The accepted terminal summary. -/
structure TerminalSummary where
  disposition : TerminalDisposition
  total : UInt32
  good : UInt32
  failed : UInt32
  goodInvoices : List InvoiceReference
  failedInvoices : List InvoiceReference
  message : SummaryMessage
  deriving DecidableEq

/-- `TerminalSummary::from_validated_message`. -/
def TerminalSummary.fromValidatedMessage (message : SummaryMessage) :
    Except Panic TerminalSummary := do
  let total ← expect (u32TryFrom message.result.total.count)
    "validated SummaryMessage total count is non-negative"
  let good ← expect (u32TryFrom message.result.good.count)
    "validated SummaryMessage good count is non-negative"
  let failed ← expect (u32TryFrom message.result.failed.count)
    "validated SummaryMessage failed count is non-negative"
  let disposition :=
    if failed = 0 then TerminalDisposition.allGood
    else if good = 0 then .allFailed
    else .partialSuccess
  pure {
    disposition
    total
    good
    failed
    goodInvoices := message.result.good.invoices
    failedInvoices := message.result.failed.invoices
    message }

/-- Whether an accepted call changed the record. -/
inductive ApplyOutcome where
  | changed
  | unchangedReplay
  deriving DecidableEq, Repr

/-- Why `SubmissionRecord::new` fails. -/
inductive SubmissionInitError where
  | emptyMessageId
  | zeroExpectedQuantity
  deriving DecidableEq, Repr

/-- Why a result is rejected. -/
inductive ApplyError where
  | messageIdMismatch (expected actual : String)
  | summaryMessageMissing (messageId : String)
  | duplicateSummaryMessage (messageId : String) (count : Nat)
  | inconsistentSummary (messageId : String) (issues : List SummaryValidationIssue)
  | conflictingTerminalSummary (messageId : String) (existing incoming : TerminalSummary)
  deriving DecidableEq

/-- The state of one submission. -/
structure SubmissionRecord where
  messageId : String
  expectedQuantity : UInt32
  transport : TransportState
  processResults : List ProcessResult
  terminal : Option TerminalSummary
  deriving DecidableEq

/-- What a fallible operation returns, unless it panics. -/
abbrev Applied := Except Panic (Except ApplyError ApplyOutcome)

namespace SubmissionRecord

/-- `SubmissionRecord::new`. -/
def new (messageId : String) (expectedQuantity : UInt32) :
    Except SubmissionInitError SubmissionRecord :=
  if messageId.isEmpty then .error .emptyMessageId
  else if expectedQuantity = 0 then .error .zeroExpectedQuantity
  else .ok {
    messageId
    expectedQuantity
    transport := .created
    processResults := []
    terminal := none }

/-- `SubmissionRecord::advance_transport`. -/
def advanceTransport (self : SubmissionRecord) (target : TransportState) :
    TransportAdvance × SubmissionRecord :=
  match compare target self.transport with
  | .gt => (.advanced self.transport target, { self with transport := target })
  | .eq => (.unchanged, self)
  | .lt => (.ignoredStale self.transport target, self)

/-- `SubmissionRecord::ensure_message_id`. -/
def ensureMessageId (self : SubmissionRecord) (actual : String) : Except ApplyError Unit :=
  if actual = self.messageId then .ok ()
  else .error (.messageIdMismatch self.messageId actual)

/-- `SubmissionRecord::apply_process_result`. -/
def applyProcessResult (self : SubmissionRecord) (result : ProcessResult) :
    Applied × SubmissionRecord :=
  match self.ensureMessageId result.message.id with
  | .error error => (.ok (.error error), self)
  | .ok () =>
      if self.processResults.contains result then (.ok (.ok .unchangedReplay), self)
      else
        let self := { self with processResults := self.processResults ++ [result] }
        (.ok (.ok .changed), (self.advanceTransport .processObserved).2)

/-- `SubmissionRecord::apply_summary_message`. -/
def applySummaryMessage (build : Build) (self : SubmissionRecord) (message : SummaryMessage) :
    Applied × SubmissionRecord :=
  match self.ensureMessageId message.info.id with
  | .error error => (.ok (.error error), self)
  | .ok () =>
      match message.validationIssues build (some self.expectedQuantity) with
      | .error panic => (.error panic, self)
      | .ok issues =>
          if ¬ issues.isEmpty then
            (.ok (.error (.inconsistentSummary self.messageId issues)), self)
          else
            match TerminalSummary.fromValidatedMessage message with
            | .error panic => (.error panic, self)
            | .ok incoming =>
                match self.terminal with
                | some existing =>
                    if existing = incoming then (.ok (.ok .unchangedReplay), self)
                    else
                      (.ok (.error
                        (.conflictingTerminalSummary self.messageId existing incoming)), self)
                | none =>
                    let self := { self with terminal := some incoming }
                    (.ok (.ok .changed), (self.advanceTransport .summaryObserved).2)

/-- `SubmissionRecord::apply_summary_result`. The filtered iterator is advanced twice; the second
pass only counts. -/
def applySummaryResult (build : Build) (self : SubmissionRecord) (result : SummaryResult) :
    Applied × SubmissionRecord :=
  match result.messages.filter fun message => message.info.id = self.messageId with
  | [] => (.ok (.error (.summaryMessageMissing self.messageId)), self)
  | message :: matching =>
      if ¬ matching.isEmpty then
        let count := (result.messages.filter fun candidate =>
          candidate.info.id = self.messageId).length
        (.ok (.error (.duplicateSummaryMessage self.messageId count)), self)
      else self.applySummaryMessage build message

end SubmissionRecord

/-- One call a client can make on a record. -/
inductive Event where
  | advance (target : TransportState)
  | process (result : ProcessResult)
  | message (message : SummaryMessage)
  | summary (result : SummaryResult)

/-- The record after one call, whatever the call returned. -/
def SubmissionRecord.deliver (build : Build) (self : SubmissionRecord) :
    Event → SubmissionRecord
  | .advance target => (self.advanceTransport target).2
  | .process result => (self.applyProcessResult result).2
  | .message message => (self.applySummaryMessage build message).2
  | .summary result => (self.applySummaryResult build result).2

/-- The record after a sequence of calls. -/
def SubmissionRecord.deliverAll (build : Build) (self : SubmissionRecord)
    (events : List Event) : SubmissionRecord :=
  events.foldl (SubmissionRecord.deliver build) self

end TwEinvoice.State
