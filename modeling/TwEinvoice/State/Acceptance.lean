import TwEinvoice.State.Exits

/-!
# When a summary becomes terminal

`summary_accepted_iff` says exactly which counts a record without a terminal summary accepts. The
counts are compared as machine integers of four types, and the sum may wrap around, but the
checks together are exact over the mathematical integers.
-/

namespace TwEinvoice.State

open Rust Results

/-- The three conversions of `TerminalSummary::from_validated_message` succeed. -/
structure Converts (breakdown : ResultBreakdown) : Prop where
  total : ∃ total : UInt32, u32TryFrom breakdown.total.count = some total
  good : ∃ good : UInt32, u32TryFrom breakdown.good.count = some good
  failed : ∃ failed : UInt32, u32TryFrom breakdown.failed.count = some failed

/-- A count that is not negative converts to `u32`. -/
theorem u32_try_from_of_nonneg {value : Int32} (h : 0 ≤ value.toInt) :
    ∃ count : UInt32, u32TryFrom value = some count := by
  have hnonneg : ¬ value < 0 := by
    rw [lt_zero_iff]
    omega
  exact ⟨_, if_neg hnonneg⟩

/-- Consistent counts are not negative, and convert. -/
theorem consistent_converts {message : SummaryMessage}
    (h : message.Consistent) : Converts message.result :=
  ⟨u32_try_from_of_nonneg h.total.1, u32_try_from_of_nonneg h.good.1,
    u32_try_from_of_nonneg h.failed.1⟩

/-- The panicking conversions do not panic on a consistent message. -/
theorem Converts.from_validated_message {message : SummaryMessage}
    (h : Converts message.result) :
    ∃ summary, TerminalSummary.fromValidatedMessage message = .ok summary := by
  obtain ⟨total, htotal⟩ := h.total
  obtain ⟨good, hgood⟩ := h.good
  obtain ⟨failed, hfailed⟩ := h.failed
  unfold TerminalSummary.fromValidatedMessage
  rw [htotal, hgood, hfailed]
  exact ⟨_, rfl⟩

/-- The exits of a record without a terminal summary report a change exactly when the message is
accepted. -/
theorem MessageExit.changed_iff {build : Build} {record after : SubmissionRecord}
    {message : SummaryMessage} {outcome : Applied}
    (h : MessageExit record build message outcome after) (hterminal : record.terminal = none) :
    outcome = .ok (.ok .changed) ↔ ∃ summary, record.accepted build message = some summary := by
  cases h with
  | mismatch hid => simp [show record.accepted build message = none from if_neg hid]
  | panicked panic haccepted => simp [haccepted]
  | inconsistent issues hissues hsome => simp [rejected_of_issues hissues hsome]
  | replay existing hexisting => simp [hterminal] at hexisting
  | conflicting existing incoming hexisting => simp [hterminal] at hexisting
  | closed incoming _ haccepted => simp [haccepted]

/-- In either build, a record without a terminal summary accepts a message with its ID exactly
when the counts are not negative, the total is their integer sum and the expected quantity, and
every list that is not empty has the declared length. The conversions then succeed. -/
theorem summary_accepted_iff {record : SubmissionRecord} {message : SummaryMessage}
    (build : Build) (hterminal : record.terminal = none)
    (hid : message.info.id = record.messageId) :
    ((record.applySummaryMessage build message).1 = .ok (.ok .changed) ↔
      message.Consistent ∧ message.result.total.count.toInt = record.expectedQuantity.toNat) ∧
    (message.Consistent → Converts message.result) := by
  have hexit := record.apply_summary_message_exit build message
  refine ⟨(hexit.changed_iff hterminal).trans ?_, consistent_converts⟩
  simp only [SubmissionRecord.accepted, accepted_summary_eq_some, validation_issues_eq_nil]
  constructor
  · rintro ⟨_, _, hcounts, _⟩
    exact hcounts
  · rintro ⟨hconsistent, hquantity⟩
    obtain ⟨summary, hsummary⟩ := (consistent_converts hconsistent).from_validated_message
    exact ⟨summary, hid, ⟨hconsistent, hquantity⟩, hsummary⟩

/-- A record of three invoices, and its summary with two good ones. -/
def expectingRecord : SubmissionRecord := ⟨"m-1", 3, .enqueued, [], none⟩

def matchingMessage : SummaryMessage where
  info := ⟨"m-1", "1", "F0401", "S", "C0401"⟩
  result := ⟨⟨3, []⟩, ⟨2, [⟨"QQ12345678", "20261025"⟩, ⟨"QQ12345679", "20261025"⟩]⟩, ⟨1, []⟩⟩

theorem matching_summary_accepted :
    ((expectingRecord.applySummaryMessage .wrapping matchingMessage).1 = .ok (.ok .changed) ↔
      matchingMessage.Consistent ∧
        matchingMessage.result.total.count.toInt = expectingRecord.expectedQuantity.toNat) ∧
    (matchingMessage.Consistent → Converts matchingMessage.result) :=
  summary_accepted_iff .wrapping rfl rfl

end TwEinvoice.State
