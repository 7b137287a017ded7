import TwEinvoice.Rust.Machine

/-!
# Results returned by the platform

The `ProcessResult` and `SummaryResult` values of the results crate and the count checks
that a summary message must pass before it becomes a terminal outcome. Counts are 32-bit
signed integers read from a remote document. Their sum is computed by the machine, so the
checks are modelled for both builds of the crate: one that panics on overflow and one that
wraps around.
-/

namespace TwEinvoice.Results

open Rust

/-- Party identity of the routing tuple. -/
structure ResultParty where
  partyId : String
  description : Option String
  deriving DecidableEq, Repr

/-- Routing identity of the routing tuple. -/
structure ResultRoute where
  routingId : String
  description : Option String
  deriving DecidableEq, Repr

/-- Routing tuple common to both result messages. -/
structure ResultRouting where
  from_ : ResultParty
  fromVac : ResultRoute
  to_ : ResultParty
  toVac : ResultRoute
  deriving DecidableEq, Repr

/-- Message metadata of a `ProcessResult`. -/
structure ProcessMessageInfo where
  id : String
  size : String
  messageType : String
  service : String
  action : String
  deriving DecidableEq, Repr

/-- One diagnostic record. -/
structure ProcessDiagnostic where
  code : String
  description : Option String
  parameters : Vector (Option String) 5
  deriving DecidableEq, Repr

/-- Processing result of one package. -/
structure ProcessResult where
  routing : ResultRouting
  message : ProcessMessageInfo
  diagnostics : List ProcessDiagnostic
  deriving DecidableEq, Repr

/-- Message metadata of a `SummaryResult` entry. -/
structure SummaryMessageInfo where
  id : String
  size : String
  messageType : String
  service : String
  action : String
  deriving DecidableEq, Repr

/-- One invoice listed in a summary bucket. -/
structure InvoiceReference where
  referenceNumber : String
  invoiceDate : String
  deriving DecidableEq, Repr

/-- One bucket of a summary: a declared count and the listed invoices. -/
structure ResultDetail where
  count : Int32
  invoices : List InvoiceReference
  deriving DecidableEq

/-- The three buckets of a summary. -/
structure ResultBreakdown where
  total : ResultDetail
  good : ResultDetail
  failed : ResultDetail
  deriving DecidableEq

/-- One message entry of a `SummaryResult`. -/
structure SummaryMessage where
  info : SummaryMessageInfo
  result : ResultBreakdown
  deriving DecidableEq

/-- Reconciliation summary of one or more submitted messages. -/
structure SummaryResult where
  routing : ResultRouting
  messages : List SummaryMessage
  deriving DecidableEq

/-- The bucket an issue is about. -/
inductive ResultBucket where
  | total
  | good
  | failed
  deriving DecidableEq, Repr

/-- A count check that failed. -/
inductive SummaryValidationIssue where
  | negativeCount (bucket : ResultBucket) (count : Int32)
  | totalMismatch (total good failed : Int32)
  | expectedQuantityMismatch (expected : UInt32) (actual : Int32)
  | invoiceListCountMismatch (bucket : ResultBucket) (declared : Int32) (listed : Nat)
  deriving DecidableEq

/-! ## Count validation -/

/-- The two checks made on one bucket. -/
def bucketIssues (bucket : ResultBucket) (detail : ResultDetail) :
    List SummaryValidationIssue :=
  (if detail.count < 0 then [.negativeCount bucket detail.count] else []) ++
  (if ¬ detail.invoices.isEmpty ∧ usizeTryFrom detail.count ≠ some detail.invoices.length then
    [.invoiceListCountMismatch bucket detail.count detail.invoices.length] else [])

/-- `SummaryMessage::validation_issues`. The sum is formed even when a count is bad. -/
def SummaryMessage.validationIssues (build : Build) (self : SummaryMessage)
    (expectedQuantity : Option UInt32) : Except Panic (List SummaryValidationIssue) := do
  let buckets := [(ResultBucket.total, self.result.total), (.good, self.result.good),
    (.failed, self.result.failed)].flatMap fun (bucket, detail) => bucketIssues bucket detail
  let sum ← addI32 build self.result.good.count self.result.failed.count
  let total := if self.result.total.count ≠ sum then
    [.totalMismatch self.result.total.count self.result.good.count self.result.failed.count]
    else []
  let expected := match expectedQuantity with
    | some expected =>
        if self.result.total.count.toInt ≠ (expected.toNat : Int) then
          [.expectedQuantityMismatch expected self.result.total.count]
        else []
    | none => []
  pure (buckets ++ total ++ expected)

/-- What a bucket without issues states about its count and list. -/
def ResultDetail.Consistent (detail : ResultDetail) : Prop :=
  0 ≤ detail.count.toInt ∧
    (detail.invoices = [] ∨ (detail.invoices.length : Int) = detail.count.toInt)

/-- A bucket without issues is consistent. -/
theorem bucket_issues_eq_nil {bucket : ResultBucket} {detail : ResultDetail} :
    bucketIssues bucket detail = [] ↔ detail.Consistent := by
  have hneg := lt_zero_iff detail.count
  have hlist := usize_try_from_eq_some detail.count detail.invoices.length
  unfold bucketIssues ResultDetail.Consistent
  rw [List.append_eq_nil_iff]
  simp only [ite_eq_right_iff, reduceCtorEq, imp_false, hneg, not_lt, List.isEmpty_iff, not_and,
    ne_eq, not_not, hlist, ← or_iff_not_imp_left]

/-- The arithmetic a terminal summary rests on: consistent buckets, and a total that is the
exact sum of the two others. -/
structure SummaryMessage.Consistent (message : SummaryMessage) : Prop where
  total : message.result.total.Consistent
  good : message.result.good.Consistent
  failed : message.result.failed.Consistent
  sum : message.result.total.count.toInt =
    message.result.good.count.toInt + message.result.failed.count.toInt

/-- Validation against a quantity finds no issue exactly when the counts are consistent as
mathematical integers and the total is the quantity. Neither build can be fooled by overflow,
since a wrapped sum of two non-negative counts is negative. -/
theorem validation_issues_eq_nil {build : Build} {message : SummaryMessage} {quantity : UInt32} :
    message.validationIssues build (some quantity) = .ok [] ↔
      message.Consistent ∧ message.result.total.count.toInt = quantity.toNat := by
  have htotal := toInt_bounds message.result.total.count
  have hgood := toInt_bounds message.result.good.count
  have hfailed := toInt_bounds message.result.failed.count
  constructor
  · intro h
    cases hsum : addI32 build message.result.good.count message.result.failed.count with
    | error panic => simp [SummaryMessage.validationIssues, hsum, bind, Except.bind] at h
    | ok sum =>
        simp only [SummaryMessage.validationIssues, hsum, bind, Except.bind, pure, Except.pure,
          Except.ok.injEq, List.append_eq_nil_iff, List.flatMap_cons, List.flatMap_nil,
          bucket_issues_eq_nil, ite_eq_right_iff, reduceCtorEq, imp_false, ne_eq, not_not] at h
        obtain ⟨⟨⟨htotalOk, hgoodOk, hfailedOk, -⟩, hequal⟩, hquantity⟩ := h
        refine ⟨⟨htotalOk, hgoodOk, hfailedOk, ?_⟩, hquantity⟩
        -- Both parts are not negative, so a sum that wraps around is, and is no total.
        have hvalue := add_i32_toInt hsum
        rw [← hequal, bmod_two_pow_32] at hvalue
        have hgood0 := hgoodOk.1
        have hfailed0 := hfailedOk.1
        have htotal0 := htotalOk.1
        omega
  · rintro ⟨⟨htotalOk, hgoodOk, hfailedOk, hsum⟩, hquantity⟩
    have hadd : addI32 build message.result.good.count message.result.failed.count =
        .ok message.result.total.count := by
      have hvalue : message.result.good.count + message.result.failed.count =
          message.result.total.count := by
        rw [← Int32.toInt_inj, Int32.toInt_add, bmod_two_pow_32, hsum]
        omega
      have hfits : fitsI32 (message.result.good.count.toInt +
          message.result.failed.count.toInt) := by
        unfold fitsI32
        omega
      cases build <;> simp [addI32, hfits, hvalue]
    simp [SummaryMessage.validationIssues, hadd, bind, Except.bind, pure, Except.pure,
      bucket_issues_eq_nil, htotalOk, hgoodOk, hfailedOk, hquantity]

/-! ## Exact counts -/

/-- The issue of a total that is not the sum of its parts. -/
def SummaryValidationIssue.isTotalMismatch : SummaryValidationIssue → Bool
  | .totalMismatch .. => true
  | _ => false

/-- The total is the sum of the good and the failed count, as mathematical integers. -/
def SummaryMessage.SumsUp (message : SummaryMessage) : Prop :=
  message.result.total.count.toInt =
    message.result.good.count.toInt + message.result.failed.count.toInt

/-- The validation returns, and it reports a total mismatch exactly when the total is not the
mathematical sum. -/
def SummaryMessage.CountsExact (build : Build) (message : SummaryMessage)
    (quantity : Option UInt32) : Prop :=
  ∃ issues, message.validationIssues build quantity = .ok issues ∧
    (issues.any SummaryValidationIssue.isTotalMismatch ↔ ¬ message.SumsUp)

/-- A bucket says nothing about the sum. -/
theorem bucket_issues_no_mismatch (bucket : ResultBucket) (detail : ResultDetail) :
    (bucketIssues bucket detail).any SummaryValidationIssue.isTotalMismatch = false := by
  unfold bucketIssues
  split_ifs <;> rfl

/-- The validation returns exactly when the machine sum does not panic, and a mismatch is
reported exactly when the total is not that sum. -/
theorem validation_issues_of_sum {build : Build} {message : SummaryMessage}
    (quantity : Option UInt32) {sum : Int32}
    (hsum : addI32 build message.result.good.count message.result.failed.count = .ok sum) :
    ∃ issues, message.validationIssues build quantity = .ok issues ∧
      (issues.any SummaryValidationIssue.isTotalMismatch ↔
        message.result.total.count.toInt ≠ sum.toInt) := by
  unfold SummaryMessage.validationIssues
  rw [hsum]
  refine ⟨_, rfl, ?_⟩
  have hinj := Int32.toInt_inj (x := message.result.total.count) (y := sum)
  cases quantity <;> by_cases hequal : message.result.total.count = sum <;>
    simp [bucket_issues_no_mismatch, hinj, hequal, SummaryValidationIssue.isTotalMismatch]

/-- A build that wraps around is wrong exactly when the total is the wrapped sum but not the
sum. -/
theorem wrapping_counts_exact_iff (message : SummaryMessage) (quantity : Option UInt32) :
    message.CountsExact .wrapping quantity ↔
      (message.result.total.count = message.result.good.count + message.result.failed.count →
        message.SumsUp) := by
  obtain ⟨issues, hissues, hmismatch⟩ :=
    @validation_issues_of_sum .wrapping message quantity _ rfl
  have hsum : message.SumsUp →
      message.result.total.count = message.result.good.count + message.result.failed.count := by
    intro hsumsUp
    have hbounds := toInt_bounds message.result.total.count
    rw [← Int32.toInt_inj, Int32.toInt_add, bmod_two_pow_32]
    unfold SummaryMessage.SumsUp at hsumsUp
    omega
  rw [ne_eq, Int32.toInt_inj] at hmismatch
  constructor
  · rintro ⟨_, hothers, hexact⟩ hequal
    cases hissues.symm.trans hothers
    by_contra hsumsUp
    exact hmismatch.1 (hexact.2 hsumsUp) hequal
  · intro hequal
    exact ⟨issues, hissues, hmismatch.trans (not_congr ⟨hequal, hsum⟩)⟩

/-- In both builds the counts are validated exactly as long as the sum of the good and the failed
count is an `i32`. -/
theorem counts_exact_iff (message : SummaryMessage) (quantity : Option UInt32) :
    (∀ build, message.CountsExact build quantity) ↔
      fitsI32 (message.result.good.count.toInt + message.result.failed.count.toInt) := by
  constructor
  · intro hexact
    obtain ⟨issues, hissues, _⟩ := hexact .checked
    obtain ⟨sum, hsum, _⟩ := ok_of_bind_ok hissues
    by_contra hfits
    rw [addI32, if_neg hfits] at hsum
    cases hsum
  · intro hfits build
    have hsum : addI32 build message.result.good.count message.result.failed.count =
        .ok (message.result.good.count + message.result.failed.count) := by
      cases build with
      | wrapping => rfl
      | checked => exact if_pos hfits
    obtain ⟨issues, hissues, hmismatch⟩ := validation_issues_of_sum quantity hsum
    refine ⟨issues, hissues, hmismatch.trans (not_congr ?_)⟩
    have hvalue := add_i32_toInt hsum
    rw [bmod_two_pow_32] at hvalue
    unfold fitsI32 at hfits
    unfold SummaryMessage.SumsUp
    omega

/-- Counts whose sum is `2 ^ 31`, with the total that it wraps around to. -/
def overflowingMessage : SummaryMessage where
  info := ⟨"1", "1", "F0401", "S", "C0401"⟩
  result := ⟨⟨-2147483648, []⟩, ⟨2147483647, []⟩, ⟨1, []⟩⟩

/-- The validation of these counts panics in one build and reports no mismatch in the other. -/
theorem overflowing_counts_not_exact :
    overflowingMessage.validationIssues .checked none = .error .addOverflow ∧
      overflowingMessage.validationIssues .wrapping none =
        .ok [.negativeCount .total (-2147483648)] ∧
      ¬ overflowingMessage.SumsUp :=
  ⟨rfl, rfl, by unfold SummaryMessage.SumsUp; decide⟩

end TwEinvoice.Results
