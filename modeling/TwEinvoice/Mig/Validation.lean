import TwEinvoice.Mig.F0401

/-!
# Validation of an F0401 invoice

The schema checks and the semantic checks of F0401. A function that pushes issues to a report
returns the extended report.
-/

namespace TwEinvoice.Mig

open Rust

/-- Validation issue independent from a particular XML implementation. -/
structure ValidationIssue where
  path : Option String
  code : String
  message : String
  deriving DecidableEq

/-- Result of schema and semantic validation. -/
structure ValidationReport where
  issues : List ValidationIssue
  deriving DecidableEq

/-- `ValidationReport::default`. -/
def ValidationReport.default : ValidationReport := ⟨[]⟩

/-- `ValidationReport::is_valid`. -/
def ValidationReport.isValid (report : ValidationReport) : Bool := report.issues.isEmpty

/-- `push_issue`. -/
def pushIssue (report : ValidationReport) (path code message : String) : ValidationReport :=
  ⟨report.issues ++ [⟨some path, code, message⟩]⟩

/-! ## Checks of one field -/

/-- `check_decimal`. -/
def checkDecimal (value : MigDecimal) (maxTotalDigits maxFractionDigits : Nat)
    (nonNegative : Bool) (path : String) (report : ValidationReport) : ValidationReport :=
  match MigDecimal.parse value.asStr maxTotalDigits maxFractionDigits nonNegative with
  | .error error => pushIssue report path "MIG_DECIMAL_CONSTRAINT" error.display
  | .ok _ => report

/-- `check_required_max`. -/
def checkRequiredMax (value : String) (max : Nat) (path : String) (report : ValidationReport) :
    ValidationReport :=
  let length := value.length
  if value.isEmpty || length > max then
    pushIssue report path "MIG_STRING_LENGTH"
      ("value must contain 1 through " ++ toString max ++ " characters")
  else report

/-- `check_max`. -/
def checkMax (value : Option String) (max : Nat) (path : String) (report : ValidationReport) :
    ValidationReport :=
  if value.any fun value => value.length > max then
    pushIssue report path "MIG_STRING_LENGTH"
      ("value must contain at most " ++ toString max ++ " characters")
  else report

/-- `check_exact`. -/
def checkExact (value : Option String) (length : Nat) (path : String) (report : ValidationReport) :
    ValidationReport :=
  if value.any fun value => value.length ≠ length then
    pushIssue report path "MIG_STRING_LENGTH"
      ("value must contain exactly " ++ toString length ++ " characters")
  else report

/-- `is_four_digits`. -/
def isFourDigits (value : String) : Bool := len value = 4 && (intoBytes value).all isAsciiDigit

/-- `validate_date`. -/
def validateDate (date : MigDate) (path : String) (report : ValidationReport) : ValidationReport :=
  if !date.isCalendarDate then
    pushIssue report path "MIG_DATE_NOT_GREGORIAN"
      "date passes the MIG lexical shape but is not a real Gregorian calendar date"
  else report

/-! ## Schema checks -/

/-- `validate_role_schema`. -/
def validateRoleSchema (role : RoleDescription) (path : String) (report : ValidationReport) :
    ValidationReport :=
  let report := checkRequiredMax role.name 60 (path ++ "/Name") report
  let report := checkMax role.address 100 (path ++ "/Address") report
  let report := checkMax role.personInCharge 30 (path ++ "/PersonInCharge") report
  let report := checkMax role.telephoneNumber 26 (path ++ "/TelephoneNumber") report
  let report := checkMax role.facsimileNumber 26 (path ++ "/FacsimileNumber") report
  let report := checkMax role.emailAddress 400 (path ++ "/EmailAddress") report
  let report := checkMax role.customerNumber 20 (path ++ "/CustomerNumber") report
  checkExact role.roleRemark 40 (path ++ "/RoleRemark") report

/-- `validate_main_schema`. -/
def validateMainSchema (main : F0401Main) (report : ValidationReport) : ValidationReport :=
  let report := validateRoleSchema main.seller "Invoice/Main/Seller" report
  let report := validateRoleSchema main.buyer "Invoice/Main/Buyer" report
  let report := checkMax main.mainRemark 200 "Invoice/Main/MainRemark" report
  let report := checkMax main.category 2 "Invoice/Main/Category" report
  let report := checkMax main.relateNumber 20 "Invoice/Main/RelateNumber" report
  let report := checkExact main.groupMark 1 "Invoice/Main/GroupMark" report
  let report := checkMax main.carrierType 6 "Invoice/Main/CarrierType" report
  let report := checkMax main.carrierId1 400 "Invoice/Main/CarrierId1" report
  let report := checkMax main.carrierId2 400 "Invoice/Main/CarrierId2" report
  let report := checkMax main.reserved1 20 "Invoice/Main/Reserved1" report
  let report := checkMax main.reserved2 100 "Invoice/Main/Reserved2" report
  if main.randomNumber.any fun value => !isFourDigits value then
    pushIssue report "Invoice/Main/RandomNumber" "F0401_RANDOM_NUMBER_FORMAT"
      "RandomNumber must contain exactly four ASCII digits"
  else report

/-- The `base` of the paths of an item. -/
def itemBase (index : Nat) : String := "Invoice/Details/ProductItem[" ++ toString (index + 1) ++ "]"

/-- The body of the loop of `validate_details_schema`. -/
def validateItemSchema (report : ValidationReport) (entry : ProductItem × Nat) :
    ValidationReport :=
  let (item, index) := entry
  let base := itemBase index
  let report := checkRequiredMax item.description 500 (base ++ "/Description") report
  let report := checkMax item.unit 6 (base ++ "/Unit") report
  let report := checkRequiredMax item.sequenceNumber 4 (base ++ "/SequenceNumber") report
  let report := checkMax item.remark 120 (base ++ "/Remark") report
  let report := checkMax item.relateNumber 50 (base ++ "/RelateNumber") report
  let report := checkDecimal item.quantity 20 7 false (base ++ "/Quantity") report
  let report := checkDecimal item.unitPrice 20 7 false (base ++ "/UnitPrice") report
  checkDecimal item.amount 20 7 false (base ++ "/Amount") report

/-- `validate_details_schema`. -/
def validateDetailsSchema (details : List ProductItem) (report : ValidationReport) :
    ValidationReport :=
  details.zipIdx.foldl validateItemSchema report

/-- `check_decimal` of a decimal that may be missing, which is not negative. -/
def checkOptionalDecimal (value : Option MigDecimal) (maxTotalDigits maxFractionDigits : Nat)
    (path : String) (report : ValidationReport) : ValidationReport :=
  match value with
  | some value => checkDecimal value maxTotalDigits maxFractionDigits true path report
  | none => report

/-- `validate_amount_schema`. -/
def validateAmountSchema (amount : F0401Amount) (report : ValidationReport) : ValidationReport :=
  let report := checkDecimal amount.salesAmount 20 7 true "Invoice/Amount/SalesAmount" report
  let report := checkDecimal amount.freeTaxSalesAmount 20 7 true
    "Invoice/Amount/FreeTaxSalesAmount" report
  let report := checkDecimal amount.zeroTaxSalesAmount 20 7 true
    "Invoice/Amount/ZeroTaxSalesAmount" report
  let report := checkDecimal amount.taxAmount 20 0 true "Invoice/Amount/TaxAmount" report
  let report := checkDecimal amount.totalAmount 20 7 true "Invoice/Amount/TotalAmount" report
  let report := checkOptionalDecimal amount.discountAmount 20 7
    "Invoice/Amount/DiscountAmount" report
  let report := checkOptionalDecimal amount.originalCurrencyAmount 20 7
    "Invoice/Amount/OriginalCurrencyAmount" report
  checkOptionalDecimal amount.exchangeRate 13 5 "Invoice/Amount/ExchangeRate" report

/-- `F0401Invoice::validate_schema_constraints`. -/
def F0401Invoice.validateSchemaConstraints (invoice : F0401Invoice) : ValidationReport :=
  let report := ValidationReport.default
  let report := validateMainSchema invoice.main report
  let report := validateDetailsSchema invoice.details report
  validateAmountSchema invoice.amount report

/-! ## Semantic checks -/

/-- The checks of `validate_semantics` of `RandomNumber`. -/
def validateRandomNumber (main : F0401Main) (report : ValidationReport) : ValidationReport :=
  match main.randomNumber, main.buyer.identifier.isB2cBuyer with
  | none, true =>
      pushIssue report "Invoice/Main/RandomNumber" "F0401_B2C_RANDOM_NUMBER_REQUIRED"
        "RandomNumber is required when the buyer identifier is 0000000000"
  | some _, false =>
      pushIssue report "Invoice/Main/RandomNumber" "F0401_B2B_RANDOM_NUMBER_FORBIDDEN"
        "RandomNumber must be omitted for a business or organization buyer"
  | _, _ => report

/-- The checks of `validate_semantics` of a printed invoice. -/
def validatePrintMark (main : F0401Main) (report : ValidationReport) : ValidationReport :=
  if main.printMark = .print then
    let report :=
      if main.carrierType.isSome || main.carrierId1.isSome || main.carrierId2.isSome then
        pushIssue report "Invoice/Main/PrintMark" "F0401_PRINT_WITH_CARRIER"
          "CarrierType, CarrierId1 and CarrierId2 must be omitted when PrintMark is Y"
      else report
    if main.donateMark ≠ .notDonated then
      pushIssue report "Invoice/Main/DonateMark" "F0401_PRINT_DONATION_CONFLICT"
        "DonateMark must be 0 when PrintMark is Y"
    else report
  else report

/-- The body of the loop of `validate_semantics`. -/
def validateItemSemantics (report : ValidationReport) (entry : ProductItem × Nat) :
    ValidationReport :=
  let (item, index) := entry
  let base := itemBase index
  let report :=
    if item.taxType = .mixed then
      pushIssue report (base ++ "/TaxType") "F0401_PRODUCT_MIXED_TAX_FORBIDDEN"
        "ProductItem TaxType must not use mixed-tax value 9"
    else report
  if item.sequenceNumber ≠ toString (index + 1) then
    pushIssue report (base ++ "/SequenceNumber") "F0401_SEQUENCE_NOT_CONTIGUOUS"
      "SequenceNumber should follow the invoice-detail order starting at 1"
  else report

/-- `F0401Invoice::validate_semantics`. -/
def F0401Invoice.validateSemantics (invoice : F0401Invoice) : ValidationReport :=
  let main := invoice.main
  let report := ValidationReport.default
  let report := validateDate main.invoiceDate "Invoice/Main/InvoiceDate" report
  let report :=
    if main.seller.address.all String.isEmpty then
      pushIssue report "Invoice/Main/Seller/Address" "F0401_SELLER_ADDRESS_REQUIRED"
        "seller Address is required for F0401"
    else report
  let buyerIsConsumer := main.buyer.identifier.isB2cBuyer
  let report :=
    if buyerIsConsumer && ["0", "00", "000", "0000"].contains main.buyer.name then
      pushIssue report "Invoice/Main/Buyer/Name" "F0401_B2C_BUYER_NAME_INVALID"
        "consumer identification text must not be 0, 00, 000 or 0000"
    else report
  let report := validateRandomNumber main report
  let report := validatePrintMark main report
  let zeroRated := invoice.amount.taxType = .zeroRated ||
    invoice.details.any fun item => item.taxType = .zeroRated
  let report :=
    if zeroRated && main.zeroTaxRateReason.isNone then
      pushIssue report "Invoice/Main/ZeroTaxRateReason" "F0401_ZERO_RATE_REASON_REQUIRED"
        "ZeroTaxRateReason is required when zero-rated tax is used"
    else report
  invoice.details.zipIdx.foldl validateItemSemantics report

/-- `F0401Invoice::validate`. -/
def F0401Invoice.validate (invoice : F0401Invoice) : ValidationReport :=
  ⟨invoice.validateSchemaConstraints.issues ++ invoice.validateSemantics.issues⟩

end TwEinvoice.Mig
