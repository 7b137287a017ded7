import TwEinvoice.Mig.Validation
import Mathlib.Data.List.Nodup
import Mathlib.Tactic.Push

/-!
# The facets of F0401

The table of the fields that the schema of F0401 constrains: where each field is, its text in an
invoice and its facet. The schema checks report exactly the fields whose facet is violated, each
once and at its own path.
-/

namespace TwEinvoice.Mig

open Rust

/-! ## Facets -/

/-- A constraint on the text of a field. -/
inductive Facet where
  | required (max : Nat)
  | atMost (max : Nat)
  | exactly (length : Nat)
  | fourDigits
  | decimal (totalDigits fractionDigits : Nat) (nonNegative : Bool)

/-- The text satisfies the facet. Lengths are in characters. -/
def Facet.Holds : Facet → String → Prop
  | .required max, text => 1 ≤ text.length ∧ text.length ≤ max
  | .atMost max, text => text.length ≤ max
  | .exactly length, text => text.length = length
  | .fourDigits, text => text.length = 4 ∧ ∀ character ∈ text.toList, character.isDigit = true
  | .decimal totalDigits fractionDigits nonNegative, text =>
      digits text.toList ≤ totalDigits ∧ digits (fromPoint text.toList) ≤ fractionDigits ∧
        (nonNegative = true → '-' ∉ text.toList)

instance (facet : Facet) (text : String) : Decidable (facet.Holds text) :=
  match facet with
  | .required _ => inferInstanceAs (Decidable (_ ∧ _))
  | .atMost _ => inferInstanceAs (Decidable (_ ≤ _))
  | .exactly _ => inferInstanceAs (Decidable (_ = _))
  | .fourDigits => inferInstanceAs (Decidable (_ ∧ _))
  | .decimal .. => inferInstanceAs (Decidable (_ ∧ _ ∧ _))

/-- The issue of a text that violates the facet. -/
def Facet.issue (path : String) : Facet → String → ValidationIssue
  | .required max, _ => ⟨some path, "MIG_STRING_LENGTH",
      "value must contain 1 through " ++ toString max ++ " characters"⟩
  | .atMost max, _ => ⟨some path, "MIG_STRING_LENGTH",
      "value must contain at most " ++ toString max ++ " characters"⟩
  | .exactly length, _ => ⟨some path, "MIG_STRING_LENGTH",
      "value must contain exactly " ++ toString length ++ " characters"⟩
  | .fourDigits, _ => ⟨some path, "F0401_RANDOM_NUMBER_FORMAT",
      "RandomNumber must contain exactly four ASCII digits"⟩
  | .decimal totalDigits fractionDigits nonNegative, text => ⟨some path, "MIG_DECIMAL_CONSTRAINT",
      if nonNegative ∧ '-' ∈ text.toList then PrimitiveError.negativeDecimal.display
      else (PrimitiveError.decimalPrecision totalDigits fractionDigits).display⟩

/-- Every issue names the field that it is about. -/
theorem Facet.issue_path (path : String) (facet : Facet) (text : String) :
    (facet.issue path text).path = some path := by
  cases facet <;> rfl

/-- The issues of a field that may be missing. -/
def Facet.issues (facet : Facet) (path : String) (text : Option String) : List ValidationIssue :=
  match text with
  | some text => if facet.Holds text then [] else [facet.issue path text]
  | none => []

/-! ## Checks and facets -/

/-- A check that pushes its issue if the text violates the facet, and nothing otherwise. -/
theorem Facet.issues_of_check {facet : Facet} {path text : String}
    {report checked : ValidationReport} (hholds : facet.Holds text → checked = report)
    (hviolated : ¬ facet.Holds text → checked.issues = report.issues ++ [facet.issue path text]) :
    checked.issues = report.issues ++ facet.issues path (some text) := by
  show _ = report.issues ++ if facet.Holds text then [] else [facet.issue path text]
  split_ifs with h
  · rw [hholds h, List.append_nil]
  · exact hviolated h

theorem check_required_max_issues (value : String) (max : Nat) (path : String)
    (report : ValidationReport) :
    (checkRequiredMax value max path report).issues =
      report.issues ++ (Facet.required max).issues path (some value) := by
  have hempty : value.isEmpty = true ↔ value.length = 0 := by
    rw [String.isEmpty_iff, String.length_eq_zero_iff]
  refine Facet.issues_of_check (fun hholds => ?_) fun hviolated => ?_
  all_goals simp only [checkRequiredMax, Facet.Holds, Bool.or_eq_true, hempty,
    decide_eq_true_eq] at *
  · exact if_neg (by omega)
  · rw [if_pos (by omega)]
    rfl

theorem check_max_issues (value : Option String) (max : Nat) (path : String)
    (report : ValidationReport) :
    (checkMax value max path report).issues =
      report.issues ++ (Facet.atMost max).issues path value := by
  cases value with
  | none => exact (List.append_nil _).symm
  | some value =>
      refine Facet.issues_of_check (fun hholds => ?_) fun hviolated => ?_
      all_goals simp only [checkMax, Facet.Holds, Option.any_some, decide_eq_true_eq] at *
      · exact if_neg (Nat.not_lt.2 hholds)
      · rw [if_pos (Nat.not_le.1 hviolated)]
        rfl

theorem check_exact_issues (value : Option String) (length : Nat) (path : String)
    (report : ValidationReport) :
    (checkExact value length path report).issues =
      report.issues ++ (Facet.exactly length).issues path value := by
  cases value with
  | none => exact (List.append_nil _).symm
  | some value =>
      refine Facet.issues_of_check (fun hholds => ?_) fun hviolated => ?_
      all_goals simp only [checkExact, Facet.Holds, Option.any_some, decide_eq_true_eq] at *
      · exact if_neg (not_not.2 hholds)
      · rw [if_pos hviolated]
        rfl

/-- A parse of a decimal fails by its sign or by its precision. -/
theorem check_decimal_eq (decimal : MigDecimal) (maxTotalDigits maxFractionDigits : Nat)
    (nonNegative : Bool) :
    MigDecimal.check decimal.asStr maxTotalDigits maxFractionDigits nonNegative =
      if nonNegative = true ∧ '-' ∈ decimal.asStr.toList then .error .negativeDecimal
      else if digits decimal.asStr.toList ≤ maxTotalDigits ∧
          digits (fromPoint decimal.asStr.toList) ≤ maxFractionDigits then .ok ()
      else .error (.decimalPrecision maxTotalDigits maxFractionDigits) := by
  obtain ⟨htotal, hfraction, hminus⟩ := MigDecimal.canonical_digits decimal.canonical
  obtain ⟨hunsigned, hmalformed⟩ := decimal.canonical
  rw [MigDecimal.check, hunsigned, hmalformed, htotal, hfraction]
  simp only [Bool.false_eq_true, if_false, Bool.and_eq_true, hminus, Bool.or_eq_true,
    decide_eq_true_eq]
  split_ifs with hnegative hprecision hholds hholds
  · rfl
  · omega
  · rfl
  · rfl
  · omega

theorem check_decimal_issues (value : MigDecimal) (maxTotalDigits maxFractionDigits : Nat)
    (nonNegative : Bool) (path : String) (report : ValidationReport) :
    (checkDecimal value maxTotalDigits maxFractionDigits nonNegative path report).issues =
      report.issues ++ (Facet.decimal maxTotalDigits maxFractionDigits nonNegative).issues path
        (some value.asStr) := by
  have hcheck := check_decimal_eq value maxTotalDigits maxFractionDigits nonNegative
  refine Facet.issues_of_check (fun ⟨htotal, hfraction, hsign⟩ => ?_) fun hviolated => ?_
  · rw [if_neg (fun h => hsign h.1 h.2), if_pos ⟨htotal, hfraction⟩] at hcheck
    rw [checkDecimal, value.parse_ok hcheck]
  · by_cases hnegative : nonNegative = true ∧ '-' ∈ value.asStr.toList
    · rw [if_pos hnegative] at hcheck
      rw [checkDecimal, MigDecimal.parse_error hcheck, Facet.issue, if_pos hnegative]
      rfl
    · have hprecision : ¬ (digits value.asStr.toList ≤ maxTotalDigits ∧
          digits (fromPoint value.asStr.toList) ≤ maxFractionDigits) := fun h =>
        hviolated ⟨h.1, h.2, fun hsign hminus => hnegative ⟨hsign, hminus⟩⟩
      rw [if_neg hnegative, if_neg hprecision] at hcheck
      rw [checkDecimal, MigDecimal.parse_error hcheck, Facet.issue, if_neg hnegative]
      rfl

theorem check_optional_decimal_issues (value : Option MigDecimal)
    (maxTotalDigits maxFractionDigits : Nat) (path : String) (report : ValidationReport) :
    (checkOptionalDecimal value maxTotalDigits maxFractionDigits path report).issues =
      report.issues ++ (Facet.decimal maxTotalDigits maxFractionDigits true).issues path
        (value.map MigDecimal.asStr) := by
  cases value with
  | none => exact (List.append_nil _).symm
  | some value => exact check_decimal_issues value maxTotalDigits maxFractionDigits true path report

/-- Four bytes that are digits are four characters that are. -/
theorem four_digits_iff (value : String) :
    isFourDigits value = true ↔ Facet.fourDigits.Holds value := by
  rw [isFourDigits, Bool.and_eq_true, decide_eq_true_eq, all_ascii_digit_iff]
  refine and_congr_left fun hdigits => ?_
  rw [len_digits hdigits, String.length_toList]

theorem random_number_issues (value : Option String) (report : ValidationReport) :
    (if value.any fun value => !isFourDigits value then
        pushIssue report "Invoice/Main/RandomNumber" "F0401_RANDOM_NUMBER_FORMAT"
          "RandomNumber must contain exactly four ASCII digits"
      else report).issues =
      report.issues ++ Facet.fourDigits.issues "Invoice/Main/RandomNumber" value := by
  cases value with
  | none => exact (List.append_nil _).symm
  | some value =>
      rw [Option.any_some]
      refine Facet.issues_of_check (fun hholds => ?_) fun hviolated => ?_
      · rw [(four_digits_iff value).2 hholds]
        rfl
      · rw [Bool.eq_false_iff.2 fun h => hviolated ((four_digits_iff value).1 h)]
        rfl

/-! ## The table of the fields -/

inductive RoleField where
  | name | address | personInCharge | telephoneNumber | facsimileNumber | emailAddress
  | customerNumber | roleRemark
  deriving DecidableEq

inductive MainField where
  | mainRemark | category | relateNumber | groupMark | carrierType | carrierId1 | carrierId2
  | reserved1 | reserved2 | randomNumber
  deriving DecidableEq

inductive ItemField where
  | description | unit | sequenceNumber | remark | relateNumber | quantity | unitPrice | amount
  deriving DecidableEq

inductive AmountField where
  | salesAmount | freeTaxSalesAmount | zeroTaxSalesAmount | taxAmount | totalAmount
  | discountAmount | originalCurrencyAmount | exchangeRate
  deriving DecidableEq

/-- A field that has a facet. Items are counted from 0. -/
inductive Field where
  | seller (field : RoleField)
  | buyer (field : RoleField)
  | main (field : MainField)
  | item (index : Nat) (field : ItemField)
  | amount (field : AmountField)
  deriving DecidableEq

namespace RoleField

def all : List RoleField :=
  [name, address, personInCharge, telephoneNumber, facsimileNumber, emailAddress, customerNumber,
    roleRemark]

def step : RoleField → String
  | name => "/Name"
  | address => "/Address"
  | personInCharge => "/PersonInCharge"
  | telephoneNumber => "/TelephoneNumber"
  | facsimileNumber => "/FacsimileNumber"
  | emailAddress => "/EmailAddress"
  | customerNumber => "/CustomerNumber"
  | roleRemark => "/RoleRemark"

def facet : RoleField → Facet
  | name => .required 60
  | address => .atMost 100
  | personInCharge => .atMost 30
  | telephoneNumber => .atMost 26
  | facsimileNumber => .atMost 26
  | emailAddress => .atMost 400
  | customerNumber => .atMost 20
  | roleRemark => .exactly 40

def text (role : RoleDescription) : RoleField → Option String
  | name => some role.name
  | address => role.address
  | personInCharge => role.personInCharge
  | telephoneNumber => role.telephoneNumber
  | facsimileNumber => role.facsimileNumber
  | emailAddress => role.emailAddress
  | customerNumber => role.customerNumber
  | roleRemark => role.roleRemark

end RoleField

namespace MainField

def all : List MainField :=
  [mainRemark, category, relateNumber, groupMark, carrierType, carrierId1, carrierId2, reserved1,
    reserved2, randomNumber]

def path : MainField → String
  | mainRemark => "Invoice/Main/MainRemark"
  | category => "Invoice/Main/Category"
  | relateNumber => "Invoice/Main/RelateNumber"
  | groupMark => "Invoice/Main/GroupMark"
  | carrierType => "Invoice/Main/CarrierType"
  | carrierId1 => "Invoice/Main/CarrierId1"
  | carrierId2 => "Invoice/Main/CarrierId2"
  | reserved1 => "Invoice/Main/Reserved1"
  | reserved2 => "Invoice/Main/Reserved2"
  | randomNumber => "Invoice/Main/RandomNumber"

def facet : MainField → Facet
  | mainRemark => .atMost 200
  | category => .atMost 2
  | relateNumber => .atMost 20
  | groupMark => .exactly 1
  | carrierType => .atMost 6
  | carrierId1 => .atMost 400
  | carrierId2 => .atMost 400
  | reserved1 => .atMost 20
  | reserved2 => .atMost 100
  | randomNumber => .fourDigits

def text (main : F0401Main) : MainField → Option String
  | mainRemark => main.mainRemark
  | category => main.category
  | relateNumber => main.relateNumber
  | groupMark => main.groupMark
  | carrierType => main.carrierType
  | carrierId1 => main.carrierId1
  | carrierId2 => main.carrierId2
  | reserved1 => main.reserved1
  | reserved2 => main.reserved2
  | randomNumber => main.randomNumber

end MainField

namespace ItemField

def all : List ItemField :=
  [description, unit, sequenceNumber, remark, relateNumber, quantity, unitPrice, amount]

def step : ItemField → String
  | description => "/Description"
  | unit => "/Unit"
  | sequenceNumber => "/SequenceNumber"
  | remark => "/Remark"
  | relateNumber => "/RelateNumber"
  | quantity => "/Quantity"
  | unitPrice => "/UnitPrice"
  | amount => "/Amount"

def facet : ItemField → Facet
  | description => .required 500
  | unit => .atMost 6
  | sequenceNumber => .required 4
  | remark => .atMost 120
  | relateNumber => .atMost 50
  | quantity => .decimal 20 7 false
  | unitPrice => .decimal 20 7 false
  | amount => .decimal 20 7 false

def text (item : ProductItem) : ItemField → Option String
  | description => some item.description
  | unit => item.unit
  | sequenceNumber => some item.sequenceNumber
  | remark => item.remark
  | relateNumber => item.relateNumber
  | quantity => some item.quantity.asStr
  | unitPrice => some item.unitPrice.asStr
  | amount => some item.amount.asStr

end ItemField

namespace AmountField

def all : List AmountField :=
  [salesAmount, freeTaxSalesAmount, zeroTaxSalesAmount, taxAmount, totalAmount, discountAmount,
    originalCurrencyAmount, exchangeRate]

def path : AmountField → String
  | salesAmount => "Invoice/Amount/SalesAmount"
  | freeTaxSalesAmount => "Invoice/Amount/FreeTaxSalesAmount"
  | zeroTaxSalesAmount => "Invoice/Amount/ZeroTaxSalesAmount"
  | taxAmount => "Invoice/Amount/TaxAmount"
  | totalAmount => "Invoice/Amount/TotalAmount"
  | discountAmount => "Invoice/Amount/DiscountAmount"
  | originalCurrencyAmount => "Invoice/Amount/OriginalCurrencyAmount"
  | exchangeRate => "Invoice/Amount/ExchangeRate"

def facet : AmountField → Facet
  | salesAmount => .decimal 20 7 true
  | freeTaxSalesAmount => .decimal 20 7 true
  | zeroTaxSalesAmount => .decimal 20 7 true
  | taxAmount => .decimal 20 0 true
  | totalAmount => .decimal 20 7 true
  | discountAmount => .decimal 20 7 true
  | originalCurrencyAmount => .decimal 20 7 true
  | exchangeRate => .decimal 13 5 true

def text (amount : F0401Amount) : AmountField → Option String
  | salesAmount => some amount.salesAmount.asStr
  | freeTaxSalesAmount => some amount.freeTaxSalesAmount.asStr
  | zeroTaxSalesAmount => some amount.zeroTaxSalesAmount.asStr
  | taxAmount => some amount.taxAmount.asStr
  | totalAmount => some amount.totalAmount.asStr
  | discountAmount => amount.discountAmount.map MigDecimal.asStr
  | originalCurrencyAmount => amount.originalCurrencyAmount.map MigDecimal.asStr
  | exchangeRate => amount.exchangeRate.map MigDecimal.asStr

end AmountField

namespace Field

/-- Where a field is. Items are counted from 1 here. -/
def path : Field → String
  | seller field => "Invoice/Main/Seller" ++ field.step
  | buyer field => "Invoice/Main/Buyer" ++ field.step
  | main field => field.path
  | item index field => "Invoice/Details/ProductItem[" ++ toString (index + 1) ++ "]" ++ field.step
  | amount field => field.path

def facet : Field → Facet
  | seller field => field.facet
  | buyer field => field.facet
  | main field => field.facet
  | item _ field => field.facet
  | amount field => field.facet

/-- The text of a field, if the invoice has the field. -/
def text (invoice : F0401Invoice) : Field → Option String
  | seller field => field.text invoice.main.seller
  | buyer field => field.text invoice.main.buyer
  | main field => field.text invoice.main
  | item index field => invoice.details[index]?.bind field.text
  | amount field => field.text invoice.amount

end Field

/-- The invoice has the field and its text violates the facet. -/
def Violates (invoice : F0401Invoice) (field : Field) : Prop :=
  ∃ text, field.text invoice = some text ∧ ¬ field.facet.Holds text

/-! ## What the schema checks report -/

/-- The checks of a role are the facets of its fields. -/
theorem validate_role_schema_issues (role : RoleDescription) (path : String)
    (report : ValidationReport) :
    (validateRoleSchema role path report).issues = report.issues ++
      RoleField.all.flatMap fun field =>
        field.facet.issues (path ++ field.step) (field.text role) := by
  simp only [validateRoleSchema, check_required_max_issues, check_max_issues, check_exact_issues,
    List.append_assoc]
  simp only [RoleField.all, List.flatMap_cons, List.flatMap_nil, List.append_nil]
  rfl

/-- The main part: the seller, the buyer, and then its own fields. -/
theorem validate_main_schema_issues (main : F0401Main) (report : ValidationReport) :
    (validateMainSchema main report).issues = report.issues ++
      ((RoleField.all.flatMap fun field =>
        field.facet.issues ("Invoice/Main/Seller" ++ field.step) (field.text main.seller)) ++
      ((RoleField.all.flatMap fun field =>
        field.facet.issues ("Invoice/Main/Buyer" ++ field.step) (field.text main.buyer)) ++
      MainField.all.flatMap fun field => field.facet.issues field.path (field.text main))) := by
  simp only [validateMainSchema, random_number_issues, check_max_issues, check_exact_issues,
    validate_role_schema_issues, List.append_assoc]
  simp only [MainField.all, List.flatMap_cons, List.flatMap_nil, List.append_nil]
  rfl

/-- The checks of an item are the facets of its fields. -/
theorem validate_item_schema_issues (report : ValidationReport) (item : ProductItem)
    (index : Nat) :
    (validateItemSchema report (item, index)).issues = report.issues ++
      ItemField.all.flatMap fun field =>
        field.facet.issues (itemBase index ++ field.step) (field.text item) := by
  simp only [validateItemSchema, check_required_max_issues, check_max_issues,
    check_decimal_issues, List.append_assoc]
  simp only [ItemField.all, List.flatMap_cons, List.flatMap_nil, List.append_nil]
  rfl

/-- The issues of a loop whose body appends issues. -/
theorem foldl_issues {α : Type} {step : ValidationReport → α → ValidationReport}
    {issues : α → List ValidationIssue}
    (h : ∀ report entry, (step report entry).issues = report.issues ++ issues entry)
    (entries : List α) (report : ValidationReport) :
    (entries.foldl step report).issues = report.issues ++ entries.flatMap issues := by
  induction entries generalizing report with
  | nil => exact (List.append_nil _).symm
  | cons entry entries ih =>
      rw [List.foldl_cons, ih, h, List.flatMap_cons, List.append_assoc]

/-- The checks of the amounts are the facets of their fields. -/
theorem validate_amount_schema_issues (amount : F0401Amount) (report : ValidationReport) :
    (validateAmountSchema amount report).issues = report.issues ++
      AmountField.all.flatMap fun field => field.facet.issues field.path (field.text amount) := by
  simp only [validateAmountSchema, check_decimal_issues, check_optional_decimal_issues,
    List.append_assoc]
  simp only [AmountField.all, List.flatMap_cons, List.flatMap_nil, List.append_nil]
  rfl

/-- The issues of a field. -/
def Field.issues (invoice : F0401Invoice) (field : Field) : List ValidationIssue :=
  field.facet.issues field.path (field.text invoice)

/-- The fields of an invoice, in the order of the checks. -/
def F0401Invoice.fields (invoice : F0401Invoice) : List Field :=
  RoleField.all.map .seller ++ (RoleField.all.map .buyer ++ (MainField.all.map .main ++
    ((List.range invoice.details.length).flatMap (fun index => ItemField.all.map (.item index)) ++
      AmountField.all.map .amount)))

/-- The report has the issues of the fields, in their order. -/
theorem schema_issues (invoice : F0401Invoice) :
    invoice.validateSchemaConstraints.issues =
      invoice.fields.flatMap (Field.issues invoice) := by
  have hitems : ∀ entry ∈ invoice.details.zipIdx,
      (ItemField.all.flatMap fun field =>
        field.facet.issues (itemBase entry.2 ++ field.step) (field.text entry.1)) =
      (ItemField.all.map (Field.item entry.2)).flatMap (Field.issues invoice) := by
    rintro ⟨item, index⟩ hentry
    have hitem : invoice.details[index]? = some item := List.mem_zipIdx_iff_getElem?.1 hentry
    rw [List.flatMap_map]
    refine List.flatMap_congr fun field _ => ?_
    show _ = field.facet.issues (itemBase index ++ field.step)
      (invoice.details[index]?.bind field.text)
    rw [hitem, Option.bind_some]
  -- The fields are listed by index, the loop goes over the items with their indexes.
  have hindexes : List.range invoice.details.length = invoice.details.zipIdx.map Prod.snd := by
    rw [List.zipIdx_map_snd, List.range_eq_range']
  have hseller : (RoleField.all.map Field.seller).flatMap (Field.issues invoice) =
      RoleField.all.flatMap fun field => field.facet.issues ("Invoice/Main/Seller" ++ field.step)
        (field.text invoice.main.seller) := List.flatMap_map ..
  have hbuyer : (RoleField.all.map Field.buyer).flatMap (Field.issues invoice) =
      RoleField.all.flatMap fun field => field.facet.issues ("Invoice/Main/Buyer" ++ field.step)
        (field.text invoice.main.buyer) := List.flatMap_map ..
  have hmain : (MainField.all.map Field.main).flatMap (Field.issues invoice) =
      MainField.all.flatMap fun field => field.facet.issues field.path
        (field.text invoice.main) := List.flatMap_map ..
  have hamount : (AmountField.all.map Field.amount).flatMap (Field.issues invoice) =
      AmountField.all.flatMap fun field => field.facet.issues field.path
        (field.text invoice.amount) := List.flatMap_map ..
  have hloop : ∀ report, (validateDetailsSchema invoice.details report).issues = report.issues ++
      invoice.details.zipIdx.flatMap fun entry => ItemField.all.flatMap fun field =>
        field.facet.issues (itemBase entry.2 ++ field.step) (field.text entry.1) :=
    foldl_issues (fun report entry => validate_item_schema_issues report entry.1 entry.2) _
  show (validateAmountSchema invoice.amount (validateDetailsSchema invoice.details
    (validateMainSchema invoice.main .default))).issues = _
  rw [validate_amount_schema_issues, hloop, validate_main_schema_issues, List.flatMap_congr hitems,
    F0401Invoice.fields, hindexes]
  simp only [List.flatMap_append, hseller, hbuyer, hmain, hamount]
  rw [List.flatMap_map, List.flatMap_assoc, ValidationReport.default, List.nil_append]
  simp only [List.append_assoc]

/-! ## Paths -/

/-- The fields that every invoice has a place for. -/
def fixedFields : List Field :=
  RoleField.all.map .seller ++ (RoleField.all.map .buyer ++ (MainField.all.map .main ++
    AmountField.all.map .amount))

/-- Outside of the items no two fields have one path. -/
theorem fixed_paths_nodup : (fixedFields.map Field.path).Nodup := by decide +kernel

theorem mem_fixedFields {field : Field} (h : ∀ index itemField, field ≠ .item index itemField) :
    field ∈ fixedFields := by
  cases field with
  | seller field => cases field <;> simp [fixedFields, RoleField.all]
  | buyer field => cases field <;> simp [fixedFields, RoleField.all]
  | main field => cases field <;> simp [fixedFields, MainField.all]
  | item index field => exact absurd rfl (h index field)
  | amount field => cases field <;> simp [fixedFields, AmountField.all]

/-- The path of an item field is not that of another field. -/
theorem item_path_ne (index : Nat) (field : ItemField) {other : Field} (h : other ∈ fixedFields) :
    (Field.item index field).path ≠ other.path := by
  -- The other paths go on with another letter after `Invoice/`.
  have hfixed : ∀ other ∈ fixedFields, (intoBytes other.path)[8]? ≠ some 68 := by decide +kernel
  have hbase : (intoBytes "Invoice/Details/ProductItem[")[8]? = some 68 := by decide +kernel
  obtain ⟨rest, hrest⟩ : ∃ rest, intoBytes (Field.item index field).path =
      intoBytes "Invoice/Details/ProductItem[" ++ rest := by
    refine ⟨intoBytes (toString (index + 1) ++ "]" ++ field.step), ?_⟩
    rw [← into_bytes_append, ← String.append_assoc, ← String.append_assoc]
    rfl
  intro heq
  refine hfixed other h ?_
  obtain ⟨hlt, -⟩ := List.getElem?_eq_some_iff.1 hbase
  rw [← heq, hrest]
  exact (List.getElem?_append_left hlt).trans hbase

/-- A number ends at the bracket. -/
theorem numbered_injective {base rest otherRest : String} {number otherNumber : Nat}
    (h : base ++ toString number ++ "]" ++ rest =
      base ++ toString otherNumber ++ "]" ++ otherRest) :
    number = otherNumber ∧ rest = otherRest := by
  have hdigits : ∀ number : Nat, ∀ digit ∈ (toString number).toList, (digit != ']') = true := by
    intro number digit hmem
    have hlist : (toString number).toList = Nat.toDigits 10 number := Nat.toList_repr
    rw [hlist] at hmem
    have hdigit := Nat.isDigit_of_mem_toDigits (by omega) (by omega) hmem
    rw [bne_iff_ne]
    rintro rfl
    exact absurd hdigit (by decide)
  have hlist : (toString number).toList ++ ']' :: rest.toList =
      (toString otherNumber).toList ++ ']' :: otherRest.toList := by
    have hcongr := congrArg String.toList h
    simp only [String.toList_append, List.append_assoc, List.append_cancel_left_eq] at hcongr
    exact hcongr
  have htake := congrArg (List.takeWhile (· != ']')) hlist
  rw [List.takeWhile_append_of_pos (hdigits number),
    List.takeWhile_append_of_pos (hdigits otherNumber), List.takeWhile_cons_of_neg (by simp),
    List.takeWhile_cons_of_neg (by simp), List.append_nil, List.append_nil] at htake
  have hnumber := to_string_injective (String.toList_injective htake)
  rw [htake, List.append_cancel_left_eq] at hlist
  exact ⟨hnumber, String.toList_injective (List.cons.inj hlist).2⟩

/-- The path of an item's field tells the item and the field. -/
theorem item_path_injective {index otherIndex : Nat} {field otherField : ItemField}
    (h : (Field.item index field).path = (Field.item otherIndex otherField).path) :
    index = otherIndex ∧ field = otherField := by
  obtain ⟨hnumber, hstep⟩ := numbered_injective h
  have hsteps : (ItemField.all.map ItemField.step).Nodup := by decide +kernel
  have hmem : ∀ field, field ∈ ItemField.all := by
    intro field
    cases field <;> simp [ItemField.all]
  exact ⟨Nat.succ.inj hnumber, List.inj_on_of_nodup_map hsteps (hmem field) (hmem otherField) hstep⟩

/-- A path tells its field. -/
theorem path_injective : Function.Injective Field.path := by
  intro field other h
  by_cases hfield : ∀ index itemField, field ≠ .item index itemField
  · by_cases hother : ∀ index itemField, other ≠ .item index itemField
    · exact List.inj_on_of_nodup_map fixed_paths_nodup (mem_fixedFields hfield)
        (mem_fixedFields hother) h
    · push Not at hother
      obtain ⟨index, itemField, rfl⟩ := hother
      exact absurd h.symm (item_path_ne index itemField (mem_fixedFields hfield))
  · push Not at hfield
    obtain ⟨index, itemField, rfl⟩ := hfield
    by_cases hother : ∀ index itemField, other ≠ .item index itemField
    · exact absurd h (item_path_ne index itemField (mem_fixedFields hother))
    · push Not at hother
      obtain ⟨otherIndex, otherField, rfl⟩ := hother
      obtain ⟨rfl, rfl⟩ := item_path_injective h
      rfl

/-! ## The report and the facets -/

/-- No field is checked twice. -/
theorem fields_nodup (invoice : F0401Invoice) : invoice.fields.Nodup := by
  have hrole : RoleField.all.Nodup := by decide
  have hmain : MainField.all.Nodup := by decide
  have hitem : ItemField.all.Nodup := by decide
  have hamount : AmountField.all.Nodup := by decide
  have hitems : ((List.range invoice.details.length).flatMap fun index =>
      ItemField.all.map (Field.item index)).Nodup := by
    refine List.nodup_flatMap.2 ⟨fun index _ => hitem.map fun _ _ h => by cases h; rfl, ?_⟩
    refine List.nodup_range.imp fun hne => ?_
    simp only [Function.onFun, List.disjoint_left, List.mem_map]
    rintro _ ⟨_, _, rfl⟩ ⟨_, _, heq⟩
    cases heq
    exact hne rfl
  simp only [F0401Invoice.fields, List.nodup_append, List.mem_append, List.mem_map,
    List.mem_flatMap]
  refine ⟨hrole.map fun _ _ h => by cases h; rfl, ⟨hrole.map fun _ _ h => by cases h; rfl,
    ⟨hmain.map fun _ _ h => by cases h; rfl, ⟨hitems, hamount.map fun _ _ h => by cases h; rfl,
      ?_⟩, ?_⟩, ?_⟩, ?_⟩
  all_goals grind

/-- Every field that is present is checked. -/
theorem mem_fields {invoice : F0401Invoice} {field : Field} {text : String}
    (h : field.text invoice = some text) : field ∈ invoice.fields := by
  simp only [F0401Invoice.fields, List.mem_append, List.mem_map, List.mem_flatMap, List.mem_range]
  cases field with
  | seller field => exact .inl ⟨field, by cases field <;> simp [RoleField.all], rfl⟩
  | buyer field => exact .inr (.inl ⟨field, by cases field <;> simp [RoleField.all], rfl⟩)
  | main field => exact .inr (.inr (.inl ⟨field, by cases field <;> simp [MainField.all], rfl⟩))
  | item index field =>
      obtain ⟨item, hitem, _⟩ := Option.bind_eq_some_iff.1 h
      obtain ⟨hindex, _⟩ := List.getElem?_eq_some_iff.1 hitem
      exact .inr (.inr (.inr (.inl ⟨index, hindex, field, by cases field <;> simp [ItemField.all],
        rfl⟩)))
  | amount field =>
      exact .inr (.inr (.inr (.inr ⟨field, by cases field <;> simp [AmountField.all], rfl⟩)))

/-- The issues of a field are at its path, and there is exactly one if its facet is violated. -/
theorem Field.issues_eq (invoice : F0401Invoice) (field : Field) :
    (∀ issue ∈ field.issues invoice, issue.path = some field.path ∧ Violates invoice field) ∧
      (Violates invoice field → ∃ issue, field.issues invoice = [issue]) := by
  rw [Field.issues]
  cases htext : field.text invoice with
  | none =>
      refine ⟨fun issue hissue => absurd hissue List.not_mem_nil, ?_⟩
      intro h
      obtain ⟨text, hsome, _⟩ := h
      rw [htext] at hsome
      cases hsome
  | some text =>
      by_cases hholds : field.facet.Holds text
      · rw [Facet.issues, if_pos hholds]
        refine ⟨fun issue hissue => absurd hissue List.not_mem_nil, ?_⟩
        intro h
        obtain ⟨other, hother, hviolated⟩ := h
        rw [htext] at hother
        cases hother
        exact absurd hholds hviolated
      · rw [Facet.issues, if_neg hholds]
        refine ⟨fun issue hissue => ?_, fun _ => ⟨_, rfl⟩⟩
        rw [List.mem_singleton.1 hissue]
        exact ⟨Facet.issue_path _ _ _, text, htext, hholds⟩

/-- The issues at a path among those of fields without repetition. -/
theorem issues_at_path {invoice : F0401Invoice} {field : Field} {fields : List Field}
    (hnodup : fields.Nodup) (hmem : field ∈ fields) :
    (fields.flatMap (Field.issues invoice)).filter (fun issue => issue.path = some field.path) =
      field.issues invoice := by
  have hown : (field.issues invoice).filter (fun issue => issue.path = some field.path) =
      field.issues invoice := by
    refine List.filter_eq_self.2 fun issue hissue => decide_eq_true ?_
    exact ((field.issues_eq invoice).1 issue hissue).1
  have hother : ∀ other, other ≠ field →
      (other.issues invoice).filter (fun issue => issue.path = some field.path) = [] := by
    intro other hne
    refine List.filter_eq_nil_iff.2 fun issue hissue heq => hne ?_
    have hpath := ((other.issues_eq invoice).1 issue hissue).1
    rw [of_decide_eq_true heq] at hpath
    exact path_injective (Option.some.inj hpath).symm
  have hrest : ∀ fields : List Field, field ∉ fields →
      (fields.flatMap (Field.issues invoice)).filter
        (fun issue => issue.path = some field.path) = [] := by
    intro fields hnot
    rw [List.filter_flatMap]
    refine List.flatMap_eq_nil_iff.2 fun other hin => hother other fun heq => ?_
    exact hnot (heq ▸ hin)
  obtain ⟨before, after, rfl⟩ := List.append_of_mem hmem
  rw [List.nodup_append, List.nodup_cons] at hnodup
  have hbefore : field ∉ before := fun hmem => hnodup.2.2 field hmem field List.mem_cons_self rfl
  rw [List.flatMap_append, List.flatMap_cons, List.filter_append, List.filter_append, hown,
    hrest before hbefore, hrest after hnodup.2.1.1, List.nil_append, List.append_nil]

/-- The issue of a violated facet is in the report. -/
theorem schema_report_complete {invoice : F0401Invoice} {field : Field}
    (h : Violates invoice field) :
    ∃ issue, invoice.validateSchemaConstraints.issues.filter
      (fun issue => issue.path = some field.path) = [issue] := by
  obtain ⟨text, htext, _⟩ := id h
  rw [schema_issues, issues_at_path (fields_nodup invoice) (mem_fields htext)]
  exact (field.issues_eq invoice).2 h

/-- An empty report is that of an invoice whose facets all hold. -/
theorem holds_of_schema_valid {invoice : F0401Invoice}
    (h : invoice.validateSchemaConstraints.issues = []) (field : Field) :
    ¬ Violates invoice field := by
  intro hviolates
  obtain ⟨issue, hissue⟩ := schema_report_complete hviolates
  rw [h] at hissue
  cases hissue

/-- The schema checks report exactly one issue, at the path of the field, for each field whose
text violates its facet, and no other issue. -/
theorem schema_report_exact (invoice : F0401Invoice) :
    Function.Injective Field.path ∧
      (∀ field, Violates invoice field → ∃ issue,
        invoice.validateSchemaConstraints.issues.filter
          (fun issue => issue.path = some field.path) = [issue]) ∧
      (∀ issue ∈ invoice.validateSchemaConstraints.issues,
        ∃ field, issue.path = some field.path ∧ Violates invoice field) ∧
      (invoice.validateSchemaConstraints.isValid = true ↔ ∀ field, ¬ Violates invoice field) := by
  have hsound : ∀ issue ∈ invoice.validateSchemaConstraints.issues,
      ∃ field, issue.path = some field.path ∧ Violates invoice field := by
    intro issue hissue
    rw [schema_issues] at hissue
    obtain ⟨field, _, hfield⟩ := List.mem_flatMap.1 hissue
    exact ⟨field, (field.issues_eq invoice).1 issue hfield⟩
  refine ⟨path_injective, fun field => schema_report_complete, hsound, ?_⟩
  rw [ValidationReport.isValid, List.isEmpty_iff]
  refine ⟨holds_of_schema_valid, fun hholds => ?_⟩
  refine List.eq_nil_iff_forall_not_mem.2 fun issue hissue => ?_
  obtain ⟨field, _, hviolates⟩ := hsound issue hissue
  exact hholds field hviolates

end TwEinvoice.Mig
