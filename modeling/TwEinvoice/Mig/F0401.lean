import TwEinvoice.Mig.Primitives

/-!
# The F0401 invoice and its serializer

The object model of F0401 and `to_xml`. The functions that push to the output `String` return the
extended output. The capacity that the source reserves for it is left out.
-/

namespace TwEinvoice.Mig

open Rust

def f0401Namespace : String := "urn:GEINV:eInvoiceMessage:F0401:4.1"

structure RoleDescription where
  identifier : Ban
  name : String
  address : Option String
  personInCharge : Option String
  telephoneNumber : Option String
  facsimileNumber : Option String
  emailAddress : Option String
  customerNumber : Option String
  roleRemark : Option String

structure F0401Main where
  invoiceNumber : InvoiceNumber
  invoiceDate : MigDate
  invoiceTime : MigTime
  seller : RoleDescription
  buyer : RoleDescription
  buyerRemark : Option BuyerRemark
  mainRemark : Option String
  customsClearanceMark : Option CustomsClearanceMark
  category : Option String
  relateNumber : Option String
  invoiceType : InvoiceType
  groupMark : Option String
  donateMark : DonateMark
  carrierType : Option String
  carrierId1 : Option String
  carrierId2 : Option String
  printMark : PrintMark
  npoBan : Option Ban
  randomNumber : Option String
  bondedAreaConfirm : Option BondedArea
  zeroTaxRateReason : Option ZeroTaxRateReason
  reserved1 : Option String
  reserved2 : Option String

structure ProductItem where
  description : String
  quantity : MigDecimal
  unit : Option String
  unitPrice : MigDecimal
  taxType : TaxType
  amount : MigDecimal
  sequenceNumber : String
  remark : Option String
  relateNumber : Option String

structure F0401Amount where
  salesAmount : MigDecimal
  freeTaxSalesAmount : MigDecimal
  zeroTaxSalesAmount : MigDecimal
  taxType : TaxType
  taxRate : TaxRate
  taxAmount : MigDecimal
  totalAmount : MigDecimal
  discountAmount : Option MigDecimal
  originalCurrencyAmount : Option MigDecimal
  exchangeRate : Option MigDecimal
  currency : Option CurrencyCode

/-- `F0401Invoice::MAX_PRODUCT_ITEMS`. -/
def maxProductItems : Nat := 9999

/-- An F0401 document with its cardinality. -/
structure F0401Invoice where
  main : F0401Main
  details : List ProductItem
  amount : F0401Amount
  details_pos : 0 < details.length
  details_le : details.length ≤ maxProductItems

inductive F0401StructureError where
  | noProductItems
  | tooManyProductItems (count max : Nat)

/-- `F0401Invoice::new`. -/
def F0401Invoice.new (main : F0401Main) (details : List ProductItem) (amount : F0401Amount) :
    Except F0401StructureError F0401Invoice :=
  if hpos : details.length = 0 then .error .noProductItems
  else if hmax : details.length > maxProductItems then
    .error (.tooManyProductItems details.length maxProductItems)
  else .ok ⟨main, details, amount, Nat.pos_of_ne_zero hpos, Nat.le_of_not_gt hmax⟩

/-! ## The serializer -/

/-- The escapes of `push_escaped`. -/
def escapeCharacter : Char → String
  | '&' => "&amp;"
  | '<' => "&lt;"
  | '>' => "&gt;"
  | '"' => "&quot;"
  | '\'' => "&apos;"
  | character => character.toString

/-- `push_escaped`. -/
def pushEscaped (output value : String) : String :=
  value.toList.foldl (fun output character => output ++ escapeCharacter character) output

/-- `push_text_element`. -/
def pushTextElement (output tag value : String) : String :=
  let output := output ++ "<" ++ tag ++ ">"
  let output := pushEscaped output value
  output ++ "</" ++ tag ++ ">"

/-- `push_optional`. -/
def pushOptional (output tag : String) : Option String → String
  | some value => pushTextElement output tag value
  | none => output

/-- `push_role`. -/
def pushRole (output tag : String) (role : RoleDescription) : String :=
  let output := output ++ "<" ++ tag ++ ">"
  let output := pushTextElement output "Identifier" role.identifier.asStr
  let output := pushTextElement output "Name" role.name
  let output := pushOptional output "Address" role.address
  let output := pushOptional output "PersonInCharge" role.personInCharge
  let output := pushOptional output "TelephoneNumber" role.telephoneNumber
  let output := pushOptional output "FacsimileNumber" role.facsimileNumber
  let output := pushOptional output "EmailAddress" role.emailAddress
  let output := pushOptional output "CustomerNumber" role.customerNumber
  let output := pushOptional output "RoleRemark" role.roleRemark
  output ++ "</" ++ tag ++ ">"

/-- `push_main_xml`. -/
def pushMainXml (output : String) (main : F0401Main) : String :=
  let output := output ++ "<Main>"
  let output := pushTextElement output "InvoiceNumber" main.invoiceNumber.asStr
  let output := pushTextElement output "InvoiceDate" main.invoiceDate.asStr
  let output := pushTextElement output "InvoiceTime" main.invoiceTime.asStr
  let output := pushRole output "Seller" main.seller
  let output := pushRole output "Buyer" main.buyer
  let output := pushOptional output "BuyerRemark" (main.buyerRemark.map BuyerRemark.wireValue)
  let output := pushOptional output "MainRemark" main.mainRemark
  let output := pushOptional output "CustomsClearanceMark"
    (main.customsClearanceMark.map CustomsClearanceMark.wireValue)
  let output := pushOptional output "Category" main.category
  let output := pushOptional output "RelateNumber" main.relateNumber
  let output := pushTextElement output "InvoiceType" main.invoiceType.wireValue
  let output := pushOptional output "GroupMark" main.groupMark
  let output := pushTextElement output "DonateMark" main.donateMark.wireValue
  let output := pushOptional output "CarrierType" main.carrierType
  let output := pushOptional output "CarrierId1" main.carrierId1
  let output := pushOptional output "CarrierId2" main.carrierId2
  let output := pushTextElement output "PrintMark" main.printMark.wireValue
  let output := pushOptional output "NPOBAN" (main.npoBan.map Lexical.asStr)
  let output := pushOptional output "RandomNumber" main.randomNumber
  let output := pushOptional output "BondedAreaConfirm"
    (main.bondedAreaConfirm.map BondedArea.wireValue)
  let output := pushOptional output "ZeroTaxRateReason"
    (main.zeroTaxRateReason.map ZeroTaxRateReason.wireValue)
  let output := pushOptional output "Reserved1" main.reserved1
  let output := pushOptional output "Reserved2" main.reserved2
  output ++ "</Main>"

/-- The body of the loop of `push_details_xml`. -/
def pushProductItem (output : String) (item : ProductItem) : String :=
  let output := output ++ "<ProductItem>"
  let output := pushTextElement output "Description" item.description
  let output := pushTextElement output "Quantity" item.quantity.asStr
  let output := pushOptional output "Unit" item.unit
  let output := pushTextElement output "UnitPrice" item.unitPrice.asStr
  let output := pushTextElement output "TaxType" item.taxType.wireValue
  let output := pushTextElement output "Amount" item.amount.asStr
  let output := pushTextElement output "SequenceNumber" item.sequenceNumber
  let output := pushOptional output "Remark" item.remark
  let output := pushOptional output "RelateNumber" item.relateNumber
  output ++ "</ProductItem>"

/-- `push_details_xml`. -/
def pushDetailsXml (output : String) (details : List ProductItem) : String :=
  details.foldl pushProductItem (output ++ "<Details>") ++ "</Details>"

/-- `push_amount_xml`. -/
def pushAmountXml (output : String) (amount : F0401Amount) : String :=
  let output := output ++ "<Amount>"
  let output := pushTextElement output "SalesAmount" amount.salesAmount.asStr
  let output := pushTextElement output "FreeTaxSalesAmount" amount.freeTaxSalesAmount.asStr
  let output := pushTextElement output "ZeroTaxSalesAmount" amount.zeroTaxSalesAmount.asStr
  let output := pushTextElement output "TaxType" amount.taxType.wireValue
  let output := pushTextElement output "TaxRate" amount.taxRate.wireValue
  let output := pushTextElement output "TaxAmount" amount.taxAmount.asStr
  let output := pushTextElement output "TotalAmount" amount.totalAmount.asStr
  let output := pushOptional output "DiscountAmount" (amount.discountAmount.map MigDecimal.asStr)
  let output := pushOptional output "OriginalCurrencyAmount"
    (amount.originalCurrencyAmount.map MigDecimal.asStr)
  let output := pushOptional output "ExchangeRate" (amount.exchangeRate.map MigDecimal.asStr)
  let output := pushOptional output "Currency" (amount.currency.map Lexical.asStr)
  output ++ "</Amount>"

/-- `F0401Invoice::to_xml`. -/
def F0401Invoice.toXml (invoice : F0401Invoice) : String :=
  let output := "<Invoice xmlns=\"" ++ f0401Namespace ++ "\">"
  let output := pushMainXml output invoice.main
  let output := pushDetailsXml output invoice.details
  let output := pushAmountXml output invoice.amount
  output ++ "</Invoice>"

end TwEinvoice.Mig
