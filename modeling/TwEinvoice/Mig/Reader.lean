import TwEinvoice.Mig.F0401
import TwEinvoice.Xml.Sequence

/-!
# Reading an F0401 document

A reader of the F0401 element grammar: the elements in their fixed order, the optional ones, the
repeated `ProductItem`, and texts with their entities decoded. It recovers from `to_xml` the
invoice that was serialized, so that the serializer loses nothing and no text can pass for
markup.
-/

namespace TwEinvoice.Mig

open Rust Parsing Xml Xml.Reader

/-! ## Texts of the field types -/

/-- A lexical type. -/
def lexicalForm (accepts : String → Prop) [DecidablePred accepts] : TextForm (Lexical accepts) where
  wire := Lexical.asStr
  fromWire text := if h : accepts text then some ⟨text, h⟩ else none
  fromWire_wire text := dif_pos text.accepted

/-- A decimal, of whatever precision it has. -/
def decimalForm : TextForm MigDecimal where
  wire := MigDecimal.asStr
  fromWire text :=
    (MigDecimal.parse text (MigDecimal.totalDigits text) (MigDecimal.fractionLen text)
      false).toOption
  fromWire_wire decimal := by
    have hcheck := (MigDecimal.check_ok_iff decimal.asStr _ _ false).2
      ⟨decimal.canonical, nofun, Nat.le_refl _, Nat.le_refl _⟩
    rw [decimal.parse_ok hcheck]
    rfl

/-- A code. -/
def codeForm {α : Type} (values : List α) (wire : α → String) (hmem : ∀ value, value ∈ values)
    (hnodup : (values.map wire).Nodup) : TextForm α :=
  .oneOf values wire hmem (wire_injective hmem hnodup)

def invoiceTypeForm : TextForm InvoiceType :=
  codeForm [.generalTax, .specialTax] InvoiceType.wireValue (by rintro ⟨⟩ <;> simp) (by decide)

def donateMarkForm : TextForm DonateMark :=
  codeForm [.notDonated, .donated] DonateMark.wireValue (by rintro ⟨⟩ <;> simp) (by decide)

def printMarkForm : TextForm PrintMark :=
  codeForm [.print, .doNotPrint] PrintMark.wireValue (by rintro ⟨⟩ <;> simp) (by decide)

def taxTypeForm : TextForm TaxType :=
  codeForm [.taxable, .zeroRated, .taxFree, .specialTax, .mixed]
    TaxType.wireValue (by rintro ⟨⟩ <;> simp) (by decide)

def taxRateForm : TextForm TaxRate :=
  codeForm [.zero, .onePercent, .twoPercent, .fivePercent, .fifteenPercent, .twentyFivePercent]
    TaxRate.wireValue (by rintro ⟨⟩ <;> simp) (by decide)

def buyerRemarkForm : TextForm BuyerRemark :=
  codeForm [.deductibleExpense, .deductibleFixedAsset, .nonDeductibleExpense,
    .nonDeductibleFixedAsset]
    BuyerRemark.wireValue (by rintro ⟨⟩ <;> simp) (by decide)

def customsClearanceMarkForm : TextForm CustomsClearanceMark :=
  codeForm [.notThroughCustoms, .throughCustoms]
    CustomsClearanceMark.wireValue (by rintro ⟨⟩ <;> simp) (by decide)

def bondedAreaForm : TextForm BondedArea :=
  codeForm [.article7Paragraph4, .article7Paragraph7, .freeTradeZone, .other]
    BondedArea.wireValue (by rintro ⟨⟩ <;> simp) (by decide)

/-- The reasons in their order. -/
def zeroTaxRateReasons : List ZeroTaxRateReason :=
  [71, 72, 73, 74, 75, 76, 77, 78, 79].filterMap fun value =>
    (ZeroTaxRateReason.new value).toOption

/-- The table of the reasons is complete. -/
theorem mem_zeroTaxRateReasons (reason : ZeroTaxRateReason) : reason ∈ zeroTaxRateReasons := by
  obtain ⟨value, hlow, hhigh⟩ := reason
  have hvalue : value ∈ [71, 72, 73, 74, 75, 76, 77, 78, 79] := by
    rw [UInt8.le_iff_toNat_le] at hlow hhigh
    simp only [UInt8.reduceToNat] at hlow hhigh
    simp only [List.mem_cons, List.not_mem_nil, ← UInt8.toNat_inj, UInt8.reduceToNat]
    omega
  refine List.mem_filterMap.2 ⟨value, hvalue, ?_⟩
  rw [ZeroTaxRateReason.new, dif_pos ⟨hlow, hhigh⟩]
  rfl

def zeroTaxRateReasonForm : TextForm ZeroTaxRateReason :=
  .oneOf zeroTaxRateReasons ZeroTaxRateReason.wireValue mem_zeroTaxRateReasons (by
    rintro ⟨value, _⟩ ⟨other, _⟩ h
    have hvalue : value = other := UInt8.toNat_inj.1 (to_string_injective h)
    subst hvalue
    rfl)

/-! ## The reader -/

namespace Grammar

/-- Read a party. -/
def role (tagName : String) : Xml.Reader RoleDescription := do
  tag (startTag tagName)
  let identifier ← element (lexicalForm Ban.Accepts) "Identifier"
  let name ← element .plain "Name"
  let address ← optional (element .plain "Address")
  let personInCharge ← optional (element .plain "PersonInCharge")
  let telephoneNumber ← optional (element .plain "TelephoneNumber")
  let facsimileNumber ← optional (element .plain "FacsimileNumber")
  let emailAddress ← optional (element .plain "EmailAddress")
  let customerNumber ← optional (element .plain "CustomerNumber")
  let roleRemark ← optional (element .plain "RoleRemark")
  tag (endTag tagName)
  return { identifier, name, address, personInCharge, telephoneNumber, facsimileNumber,
           emailAddress, customerNumber, roleRemark }

/-- Read `Main`. -/
def main : Xml.Reader F0401Main := do
  tag (startTag "Main")
  let invoiceNumber ← element (lexicalForm InvoiceNumber.Accepts) "InvoiceNumber"
  let invoiceDate ← element (lexicalForm MigDate.Accepts) "InvoiceDate"
  let invoiceTime ← element (lexicalForm MigTime.Accepts) "InvoiceTime"
  let seller ← role "Seller"
  let buyer ← role "Buyer"
  let buyerRemark ← optional (element buyerRemarkForm "BuyerRemark")
  let mainRemark ← optional (element .plain "MainRemark")
  let customsClearanceMark ← optional (element customsClearanceMarkForm "CustomsClearanceMark")
  let category ← optional (element .plain "Category")
  let relateNumber ← optional (element .plain "RelateNumber")
  let invoiceType ← element invoiceTypeForm "InvoiceType"
  let groupMark ← optional (element .plain "GroupMark")
  let donateMark ← element donateMarkForm "DonateMark"
  let carrierType ← optional (element .plain "CarrierType")
  let carrierId1 ← optional (element .plain "CarrierId1")
  let carrierId2 ← optional (element .plain "CarrierId2")
  let printMark ← element printMarkForm "PrintMark"
  let npoBan ← optional (element (lexicalForm Ban.Accepts) "NPOBAN")
  let randomNumber ← optional (element .plain "RandomNumber")
  let bondedAreaConfirm ← optional (element bondedAreaForm "BondedAreaConfirm")
  let zeroTaxRateReason ← optional (element zeroTaxRateReasonForm "ZeroTaxRateReason")
  let reserved1 ← optional (element .plain "Reserved1")
  let reserved2 ← optional (element .plain "Reserved2")
  tag (endTag "Main")
  return { invoiceNumber, invoiceDate, invoiceTime, seller, buyer, buyerRemark, mainRemark,
           customsClearanceMark, category, relateNumber, invoiceType, groupMark, donateMark,
           carrierType, carrierId1, carrierId2, printMark, npoBan, randomNumber,
           bondedAreaConfirm, zeroTaxRateReason, reserved1, reserved2 }

/-- Read a `ProductItem`. -/
def productItem : Xml.Reader ProductItem := do
  tag (startTag "ProductItem")
  let description ← element .plain "Description"
  let quantity ← element decimalForm "Quantity"
  let unit ← optional (element .plain "Unit")
  let unitPrice ← element decimalForm "UnitPrice"
  let taxType ← element taxTypeForm "TaxType"
  let amount ← element decimalForm "Amount"
  let sequenceNumber ← element .plain "SequenceNumber"
  let remark ← optional (element .plain "Remark")
  let relateNumber ← optional (element .plain "RelateNumber")
  tag (endTag "ProductItem")
  return { description, quantity, unit, unitPrice, taxType, amount, sequenceNumber, remark,
           relateNumber }

/-- Read `Details`. -/
def details : Xml.Reader (List ProductItem) := do
  tag (startTag "Details")
  let details ← items productItem
  tag (endTag "Details")
  return details

/-- Read `Amount`. -/
def amount : Xml.Reader F0401Amount := do
  tag (startTag "Amount")
  let salesAmount ← element decimalForm "SalesAmount"
  let freeTaxSalesAmount ← element decimalForm "FreeTaxSalesAmount"
  let zeroTaxSalesAmount ← element decimalForm "ZeroTaxSalesAmount"
  let taxType ← element taxTypeForm "TaxType"
  let taxRate ← element taxRateForm "TaxRate"
  let taxAmount ← element decimalForm "TaxAmount"
  let totalAmount ← element decimalForm "TotalAmount"
  let discountAmount ← optional (element decimalForm "DiscountAmount")
  let originalCurrencyAmount ← optional (element decimalForm "OriginalCurrencyAmount")
  let exchangeRate ← optional (element decimalForm "ExchangeRate")
  let currency ← optional (element (lexicalForm CurrencyCode.Accepts) "Currency")
  tag (endTag "Amount")
  return { salesAmount, freeTaxSalesAmount, zeroTaxSalesAmount, taxType, taxRate, taxAmount,
           totalAmount, discountAmount, originalCurrencyAmount, exchangeRate, currency }

/-- Read the document, which has at least one item and at most as many as allowed. -/
def invoice : Xml.Reader F0401Invoice := do
  tag ("<Invoice xmlns=\"" ++ f0401Namespace ++ "\">")
  let main ← main
  let details ← details
  let amount ← amount
  tag (endTag "Invoice")
  match F0401Invoice.new main details amount with
  | .ok invoice => return invoice
  | .error _ => Parsing.Reader.reject

end Grammar

/-- Read a whole F0401 document. -/
def readInvoice (text : String) : Option F0401Invoice :=
  match Grammar.invoice text.toList with
  | some (invoice, []) => some invoice
  | _ => none

/-! ## The reader takes what the serializer pushes -/

/-- The escapes of `push_escaped`. -/
def escaping : Escaping endsText where
  escape character := (escapeCharacter character).toList
  unescape_escape character rest := by
    unfold escapeCharacter
    split <;> simp_all [unescape, unescape_cons]
  not_stop character := by
    unfold escapeCharacter
    split <;> simp_all [endsText]

theorem push_escaped_toList (output value : String) :
    (pushEscaped output value).toList = output.toList ++ value.toList.flatMap escaping.escape :=
  foldl_push_toList escapeCharacter output value.toList

theorem push_text_element_toList (output tag value : String) :
    (pushTextElement output tag value).toList = output.toList ++ escaping.element tag value := by
  simp [pushTextElement, push_escaped_toList, Escaping.element, startTag, endTag]

theorem push_optional_toList (output tag : String) (value : Option String) :
    (pushOptional output tag value).toList =
      output.toList ++ value.elim [] (escaping.element tag) := by
  cases value with
  | none => exact (List.append_nil output.toList).symm
  | some value => exact push_text_element_toList output tag value

/-- What is appended is what the reader takes for the value. -/
def Pushes {α : Type} (first after : List String) (reader : Xml.Reader α) (value : α)
    (before output : String) : Prop :=
  ∃ symbols, output.toList = before.toList ++ symbols ∧ Takes first after reader symbols value

section Pushes

variable {α β : Type} {first middle after : List String} {before output : String}

/-- What is written one after the other is read one after the other. -/
theorem Pushes.bind {between : String} {reader : Xml.Reader α} {next : α → Xml.Reader β}
    {value : α} {result : β} (h : Pushes first middle reader value before between)
    (hnext : Pushes middle after (next value) result between output) :
    Pushes first after (reader >>= next) result before output := by
  obtain ⟨symbols, hbetween, htakes⟩ := h
  obtain ⟨more, houtput, hmore⟩ := hnext
  refine ⟨symbols ++ more, ?_, htakes.bind hmore⟩
  rw [houtput, hbetween, List.append_assoc]

theorem pushes_tag {name : String} (hname : IsName name)
    (h : output.toList = before.toList ++ (startTag name).toList) :
    Pushes [name] after (tag (startTag name)) () before output :=
  ⟨_, h, takes_tag hname after⟩

/-- An end tag is read back, with the value before it. -/
theorem pushes_end {name : String} (hname : IsName ("/" ++ name))
    (h : output.toList = before.toList ++ (endTag name).toList) (value : α) :
    Pushes ["/" ++ name] after (do tag (endTag name); return value) value before output := by
  refine ⟨_, h, ?_⟩
  rw [endTag_eq_startTag]
  exact (takes_tag hname after).converts (reads_pure value)

/-- An element is read back as its value. -/
theorem pushes_element (form : TextForm α) {name : String} (hname : IsName name) (value : α)
    (before : String) :
    Pushes [name] after (element form name) value before
      (pushTextElement before name (form.wire value)) :=
  ⟨_, push_text_element_toList before name _, takes_element escaping form hname after value⟩

/-- An optional element is read back, absent or present. -/
theorem pushes_optional (form : TextForm α) {name : String} (hname : IsName name)
    (hnot : name ∉ after) (value : Option α) (before : String) :
    Pushes (name :: after) after (optional (element form name)) value before
      (pushOptional before name (value.map form.wire)) := by
  refine ⟨_, ?_, takes_optional hname hnot (decidedBy_element form name)
    (takes_element escaping form hname after) value⟩
  rw [push_optional_toList]
  cases value <;> rfl

/-- The same for any text. -/
theorem pushes_optional_text {name : String} (hname : IsName name) (hnot : name ∉ after)
    (value : Option String) (before : String) :
    Pushes (name :: after) after (optional (element .plain name)) value before
      (pushOptional before name value) := by
  have hpushes := pushes_optional .plain hname hnot value before
  have hwire : value.map TextForm.plain.wire = value := Option.map_id'
  rwa [hwire] at hpushes

end Pushes

/-- The tags of a role, whose name is an argument. -/
theorem append_start_tag (before name : String) :
    (before ++ "<" ++ name ++ ">").toList = before.toList ++ (startTag name).toList := by
  simp only [startTag, String.toList_append, List.append_assoc]

theorem append_end_tag (before name : String) :
    (before ++ "</" ++ name ++ ">").toList = before.toList ++ (endTag name).toList := by
  simp only [endTag, String.toList_append, List.append_assoc]

theorem push_role_pushes {name : String} (hname : name = "Seller" ∨ name = "Buyer")
    (after : List String) (role : RoleDescription) (before : String) :
    Pushes [name] after (Grammar.role name) role before (pushRole before name role) := by
  apply (pushes_tag ?_ (append_start_tag before name)).bind
  apply (pushes_element (lexicalForm Ban.Accepts) ?_ role.identifier _).bind
  apply (pushes_element .plain ?_ role.name _).bind
  apply (pushes_optional_text ?_ ?_ role.address _).bind
  apply (pushes_optional_text ?_ ?_ role.personInCharge _).bind
  apply (pushes_optional_text ?_ ?_ role.telephoneNumber _).bind
  apply (pushes_optional_text ?_ ?_ role.facsimileNumber _).bind
  apply (pushes_optional_text ?_ ?_ role.emailAddress _).bind
  apply (pushes_optional_text ?_ ?_ role.customerNumber _).bind
  apply (pushes_optional_text ?_ ?_ role.roleRemark _).bind
  apply pushes_end ?_ (append_end_tag _ name) role
  all_goals rcases hname with rfl | rfl <;> decide

/-- The main part is read back. -/
theorem push_main_pushes (after : List String) (main : F0401Main) (before : String) :
    Pushes ["Main"] after Grammar.main main before (pushMainXml before main) := by
  have hopen : (before ++ "<Main>").toList = before.toList ++ (startTag "Main").toList :=
    String.toList_append
  apply (pushes_tag ?_ hopen).bind
  apply (pushes_element (lexicalForm InvoiceNumber.Accepts) ?_ main.invoiceNumber _).bind
  apply (pushes_element (lexicalForm MigDate.Accepts) ?_ main.invoiceDate _).bind
  apply (pushes_element (lexicalForm MigTime.Accepts) ?_ main.invoiceTime _).bind
  apply (push_role_pushes (.inl rfl) _ main.seller _).bind
  apply (push_role_pushes (.inr rfl) _ main.buyer _).bind
  apply (pushes_optional buyerRemarkForm ?_ ?_ main.buyerRemark _).bind
  apply (pushes_optional_text ?_ ?_ main.mainRemark _).bind
  apply (pushes_optional customsClearanceMarkForm ?_ ?_ main.customsClearanceMark _).bind
  apply (pushes_optional_text ?_ ?_ main.category _).bind
  apply (pushes_optional_text ?_ ?_ main.relateNumber _).bind
  apply (pushes_element invoiceTypeForm ?_ main.invoiceType _).bind
  apply (pushes_optional_text ?_ ?_ main.groupMark _).bind
  apply (pushes_element donateMarkForm ?_ main.donateMark _).bind
  apply (pushes_optional_text ?_ ?_ main.carrierType _).bind
  apply (pushes_optional_text ?_ ?_ main.carrierId1 _).bind
  apply (pushes_optional_text ?_ ?_ main.carrierId2 _).bind
  apply (pushes_element printMarkForm ?_ main.printMark _).bind
  apply (pushes_optional (lexicalForm Ban.Accepts) ?_ ?_ main.npoBan _).bind
  apply (pushes_optional_text ?_ ?_ main.randomNumber _).bind
  apply (pushes_optional bondedAreaForm ?_ ?_ main.bondedAreaConfirm _).bind
  apply (pushes_optional zeroTaxRateReasonForm ?_ ?_ main.zeroTaxRateReason _).bind
  apply (pushes_optional_text ?_ ?_ main.reserved1 _).bind
  apply (pushes_optional_text ?_ ?_ main.reserved2 _).bind
  apply pushes_end ?_ String.toList_append main
  all_goals decide

/-- An item is read back. -/
theorem push_product_item_pushes (after : List String) (item : ProductItem) (before : String) :
    Pushes ["ProductItem"] after Grammar.productItem item before
      (pushProductItem before item) := by
  have hopen : (before ++ "<ProductItem>").toList =
      before.toList ++ (startTag "ProductItem").toList := String.toList_append
  apply (pushes_tag ?_ hopen).bind
  apply (pushes_element .plain ?_ item.description _).bind
  apply (pushes_element decimalForm ?_ item.quantity _).bind
  apply (pushes_optional_text ?_ ?_ item.unit _).bind
  apply (pushes_element decimalForm ?_ item.unitPrice _).bind
  apply (pushes_element taxTypeForm ?_ item.taxType _).bind
  apply (pushes_element decimalForm ?_ item.amount _).bind
  apply (pushes_element .plain ?_ item.sequenceNumber _).bind
  apply (pushes_optional_text ?_ ?_ item.remark _).bind
  apply (pushes_optional_text ?_ ?_ item.relateNumber _).bind
  apply pushes_end ?_ String.toList_append item
  all_goals decide

/-- What is pushed for an item does not depend on the output. -/
theorem push_product_item_eq (output : String) (item : ProductItem) :
    pushProductItem output item = output ++ pushProductItem "" item := by
  apply String.toList_injective
  simp [pushProductItem, push_text_element_toList, push_optional_toList]

/-- All items are read back, in their order. -/
theorem push_details_pushes (after : List String) (details : List ProductItem) (before : String) :
    Pushes ["Details"] after Grammar.details details before (pushDetailsXml before details) := by
  have hopen : (before ++ "<Details>").toList = before.toList ++ (startTag "Details").toList :=
    String.toList_append
  have hitem : ∀ item, Takes ["ProductItem"] ["ProductItem", "/Details"] Grammar.productItem
      (pushProductItem "" item).toList item := by
    intro item
    obtain ⟨symbols, hsymbols, htakes⟩ :=
      push_product_item_pushes ["ProductItem", "/Details"] item ""
    rwa [hsymbols]
  have hpos : ∀ item, (pushProductItem "" item).toList ≠ [] := by
    intro item
    simp [pushProductItem]
  have hitems : Pushes ["ProductItem", "/Details"] ["/Details"] (items Grammar.productItem) details
      (before ++ "<Details>") (details.foldl pushProductItem (before ++ "<Details>")) := by
    refine ⟨_, ?_, takes_items (by decide) (by decide) (decidedBy_bind (decidedBy_tag _)) hpos
      hitem details⟩
    have hpush : pushProductItem = fun output item => output ++ pushProductItem "" item :=
      funext fun output => funext fun item => push_product_item_eq output item
    rw [hpush]
    exact foldl_push_toList (pushProductItem "") _ details
  have hclose : (pushDetailsXml before details).toList =
      (details.foldl pushProductItem (before ++ "<Details>")).toList ++
        (endTag "Details").toList := String.toList_append
  exact (pushes_tag (by decide) hopen).bind (hitems.bind (pushes_end (by decide) hclose details))

theorem push_amount_pushes (after : List String) (amount : F0401Amount) (before : String) :
    Pushes ["Amount"] after Grammar.amount amount before (pushAmountXml before amount) := by
  have hopen : (before ++ "<Amount>").toList = before.toList ++ (startTag "Amount").toList :=
    String.toList_append
  apply (pushes_tag ?_ hopen).bind
  apply (pushes_element decimalForm ?_ amount.salesAmount _).bind
  apply (pushes_element decimalForm ?_ amount.freeTaxSalesAmount _).bind
  apply (pushes_element decimalForm ?_ amount.zeroTaxSalesAmount _).bind
  apply (pushes_element taxTypeForm ?_ amount.taxType _).bind
  apply (pushes_element taxRateForm ?_ amount.taxRate _).bind
  apply (pushes_element decimalForm ?_ amount.taxAmount _).bind
  apply (pushes_element decimalForm ?_ amount.totalAmount _).bind
  apply (pushes_optional decimalForm ?_ ?_ amount.discountAmount _).bind
  apply (pushes_optional decimalForm ?_ ?_ amount.originalCurrencyAmount _).bind
  apply (pushes_optional decimalForm ?_ ?_ amount.exchangeRate _).bind
  apply (pushes_optional (lexicalForm CurrencyCode.Accepts) ?_ ?_ amount.currency _).bind
  apply pushes_end ?_ String.toList_append amount
  all_goals decide

/-- The reader takes a whole document. -/
theorem reads_invoice (invoice : F0401Invoice) :
    Reads Grammar.invoice invoice.toXml.toList invoice := by
  have hopen : Reads (tag ("<Invoice xmlns=\"" ++ f0401Namespace ++ "\">"))
      ("<Invoice xmlns=\"" ++ f0401Namespace ++ "\">").toList () :=
    reads_tag [] rfl ⟨'<', _, rfl, rfl⟩
  obtain ⟨main, hmain, htakesMain⟩ := push_main_pushes ["Details"] invoice.main
    ("<Invoice xmlns=\"" ++ f0401Namespace ++ "\">")
  obtain ⟨details, hdetails, htakesDetails⟩ := push_details_pushes ["Amount"] invoice.details
    (pushMainXml ("<Invoice xmlns=\"" ++ f0401Namespace ++ "\">") invoice.main)
  obtain ⟨amount, hamount, htakesAmount⟩ := push_amount_pushes ["/Invoice"] invoice.amount
    (pushDetailsXml (pushMainXml ("<Invoice xmlns=\"" ++ f0401Namespace ++ "\">") invoice.main)
      invoice.details)
  have hclose := reads_endTag [] rfl "Invoice"
  have htext : invoice.toXml.toList = ("<Invoice xmlns=\"" ++ f0401Namespace ++ "\">").toList ++
      (main ++ (details ++ (amount ++ (endTag "Invoice").toList))) := by
    show (_ ++ "</Invoice>").toList = _
    rw [String.toList_append, hamount, hdetails, hmain]
    simp only [List.append_assoc]
    rfl
  -- Each part begins with its own tag, whatever follows.
  have hend : ∀ rest, Starts ["/Invoice"] ((endTag "Invoice").toList ++ rest) := by
    intro rest
    rw [endTag_eq_startTag]
    exact ⟨"/Invoice", List.mem_singleton_self _, by decide, rest, rfl⟩
  have hamountStarts : ∀ rest, Starts ["Amount"] ((amount ++ (endTag "Invoice").toList) ++ rest) :=
    fun rest => by
      rw [List.append_assoc]
      exact htakesAmount.starts _ (hend rest)
  have hdetailsStarts : ∀ rest, Starts ["Details"]
      ((details ++ (amount ++ (endTag "Invoice").toList)) ++ rest) := fun rest => by
    rw [List.append_assoc]
    exact htakesDetails.starts _ (hamountStarts rest)
  have hnew : F0401Invoice.new invoice.main invoice.details invoice.amount = .ok invoice := by
    rw [F0401Invoice.new, dif_neg (Nat.ne_of_gt invoice.details_pos),
      dif_neg (Nat.not_lt.2 invoice.details_le)]
  rw [htext]
  refine hopen.bind (htakesMain.reads.bind hdetailsStarts (htakesDetails.reads.bind hamountStarts
    (htakesAmount.reads.bind hend (hclose.bindNil ?_))))
  rw [hnew]
  exact reads_pure invoice

/-- The reader recovers every invoice from its document, so that the documents of distinct
invoices are distinct. -/
theorem to_xml_recovers :
    (∀ invoice : F0401Invoice, readInvoice invoice.toXml = some invoice) ∧
      Function.Injective F0401Invoice.toXml := by
  have hrecovers : ∀ invoice : F0401Invoice, readInvoice invoice.toXml = some invoice := by
    intro invoice
    have hreads := reads_invoice invoice []
    rw [List.append_nil] at hreads
    rw [readInvoice, hreads]
  refine ⟨hrecovers, fun invoice other h => ?_⟩
  have hsome : some invoice = some other := by
    rw [← hrecovers invoice, h, hrecovers other]
  exact Option.some.inj hsome

end TwEinvoice.Mig
