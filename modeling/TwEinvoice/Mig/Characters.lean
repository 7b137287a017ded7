import TwEinvoice.Mig.Schema
import TwEinvoice.Mig.Reader

/-!
# The characters of an F0401 document

Which characters a document can contain. Markup, lexical types and codes are printable ASCII, so
that any other character of the document comes from a text field, and with a valid report from
one of the free texts.
-/

namespace TwEinvoice.Mig

open Rust Xml

/-! ## Texts over an alphabet -/

/-- All characters of the text satisfy the predicate. -/
def Over (allowed : Char → Bool) (text : String) : Prop :=
  ∀ character ∈ text.toList, allowed character = true

instance (allowed : Char → Bool) (text : String) : Decidable (Over allowed text) :=
  decidable_of_iff (text.toList.all allowed = true) List.all_eq_true

/-- Printable ASCII. -/
def isPrintable (character : Char) : Bool := 32 ≤ character.toNat ∧ character.toNat < 127

/-- `Char` of XML 1.0. -/
def isXmlChar (character : Char) : Bool :=
  let code := character.toNat
  code = 0x9 ∨ code = 0xA ∨ code = 0xD ∨ (0x20 ≤ code ∧ code ≤ 0xD7FF) ∨
    (0xE000 ≤ code ∧ code ≤ 0xFFFD) ∨ (0x10000 ≤ code ∧ code ≤ 0x10FFFF)

section Over

variable {allowed : Char → Bool}

/-- A text that is put together is legal when its parts are. -/
theorem over_append (text more : String) :
    Over allowed (text ++ more) ↔ Over allowed text ∧ Over allowed more := by
  simp only [Over, String.toList_append, List.mem_append, or_imp, forall_and]

variable (hallowed : ∀ character, isPrintable character = true → allowed character = true)

include hallowed

/-- Printable text is allowed everywhere. -/
theorem over_printable {text : String} (h : Over isPrintable text) : Over allowed text :=
  fun character hmem => hallowed character (h character hmem)

/-- Printable text may be appended to anything. -/
theorem over_append_printable {more : String} (hmore : Over isPrintable more) (text : String) :
    Over allowed (text ++ more) ↔ Over allowed text := by
  rw [over_append]
  exact and_iff_left (over_printable hallowed hmore)

/-- Escapes are printable. -/
theorem over_push_escaped (output value : String) :
    Over allowed (pushEscaped output value) ↔ Over allowed output ∧ Over allowed value := by
  have hescape : ∀ character : Char, (∀ symbol ∈ escaping.escape character,
      allowed symbol = true) ↔ allowed character = true := by
    intro character
    show (∀ symbol ∈ (escapeCharacter character).toList, _) ↔ _
    unfold escapeCharacter
    split
    case h_6 => simp
    all_goals
      refine iff_of_true ?_ (hallowed _ rfl)
      exact over_printable hallowed (by decide)
  rw [Over, push_escaped_toList]
  simp only [List.mem_append, or_imp, forall_and, List.mem_flatMap, forall_exists_index, and_imp]
  refine and_congr_right fun _ => ?_
  constructor
  · intro h character hmem
    exact (hescape character).1 fun symbol hsymbol => h symbol character hmem hsymbol
  · intro h symbol character hmem
    exact (hescape character).2 (h character hmem) symbol

/-- An element with a printable tag is as legal as its value. -/
theorem over_push_text_element {tag : String} (htag : Over isPrintable tag)
    (output value : String) :
    Over allowed (pushTextElement output tag value) ↔ Over allowed output ∧ Over allowed value := by
  have hopen : Over isPrintable "<" := by decide
  have hclose : Over isPrintable ">" := by decide
  have hend : Over isPrintable "</" := by decide
  simp only [pushTextElement, over_append_printable hallowed hopen,
    over_append_printable hallowed hclose, over_append_printable hallowed hend,
    over_append_printable hallowed htag, over_push_escaped hallowed]

/-- An absent value adds nothing. -/
theorem over_push_optional {tag : String} (htag : Over isPrintable tag) (output : String)
    (value : Option String) :
    Over allowed (pushOptional output tag value) ↔
      Over allowed output ∧ ∀ text ∈ value.toList, Over allowed text := by
  cases value with
  | none => simp [pushOptional]
  | some value => simp [pushOptional, over_push_text_element hallowed htag]

/-- An optional value of a type whose texts are printable. -/
theorem over_push_wire {α : Type} {wire : α → String}
    (hwire : ∀ value, Over isPrintable (wire value)) {tag : String} (htag : Over isPrintable tag)
    (output : String) (value : Option α) :
    Over allowed (pushOptional output tag (value.map wire)) ↔ Over allowed output := by
  rw [over_push_optional hallowed htag]
  refine and_iff_left fun text htext => ?_
  obtain ⟨value, _, rfl⟩ := Option.map_eq_some_iff.1 (Option.mem_toList.1 htext)
  exact over_printable hallowed (hwire value)

end Over

/-! ## Printable field types -/

/-- Printable bytes make a printable text. -/
theorem printable_of_bytes {text : String}
    (h : ∀ byte ∈ intoBytes text, 32 ≤ byte.toNat ∧ byte.toNat < 127) :
    Over isPrintable text := by
  obtain ⟨hsmall, hbytes⟩ := @into_bytes_ascii text fun byte hmem => by
    have hrange := h byte hmem
    omega
  intro character hmem
  have hcharacter := hsmall character hmem
  have hrange := h (UInt8.ofNat character.toNat) (by
    rw [hbytes]
    exact List.mem_map_of_mem hmem)
  rw [UInt8.toNat_ofNat'] at hrange
  rw [isPrintable, decide_eq_true_eq]
  omega

theorem digit_range {byte : UInt8} (h : isAsciiDigit byte = true) :
    32 ≤ byte.toNat ∧ byte.toNat < 127 := by
  simp only [isAsciiDigit, decide_eq_true_eq, UInt8.le_iff_toNat_le, UInt8.reduceToNat] at h
  omega

theorem uppercase_range {byte : UInt8} (h : isAsciiUppercase byte = true) :
    32 ≤ byte.toNat ∧ byte.toNat < 127 := by
  simp only [isAsciiUppercase, decide_eq_true_eq, UInt8.le_iff_toNat_le, UInt8.reduceToNat] at h
  omega

theorem invoice_number_printable (number : InvoiceNumber) : Over isPrintable number.asStr := by
  obtain ⟨_, hletters, hdigits⟩ := number.accepted
  refine printable_of_bytes fun byte hmem => ?_
  rw [← List.take_append_drop 2 (intoBytes number.asStr), List.mem_append] at hmem
  rcases hmem with hmem | hmem
  · exact uppercase_range (List.all_eq_true.1 hletters byte hmem)
  · exact digit_range (List.all_eq_true.1 hdigits byte hmem)

theorem date_printable (date : MigDate) : Over isPrintable date.asStr := by
  obtain ⟨⟨_, hdigits⟩, _⟩ := date.accepted
  exact printable_of_bytes fun byte hmem => digit_range (List.all_eq_true.1 hdigits byte hmem)

theorem time_printable (time : MigTime) : Over isPrintable time.asStr := by
  obtain ⟨⟨hlength, hcolon, hsecond, hdigits⟩, _⟩ := time.accepted
  refine printable_of_bytes fun byte hmem => ?_
  obtain ⟨index, hindex⟩ := List.mem_iff_getElem?.1 hmem
  have hlt := (List.getElem?_eq_some_iff.1 hindex).choose
  rw [hlength] at hlt
  by_cases hpoint : index = 2 ∨ index = 5
  · have hbyte : byte = 58 := by
      rcases hpoint with rfl | rfl
      · exact Option.some.inj (hindex.symm.trans hcolon)
      · exact Option.some.inj (hindex.symm.trans hsecond)
    subst hbyte
    decide
  · have hplace : index ∈ [0, 1, 3, 4, 6, 7] := by
      simp only [List.mem_cons, List.not_mem_nil]
      omega
    have hdigit := List.all_eq_true.1 hdigits index hplace
    rw [hindex, Option.any_some] at hdigit
    exact digit_range hdigit

theorem ban_printable (ban : Ban) : Over isPrintable ban.asStr := by
  obtain ⟨_, hdigits⟩ := ban.accepted
  exact printable_of_bytes fun byte hmem => digit_range (List.all_eq_true.1 hdigits byte hmem)

theorem currency_printable (currency : CurrencyCode) : Over isPrintable currency.asStr := by
  obtain ⟨_, hletters⟩ := currency.accepted
  exact printable_of_bytes fun byte hmem => uppercase_range (List.all_eq_true.1 hletters byte hmem)

/-- Text of digits. -/
theorem digits_printable {text : String} (h : ∀ character ∈ text.toList, character.isDigit = true) :
    Over isPrintable text :=
  printable_of_bytes fun byte hmem =>
    digit_range (List.all_eq_true.1 ((all_ascii_digit_iff text).2 h) byte hmem)

theorem number_printable (number : Nat) : Over isPrintable (toString number) := by
  refine digits_printable fun character hmem => ?_
  have hdigits : (toString number).toList = Nat.toDigits 10 number := Nat.toList_repr
  rw [hdigits] at hmem
  exact Nat.isDigit_of_mem_toDigits (by omega) (by omega) hmem

theorem decimal_printable (decimal : MigDecimal) : Over isPrintable decimal.asStr := by
  obtain ⟨sign, hsign, htext, hinteger, hfraction⟩ := MigDecimal.canonical_text decimal.canonical
  have hpart : ∀ part, malformedPart part = false →
      ∀ character ∈ part, isPrintable character = true := by
    intro part hpart character hmem
    have hprintable := @digits_printable (String.ofList part)
      (by rw [String.toList_ofList]; exact (well_formed_part hpart).1)
    exact hprintable character (by rwa [String.toList_ofList])
  intro character hmem
  rw [htext] at hmem
  rcases List.mem_append.1 hmem with hmem | hmem
  · rcases hsign with rfl | rfl
    · cases hmem
    · rw [List.mem_singleton.1 hmem]
      rfl
  · rcases List.mem_append.1 hmem with hmem | hmem
    · exact hpart _ hinteger character hmem
    · cases hcase : MigDecimal.fraction decimal.asStr with
      | none => simp [hcase] at hmem
      | some part =>
          rw [hcase, Option.map_some, Option.getD_some] at hmem
          rcases List.mem_cons.1 hmem with rfl | hmem
          · rfl
          · exact hpart part (hfraction part hcase) character hmem

/-! ## Free texts -/

/-- The texts of a party that may hold any characters. -/
def RoleDescription.freeTexts (role : RoleDescription) : List String :=
  role.name :: (role.address.toList ++ role.personInCharge.toList ++
    role.telephoneNumber.toList ++ role.facsimileNumber.toList ++ role.emailAddress.toList ++
    role.customerNumber.toList ++ role.roleRemark.toList)

def F0401Main.freeTexts (main : F0401Main) : List String :=
  main.seller.freeTexts ++ main.buyer.freeTexts ++ main.mainRemark.toList ++
    main.category.toList ++ main.relateNumber.toList ++ main.groupMark.toList ++
    main.carrierType.toList ++ main.carrierId1.toList ++ main.carrierId2.toList ++
    main.reserved1.toList ++ main.reserved2.toList

def ProductItem.freeTexts (item : ProductItem) : List String :=
  item.description :: (item.unit.toList ++ item.remark.toList ++ item.relateNumber.toList)

/-- The texts of an invoice that a valid report leaves free: `RandomNumber` and the sequence
numbers are checked to be numbers. -/
def F0401Invoice.freeTexts (invoice : F0401Invoice) : List String :=
  invoice.main.freeTexts ++ invoice.details.flatMap ProductItem.freeTexts

section Over

variable {allowed : Char → Bool}
  (hallowed : ∀ character, isPrintable character = true → allowed character = true)

include hallowed

/-- Of a role only its free texts may be illegal. -/
theorem over_push_role {tag : String} (htag : Over isPrintable tag) (output : String)
    (role : RoleDescription) :
    Over allowed (pushRole output tag role) ↔
      Over allowed output ∧ ∀ text ∈ role.freeTexts, Over allowed text := by
  have hban := over_printable hallowed (ban_printable role.identifier)
  simp (disch := first | exact htag | decide) only [pushRole, over_push_text_element hallowed,
    over_push_optional hallowed, over_append_printable hallowed, hban, and_true]
  simp only [RoleDescription.freeTexts, List.mem_cons, List.mem_append, or_imp, forall_and,
    forall_eq, and_assoc]

/-- Of the main part only its free texts and the random number may be illegal. -/
theorem over_push_main (output : String) (main : F0401Main) :
    Over allowed (pushMainXml output main) ↔ Over allowed output ∧
      (∀ text ∈ main.freeTexts, Over allowed text) ∧
      ∀ text ∈ main.randomNumber.toList, Over allowed text := by
  have hnumber := over_printable hallowed (invoice_number_printable main.invoiceNumber)
  have hdate := over_printable hallowed (date_printable main.invoiceDate)
  have htime := over_printable hallowed (time_printable main.invoiceTime)
  have htype : Over allowed main.invoiceType.wireValue :=
    over_printable hallowed (by cases main.invoiceType <;> decide)
  have hdonate : Over allowed main.donateMark.wireValue :=
    over_printable hallowed (by cases main.donateMark <;> decide)
  have hprint : Over allowed main.printMark.wireValue :=
    over_printable hallowed (by cases main.printMark <;> decide)
  have hremark : ∀ remark, Over isPrintable (BuyerRemark.wireValue remark) := by
    rintro ⟨⟩ <;> decide
  have hcustoms : ∀ mark, Over isPrintable (CustomsClearanceMark.wireValue mark) := by
    rintro ⟨⟩ <;> decide
  have hbonded : ∀ area, Over isPrintable (BondedArea.wireValue area) := by rintro ⟨⟩ <;> decide
  have hreason : ∀ reason, Over isPrintable (ZeroTaxRateReason.wireValue reason) :=
    fun reason => number_printable reason.value.toNat
  simp (disch := decide) only [pushMainXml, over_push_text_element hallowed,
    over_push_wire hallowed ban_printable, over_push_wire hallowed hremark,
    over_push_wire hallowed hcustoms, over_push_wire hallowed hbonded,
    over_push_wire hallowed hreason, over_push_optional hallowed, over_push_role hallowed,
    over_append_printable hallowed, hnumber, hdate, htime, htype, hdonate, hprint, and_true]
  simp only [F0401Main.freeTexts, List.mem_append, or_imp, forall_and, and_assoc]
  tauto

/-- Of an item only its free texts and its sequence number may be illegal. -/
theorem over_push_product_item (output : String) (item : ProductItem) :
    Over allowed (pushProductItem output item) ↔ Over allowed output ∧
      (∀ text ∈ item.freeTexts, Over allowed text) ∧ Over allowed item.sequenceNumber := by
  have hquantity := over_printable hallowed (decimal_printable item.quantity)
  have hunitPrice := over_printable hallowed (decimal_printable item.unitPrice)
  have hamount := over_printable hallowed (decimal_printable item.amount)
  have htaxType : Over allowed item.taxType.wireValue :=
    over_printable hallowed (by cases item.taxType <;> decide)
  simp (disch := decide) only [pushProductItem, over_push_text_element hallowed,
    over_push_optional hallowed, over_append_printable hallowed, hquantity, hunitPrice, hamount,
    htaxType, and_true]
  simp only [ProductItem.freeTexts, List.mem_cons, List.mem_append, or_imp, forall_and, forall_eq,
    and_assoc]
  tauto

/-- The details are as legal as their items. -/
theorem over_push_details (output : String) (details : List ProductItem) :
    Over allowed (pushDetailsXml output details) ↔ Over allowed output ∧
      (∀ text ∈ details.flatMap ProductItem.freeTexts, Over allowed text) ∧
      ∀ item ∈ details, Over allowed item.sequenceNumber := by
  have hloop : ∀ output, Over allowed (details.foldl pushProductItem output) ↔
      Over allowed output ∧ (∀ text ∈ details.flatMap ProductItem.freeTexts, Over allowed text) ∧
        ∀ item ∈ details, Over allowed item.sequenceNumber := by
    induction details with
    | nil => simp
    | cons item details ih =>
        intro output
        rw [List.foldl_cons, ih, over_push_product_item hallowed]
        simp only [List.flatMap_cons, List.mem_append, List.mem_cons, or_imp, forall_and, forall_eq]
        tauto
  rw [pushDetailsXml, over_append_printable hallowed (by decide), hloop,
    over_append_printable hallowed (by decide)]

/-- All amounts are printable. -/
theorem over_push_amount (output : String) (amount : F0401Amount) :
    Over allowed (pushAmountXml output amount) ↔ Over allowed output := by
  have hdecimal : ∀ decimal : MigDecimal, Over allowed decimal.asStr := fun decimal =>
    over_printable hallowed (decimal_printable decimal)
  have htaxType : Over allowed amount.taxType.wireValue :=
    over_printable hallowed (by cases amount.taxType <;> decide)
  have htaxRate : Over allowed amount.taxRate.wireValue :=
    over_printable hallowed (by cases amount.taxRate <;> decide)
  simp (disch := decide) only [pushAmountXml, over_push_text_element hallowed,
    over_push_wire hallowed decimal_printable, over_push_wire hallowed currency_printable,
    over_append_printable hallowed, hdecimal, htaxType, htaxRate, and_true]

/-- A document whose numbers are over the alphabet is if its free texts are. -/
theorem over_to_xml {invoice : F0401Invoice}
    (hrandom : ∀ text ∈ invoice.main.randomNumber.toList, Over allowed text)
    (hsequence : ∀ item ∈ invoice.details, Over allowed item.sequenceNumber) :
    Over allowed invoice.toXml ↔ ∀ text ∈ invoice.freeTexts, Over allowed text := by
  have hopen : Over isPrintable ("<Invoice xmlns=\"" ++ f0401Namespace ++ "\">") := by decide
  rw [F0401Invoice.toXml, over_append_printable hallowed (by decide), over_push_amount hallowed,
    over_push_details hallowed, over_push_main hallowed]
  simp only [F0401Invoice.freeTexts, List.mem_append, or_imp, forall_and]
  have hstart := over_printable hallowed hopen
  tauto

end Over

/-! ## Valid reports -/

/-- With a valid report the sequence numbers count the items. -/
theorem sequence_number_of_valid {invoice : F0401Invoice}
    (h : invoice.validateSemantics.issues = []) {item : ProductItem} {index : Nat}
    (hitem : (item, index) ∈ invoice.details.zipIdx) :
    item.sequenceNumber = toString (index + 1) := by
  have hstep : ∀ report entry, (validateItemSemantics report entry).issues =
      report.issues ++ (validateItemSemantics .default entry).issues := by
    rintro report ⟨item, index⟩
    simp only [validateItemSemantics, pushIssue, ValidationReport.default]
    split_ifs <;> simp
  rw [F0401Invoice.validateSemantics, foldl_issues hstep] at h
  have hnone := List.flatMap_eq_nil_iff.1 (List.append_eq_nil_iff.1 h).2 _ hitem
  by_contra hne
  rw [validateItemSemantics, if_pos hne] at hnone
  simp [pushIssue] at hnone

/-- With a valid report the text is over the alphabet if the free texts are. -/
theorem over_to_xml_of_valid {allowed : Char → Bool}
    (hallowed : ∀ character, isPrintable character = true → allowed character = true)
    {invoice : F0401Invoice} (h : invoice.validate.isValid = true) :
    Over allowed invoice.toXml ↔ ∀ text ∈ invoice.freeTexts, Over allowed text := by
  obtain ⟨hschema, hsemantics⟩ := List.append_eq_nil_iff.1 (List.isEmpty_iff.1 h)
  refine over_to_xml hallowed (fun text htext => ?_) fun item hitem => ?_
  · have hfacet := holds_of_schema_valid hschema (.main .randomNumber)
    have hdigits : Facet.fourDigits.Holds text := by
      by_contra hviolated
      exact hfacet ⟨text, Option.mem_toList.1 htext, hviolated⟩
    exact over_printable hallowed (digits_printable hdigits.2)
  · obtain ⟨index, hindex⟩ := List.mem_iff_getElem?.1 hitem
    have hentry : (item, index) ∈ invoice.details.zipIdx := List.mem_zipIdx_iff_getElem?.2 hindex
    rw [sequence_number_of_valid hsemantics hentry]
    exact over_printable hallowed (number_printable (index + 1))

/-- A decimal that the generic profile of amounts accepts. -/
def sampleDecimal (text : String)
    (h : MigDecimal.check text 20 7 true = .ok () := by decide +kernel) : MigDecimal :=
  ⟨text, 20, 7, true, h⟩

/-- A consumer invoice with one item and this `MainRemark`. -/
def sampleInvoice (mainRemark : Option String) : F0401Invoice where
  main :=
    { invoiceNumber := ⟨"QQ12345678", by decide +kernel⟩
      invoiceDate := ⟨"20261025", by decide +kernel⟩
      invoiceTime := ⟨"14:30:00", by decide +kernel⟩
      seller := ⟨⟨"12345678", by decide +kernel⟩, "Seller & Co", some "Taipei <Test>", none, none,
        none, none, none, none⟩
      buyer := ⟨⟨b2cBuyer, by decide +kernel⟩, "ABCD", none, none, none, none, none, none, none⟩
      buyerRemark := none
      mainRemark
      customsClearanceMark := none
      category := none
      relateNumber := none
      invoiceType := .generalTax
      groupMark := none
      donateMark := .notDonated
      carrierType := none
      carrierId1 := none
      carrierId2 := none
      printMark := .print
      npoBan := none
      randomNumber := some "1234"
      bondedAreaConfirm := none
      zeroTaxRateReason := none
      reserved1 := none
      reserved2 := none }
  details := [⟨"Product", sampleDecimal "1", none, sampleDecimal "100", .taxable,
    sampleDecimal "100", "1", none, none⟩]
  amount := ⟨sampleDecimal "100", sampleDecimal "0", sampleDecimal "0", .taxable, .fivePercent,
    sampleDecimal "5", sampleDecimal "105", none, none, none, none⟩
  details_pos := by decide
  details_le := by decide

/-- Printable characters are legal in XML. -/
theorem xml_char_of_printable (character : Char) (h : isPrintable character = true) :
    isXmlChar character = true := by
  simp only [isPrintable, isXmlChar, decide_eq_true_eq] at h ⊢
  omega

/-- The document of an invoice with a valid report is made of XML characters exactly if its free
texts are. -/
theorem valid_legal_iff {invoice : F0401Invoice} (h : invoice.validate.isValid = true) :
    Over isXmlChar invoice.toXml ↔ ∀ text ∈ invoice.freeTexts, Over isXmlChar text :=
  over_to_xml_of_valid xml_char_of_printable h

theorem sample_valid_legal :
    (sampleInvoice none).validate.isValid = true ∧ (Over isXmlChar (sampleInvoice none).toXml ↔
      ∀ text ∈ (sampleInvoice none).freeTexts, Over isXmlChar text) := by
  have hvalid : (sampleInvoice none).validate.isValid = true := by decide +kernel
  exact ⟨hvalid, valid_legal_iff hvalid⟩

/-- A control character in `MainRemark` passes the checks and the serializer. -/
theorem control_character_valid_and_illegal :
    (sampleInvoice (some "\x01")).validate.isValid = true ∧
      ¬ Over isXmlChar (sampleInvoice (some "\x01")).toXml := by
  have hvalid : (sampleInvoice (some "\x01")).validate.isValid = true := by decide +kernel
  have hfree : "\x01" ∈ (sampleInvoice (some "\x01")).freeTexts := by
    simp [sampleInvoice, F0401Invoice.freeTexts, F0401Main.freeTexts]
  refine ⟨hvalid, fun hover => ?_⟩
  have htext := (over_to_xml_of_valid xml_char_of_printable hvalid).1 hover _ hfree
  exact absurd htext (by decide)

end TwEinvoice.Mig
