import TwEinvoice.Rust.Text

/-!
# Primitives of the MIG messages

The lexical types of the MIG crate and the `Ban` of the core crate. A value carries the proof
that its `parse` accepts the text, so that no other text can be its value.
-/

namespace TwEinvoice.Mig

open Rust

inductive PrimitiveError where
  | invalidInvoiceNumber
  | invalidDate
  | invalidTime
  | invalidDecimal
  | negativeDecimal
  | decimalPrecision (maxTotalDigits maxFractionDigits : Nat)
  | invalidZeroTaxRateReason
  | invalidCurrencyCode
  deriving DecidableEq

/-- The `Display` of a `PrimitiveError`. -/
def PrimitiveError.display : PrimitiveError → String
  | .invalidInvoiceNumber =>
      "invoice number must be two uppercase letters followed by eight digits"
  | .invalidDate => "MIG date must use YYYYMMDD with valid month/day ranges"
  | .invalidTime => "MIG time must use canonical HH:MM:SS"
  | .invalidDecimal => "value is not a canonical XML decimal"
  | .negativeDecimal => "decimal value must not be negative"
  | .decimalPrecision maxTotalDigits maxFractionDigits =>
      "decimal exceeds " ++ toString maxTotalDigits ++ " total digits or " ++
        toString maxFractionDigits ++ " fractional digits"
  | .invalidZeroTaxRateReason => "zero-tax-rate reason must be in 71 through 79"
  | .invalidCurrencyCode => "currency code must contain exactly three uppercase ASCII letters"

/-! ## Lexical types -/

/-- A text that is accepted. -/
structure Lexical (accepts : String → Prop) where
  asStr : String
  accepted : accepts asStr

/-- Accept a text or fail. -/
def Lexical.parse (accepts : String → Prop) [DecidablePred accepts] {ε : Type} (error : ε)
    (value : String) : Except ε (Lexical accepts) :=
  if h : accepts value then .ok ⟨value, h⟩ else .error error

/-- The two-digit number of two digits. -/
def parseTwo : List UInt8 → UInt8
  | tens :: units :: _ => (tens - 48) * 10 + (units - 48)
  | _ => 0

/-- The texts of `InvoiceNumber::parse`. -/
def InvoiceNumber.Accepts (value : String) : Prop :=
  let bytes := intoBytes value
  bytes.length = 10 ∧ (bytes.take 2).all isAsciiUppercase ∧ (bytes.drop 2).all isAsciiDigit

instance : DecidablePred InvoiceNumber.Accepts := fun _ => inferInstanceAs (Decidable (_ ∧ _))

abbrev InvoiceNumber := Lexical InvoiceNumber.Accepts

/-- `InvoiceNumber::parse`. -/
def InvoiceNumber.parse : String → Except PrimitiveError InvoiceNumber :=
  Lexical.parse InvoiceNumber.Accepts .invalidInvoiceNumber

/-- The texts of `MigDate::parse`. -/
def MigDate.Accepts (value : String) : Prop :=
  let bytes := intoBytes value
  let month := parseTwo ((bytes.drop 4).take 2)
  let day := parseTwo ((bytes.drop 6).take 2)
  (bytes.length = 8 ∧ bytes.all isAsciiDigit) ∧
    (1 ≤ month ∧ month ≤ 12) ∧ 1 ≤ day ∧ day ≤ 31

instance : DecidablePred MigDate.Accepts := fun _ => inferInstanceAs (Decidable (_ ∧ _))

abbrev MigDate := Lexical MigDate.Accepts

/-- `MigDate::parse`. -/
def MigDate.parse : String → Except PrimitiveError MigDate :=
  Lexical.parse MigDate.Accepts .invalidDate

/-- `is_leap_year`. -/
def isLeapYear (year : UInt32) : Bool :=
  year % 400 = 0 ∨ (year % 4 = 0 ∧ year % 100 ≠ 0)

/-- The `max_day` of `MigDate::is_calendar_date`. -/
def maxDay (year : UInt32) (month : UInt8) : Option UInt8 :=
  match month.toNat with
  | 1 | 3 | 5 | 7 | 8 | 10 | 12 => some 31
  | 4 | 6 | 9 | 11 => some 30
  | 2 => if isLeapYear year then some 29 else some 28
  | _ => none

/-- `MigDate::is_calendar_date`. -/
def MigDate.isCalendarDate (date : MigDate) : Bool :=
  let bytes := intoBytes date.asStr
  let digit (index : Nat) : UInt32 := (bytes.getD index 48 - 48).toUInt32
  let year := digit 0 * 1000 + digit 1 * 100 + digit 2 * 10 + digit 3
  let month := parseTwo ((bytes.drop 4).take 2)
  let day := parseTwo ((bytes.drop 6).take 2)
  match maxDay year month with
  | some maxDay => day ≤ maxDay
  | none => false

/-- The texts of `MigTime::parse`. -/
def MigTime.Accepts (value : String) : Prop :=
  let bytes := intoBytes value
  (bytes.length = 8 ∧ bytes[2]? = some 58 ∧ bytes[5]? = some 58 ∧
    [0, 1, 3, 4, 6, 7].all fun index => bytes[index]?.any isAsciiDigit) ∧
    parseTwo (bytes.take 2) ≤ 23 ∧ parseTwo ((bytes.drop 3).take 2) ≤ 59 ∧
      parseTwo ((bytes.drop 6).take 2) ≤ 59

instance : DecidablePred MigTime.Accepts := fun _ => inferInstanceAs (Decidable (_ ∧ _))

abbrev MigTime := Lexical MigTime.Accepts

/-- `MigTime::parse`. -/
def MigTime.parse : String → Except PrimitiveError MigTime :=
  Lexical.parse MigTime.Accepts .invalidTime

/-- The texts of `CurrencyCode::parse`. -/
def CurrencyCode.Accepts (value : String) : Prop :=
  len value = 3 ∧ (intoBytes value).all isAsciiUppercase

instance : DecidablePred CurrencyCode.Accepts := fun _ => inferInstanceAs (Decidable (_ ∧ _))

abbrev CurrencyCode := Lexical CurrencyCode.Accepts

/-- `CurrencyCode::parse`. -/
def CurrencyCode.parse : String → Except PrimitiveError CurrencyCode :=
  Lexical.parse CurrencyCode.Accepts .invalidCurrencyCode

inductive BanError where
  | banError

/-- The texts of `Ban::parse`. -/
def Ban.Accepts (value : String) : Prop :=
  (8 ≤ len value ∧ len value ≤ 10) ∧ (intoBytes value).all isAsciiDigit

instance : DecidablePred Ban.Accepts := fun _ => inferInstanceAs (Decidable (_ ∧ _))

/-- MIG `BAN` data element. -/
abbrev Ban := Lexical Ban.Accepts

/-- `Ban::parse`. -/
def Ban.parse : String → Except BanError Ban := Lexical.parse Ban.Accepts .banError

/-- `Ban::B2C_BUYER`. -/
def b2cBuyer : String := "0000000000"

/-- `Ban::is_b2c_buyer`. -/
def Ban.isB2cBuyer (ban : Ban) : Bool := ban.asStr = b2cBuyer

/-! ## Decimals -/

/-- `value.strip_prefix('-').unwrap_or(value)`. -/
def stripMinus : List Char → List Char
  | '-' :: rest => rest
  | value => value

/-- A part of a decimal is empty or has a byte that is not an ASCII digit. -/
def malformedPart (part : List Char) : Bool :=
  part.isEmpty || !(intoBytes (String.ofList part)).all isAsciiDigit

/-- What `unsigned.split('.')` yields. -/
def MigDecimal.parts (value : String) : List (List Char) :=
  (stripMinus value.toList).splitOn '.'

/-- The `integer` of `MigDecimal::parse`. -/
def MigDecimal.integer (value : String) : List Char := (parts value).headD []

/-- The `fraction` of `MigDecimal::parse`. -/
def MigDecimal.fraction (value : String) : Option (List Char) := (parts value)[1]?

/-- The `fraction_len` of `MigDecimal::parse`. -/
def MigDecimal.fractionLen (value : String) : Nat :=
  ((fraction value).map fun digits => len (String.ofList digits)).getD 0

/-- The `total_digits` of `MigDecimal::parse`. -/
def MigDecimal.totalDigits (value : String) : Nat :=
  len (String.ofList (integer value)) + fractionLen value

/-- The checks of `MigDecimal::parse`, made one after another. -/
def MigDecimal.check (value : String) (maxTotalDigits maxFractionDigits : Nat)
    (nonNegative : Bool) : Except PrimitiveError Unit :=
  if (stripMinus value.toList).isEmpty || startsWith value "+" then .error .invalidDecimal
  else if nonNegative && startsWith value "-" then .error .negativeDecimal
  else if (parts value)[2]?.isSome || malformedPart (integer value) ||
      (fraction value).any malformedPart then
    .error .invalidDecimal
  else if totalDigits value > maxTotalDigits || fractionLen value > maxFractionDigits then
    .error (.decimalPrecision maxTotalDigits maxFractionDigits)
  else .ok ()

/-- Exact decimal text retained without floating-point conversion, accepted under some
constraints. -/
structure MigDecimal where
  asStr : String
  accepted : ∃ maxTotalDigits maxFractionDigits nonNegative,
    MigDecimal.check asStr maxTotalDigits maxFractionDigits nonNegative = .ok ()

/-- `MigDecimal::parse`. -/
def MigDecimal.parse (value : String) (maxTotalDigits maxFractionDigits : Nat)
    (nonNegative : Bool) : Except PrimitiveError MigDecimal :=
  match h : MigDecimal.check value maxTotalDigits maxFractionDigits nonNegative with
  | .ok () => .ok ⟨value, maxTotalDigits, maxFractionDigits, nonNegative, h⟩
  | .error error => .error error

/-- The conditions on a decimal that do not depend on the constraints. -/
def MigDecimal.Canonical (value : String) : Prop :=
  ((stripMinus value.toList).isEmpty || startsWith value "+") = false ∧
    ((parts value)[2]?.isSome || malformedPart (integer value) ||
      (fraction value).any malformedPart) = false

/-- What `MigDecimal::parse` accepts. -/
theorem MigDecimal.check_ok_iff (value : String) (maxTotalDigits maxFractionDigits : Nat)
    (nonNegative : Bool) :
    check value maxTotalDigits maxFractionDigits nonNegative = .ok () ↔
      Canonical value ∧ (nonNegative = true → startsWith value "-" = false) ∧
        totalDigits value ≤ maxTotalDigits ∧ fractionLen value ≤ maxFractionDigits := by
  unfold check Canonical
  split_ifs with hempty hnegative hmalformed hprecision
  · simp [hempty]
  · simp_all
  · simp [hmalformed]
  · simp only [Bool.or_eq_true, decide_eq_true_eq] at hprecision
    simp only [false_iff]
    omega
  · simp_all

/-- The text of a decimal satisfies them. -/
theorem MigDecimal.canonical (decimal : MigDecimal) : Canonical decimal.asStr := by
  obtain ⟨_, _, _, haccepted⟩ := decimal.accepted
  exact ((check_ok_iff _ _ _ _).1 haccepted).1

/-- A successful parse keeps the text. -/
theorem MigDecimal.parse_ok (decimal : MigDecimal) {maxTotalDigits maxFractionDigits : Nat}
    {nonNegative : Bool}
    (h : check decimal.asStr maxTotalDigits maxFractionDigits nonNegative = .ok ()) :
    parse decimal.asStr maxTotalDigits maxFractionDigits nonNegative = .ok decimal := by
  unfold parse
  split
  · rfl
  · rename_i herror
    rw [h] at herror
    cases herror

/-- A failed check is the failure of the parse. -/
theorem MigDecimal.parse_error {value : String} {maxTotalDigits maxFractionDigits : Nat}
    {nonNegative : Bool} {error : PrimitiveError}
    (h : check value maxTotalDigits maxFractionDigits nonNegative = .error error) :
    parse value maxTotalDigits maxFractionDigits nonNegative = .error error := by
  unfold parse
  split
  · rename_i hok
    rw [h] at hok
    cases hok
  · rename_i herror
    rw [h] at herror
    cases herror
    rfl

/-- The digits of a text. -/
def digits (text : List Char) : Nat := text.countP Char.isDigit

/-- The text from its first point on. -/
def fromPoint (text : List Char) : List Char := text.dropWhile (· != '.')

/-- A part that is not malformed is made of digits, which are one byte each. -/
theorem well_formed_part {part : List Char} (h : malformedPart part = false) :
    (∀ character ∈ part, character.isDigit = true) ∧ len (String.ofList part) = part.length := by
  have hbytes : (intoBytes (String.ofList part)).all isAsciiDigit = true := by
    simpa using (Bool.or_eq_false_iff.1 h).2
  have hdigits := (all_ascii_digit_iff _).1 hbytes
  have hlen := len_digits hdigits
  rw [String.toList_ofList] at hdigits hlen
  exact ⟨hdigits, hlen⟩

/-- The sign, the integer part and the fraction of a canonical decimal. -/
theorem MigDecimal.canonical_text {value : String} (h : Canonical value) :
    ∃ sign, (sign = [] ∨ sign = ['-']) ∧
      value.toList = sign ++ (integer value ++ ((fraction value).map ('.' :: ·)).getD []) ∧
      malformedPart (integer value) = false ∧
      ∀ part ∈ fraction value, malformedPart part = false := by
  obtain ⟨hparts, hinteger, hfraction⟩ : (parts value)[2]? = none ∧
      malformedPart (integer value) = false ∧ (fraction value).any malformedPart = false := by
    have hmalformed := h.2
    simp only [Bool.or_eq_false_iff, Option.isSome_eq_false_iff, Option.isNone_iff_eq_none]
      at hmalformed
    exact ⟨hmalformed.1.1, hmalformed.1.2, hmalformed.2⟩
  have hjoin : ['.'].intercalate (parts value) = stripMinus value.toList :=
    List.intercalate_splitOn '.'
  have hne : parts value ≠ [] := List.splitOn_ne_nil '.' _
  have hunsigned : stripMinus value.toList =
      integer value ++ ((fraction value).map ('.' :: ·)).getD [] := by
    rw [← hjoin, integer, fraction]
    match hcase : parts value with
    | [] => exact absurd hcase hne
    | [integer] => simp
    | [integer, fraction] => simp
    | _ :: _ :: _ :: _ => rw [hcase] at hparts; simp at hparts
  have hsign : ∃ sign, (sign = [] ∨ sign = ['-']) ∧
      value.toList = sign ++ stripMinus value.toList := by
    unfold stripMinus
    split
    next rest htext => exact ⟨['-'], .inr rfl, htext⟩
    · exact ⟨[], .inl rfl, rfl⟩
  obtain ⟨sign, hsign, htext⟩ := hsign
  refine ⟨sign, hsign, hunsigned ▸ htext, hinteger, ?_⟩
  rintro part hpart
  rw [Option.mem_def] at hpart
  rwa [hpart] at hfraction

/-- The digits of well-formed parts are their bytes. -/
theorem digits_part {part : List Char} (h : malformedPart part = false) :
    digits part = len (String.ofList part) := by
  obtain ⟨hdigits, hlen⟩ := well_formed_part h
  rw [hlen]
  exact List.countP_eq_length.2 hdigits

theorem not_mem_part {part : List Char} (h : malformedPart part = false) {character : Char}
    (hcharacter : character.isDigit = false) : character ∉ part := by
  intro hmem
  rw [(well_formed_part h).1 character hmem] at hcharacter
  cases hcharacter

/-- What `MigDecimal::parse` counts, in a canonical decimal. -/
theorem MigDecimal.canonical_digits {value : String} (h : Canonical value) :
    totalDigits value = digits value.toList ∧
      fractionLen value = digits (fromPoint value.toList) ∧
      (startsWith value "-" = true ↔ '-' ∈ value.toList) := by
  obtain ⟨sign, hsign, htext, hinteger, hfraction⟩ := canonical_text h
  -- The point is the first character that is not in the sign or the integer part.
  have hpointSign : ∀ character ∈ sign ++ integer value, (character != '.') = true := by
    intro character hmem
    rw [bne_iff_ne]
    rintro rfl
    rcases List.mem_append.1 hmem with hmem | hmem
    · rcases hsign with rfl | rfl <;> simp at hmem
    · exact not_mem_part hinteger rfl hmem
  have hsignDigits : digits sign = 0 := by rcases hsign with rfl | rfl <;> rfl
  have hpoint : fromPoint value.toList = ((fraction value).map ('.' :: ·)).getD [] := by
    rw [htext, ← List.append_assoc, fromPoint, List.dropWhile_append_of_pos hpointSign]
    cases fraction value <;> rfl
  have hfractionDigits : fractionLen value = digits (fromPoint value.toList) := by
    rw [hpoint, fractionLen]
    cases hcase : fraction value with
    | none => rfl
    | some part => exact (digits_part (hfraction part hcase)).symm
  refine ⟨?_, hfractionDigits, ?_⟩
  · rw [totalDigits, hfractionDigits, hpoint, htext]
    simp only [digits, List.countP_append] at hsignDigits ⊢
    rw [hsignDigits, Nat.zero_add, ← digits_part hinteger]
    rfl
  -- A minus is only found in the sign, since the parts are digits.
  · have hminus : '-' ∈ value.toList → sign = ['-'] := by
      intro hmem
      rw [htext] at hmem
      rcases List.mem_append.1 hmem with hmem | hmem
      · rcases hsign with rfl | rfl
        · cases hmem
        · rfl
      · rcases List.mem_append.1 hmem with hmem | hmem
        · exact absurd hmem (not_mem_part hinteger rfl)
        · cases hcase : fraction value with
          | none => simp [hcase] at hmem
          | some part =>
              have hpart : '-' ∉ part := not_mem_part (hfraction part hcase) rfl
              simp [hcase, hpart] at hmem
    refine ⟨fun hstarts => ?_, fun hmem => ?_⟩
    · exact (List.isPrefixOf_iff_prefix.1 hstarts).subset (List.mem_singleton_self '-')
    · rw [startsWith, htext, hminus hmem]
      rfl

/-! ## Codes -/

inductive InvoiceType where
  | generalTax
  | specialTax
  deriving DecidableEq

def InvoiceType.wireValue : InvoiceType → String
  | .generalTax => "07"
  | .specialTax => "08"

inductive DonateMark where
  | notDonated
  | donated
  deriving DecidableEq

def DonateMark.wireValue : DonateMark → String
  | .notDonated => "0"
  | .donated => "1"

inductive PrintMark where
  | print
  | doNotPrint
  deriving DecidableEq

def PrintMark.wireValue : PrintMark → String
  | .print => "Y"
  | .doNotPrint => "N"

inductive TaxType where
  | taxable
  | zeroRated
  | taxFree
  | specialTax
  | mixed
  deriving DecidableEq

def TaxType.wireValue : TaxType → String
  | .taxable => "1"
  | .zeroRated => "2"
  | .taxFree => "3"
  | .specialTax => "4"
  | .mixed => "9"

inductive TaxRate where
  | zero
  | onePercent
  | twoPercent
  | fivePercent
  | fifteenPercent
  | twentyFivePercent
  deriving DecidableEq

def TaxRate.wireValue : TaxRate → String
  | .zero => "0"
  | .onePercent => "0.01"
  | .twoPercent => "0.02"
  | .fivePercent => "0.05"
  | .fifteenPercent => "0.15"
  | .twentyFivePercent => "0.25"

inductive BuyerRemark where
  | deductibleExpense
  | deductibleFixedAsset
  | nonDeductibleExpense
  | nonDeductibleFixedAsset
  deriving DecidableEq

def BuyerRemark.wireValue : BuyerRemark → String
  | .deductibleExpense => "1"
  | .deductibleFixedAsset => "2"
  | .nonDeductibleExpense => "3"
  | .nonDeductibleFixedAsset => "4"

inductive CustomsClearanceMark where
  | notThroughCustoms
  | throughCustoms
  deriving DecidableEq

def CustomsClearanceMark.wireValue : CustomsClearanceMark → String
  | .notThroughCustoms => "1"
  | .throughCustoms => "2"

inductive BondedArea where
  | article7Paragraph4
  | article7Paragraph7
  | freeTradeZone
  | other
  deriving DecidableEq

def BondedArea.wireValue : BondedArea → String
  | .article7Paragraph4 => "1"
  | .article7Paragraph7 => "2"
  | .freeTradeZone => "3"
  | .other => "4"

/-- One of the official values 71 through 79. -/
structure ZeroTaxRateReason where
  value : UInt8
  in_range : 71 ≤ value ∧ value ≤ 79

/-- `ZeroTaxRateReason::new`. -/
def ZeroTaxRateReason.new (value : UInt8) : Except PrimitiveError ZeroTaxRateReason :=
  if h : 71 ≤ value ∧ value ≤ 79 then .ok ⟨value, h⟩ else .error .invalidZeroTaxRateReason

/-- `ZeroTaxRateReason::wire_value`. -/
def ZeroTaxRateReason.wireValue (reason : ZeroTaxRateReason) : String := toString reason.value.toNat

end TwEinvoice.Mig
