import TwEinvoice.Envelope.Wire
import TwEinvoice.Mig.Characters

/-!
# Invoices in a pack

F0401 documents as the payloads of an envelope. The pack holds the document of each invoice,
with its line ends normalized to line feeds, and one line feed after each.
-/

namespace TwEinvoice.Envelope

open Rust Mig

/-- The envelope whose payloads are the documents of the invoices. -/
def packInvoices (routing : EnvelopeRouting) (metadata : InvoicePackMetadata)
    (invoices : List F0401Invoice) : Except EnvelopeError InvoiceEnvelope := do
  let payloads ← invoices.mapM fun invoice => MigPayload.new (intoBytes invoice.toXml)
  InvoiceEnvelope.new routing metadata payloads

/-- The text with each of its line ends replaced by a line feed. -/
def normalized (text : String) : List Char := replaceCr (replaceCrLf text.toList)

theorem normalized_eq_self {text : String} (h : '\r' ∉ text.toList) :
    normalized text = text.toList := by
  rw [normalized, replace_cr_lf_eq_self h, replace_cr_eq_self h]

/-- A document begins and ends with markup. -/
theorem to_xml_ends (invoice : F0401Invoice) :
    ∃ body, invoice.toXml.toList = '<' :: 'I' :: (body ++ ['>']) := by
  obtain ⟨main, hmain, _⟩ := push_main_pushes [] invoice.main
    ("<Invoice xmlns=\"" ++ f0401Namespace ++ "\">")
  obtain ⟨details, hdetails, _⟩ := push_details_pushes [] invoice.details
    (pushMainXml ("<Invoice xmlns=\"" ++ f0401Namespace ++ "\">") invoice.main)
  obtain ⟨amount, hamount, _⟩ := push_amount_pushes [] invoice.amount
    (pushDetailsXml (pushMainXml ("<Invoice xmlns=\"" ++ f0401Namespace ++ "\">") invoice.main)
      invoice.details)
  obtain ⟨open_, hopen⟩ : ∃ rest, ("<Invoice xmlns=\"" ++ f0401Namespace ++ "\">").toList =
      '<' :: 'I' :: rest := ⟨_, rfl⟩
  have hclose : "</Invoice>".toList = "</Invoice".toList ++ ['>'] := rfl
  refine ⟨open_ ++ main ++ details ++ amount ++ "</Invoice".toList, ?_⟩
  show (_ ++ "</Invoice>").toList = _
  rw [String.toList_append, hamount, hdetails, hmain, hopen, hclose]
  simp only [List.cons_append, List.append_assoc]

/-- A document is not taken for one with an XML declaration. -/
theorem to_xml_no_declaration (invoice : F0401Invoice) :
    startsWith (trimStart invoice.toXml) "<?xml" = false := by
  obtain ⟨body, hbody⟩ := to_xml_ends invoice
  have htrim : (trimStart invoice.toXml).toList = '<' :: 'I' :: (body ++ ['>']) := by
    rw [trimStart, String.toList_ofList, hbody, List.dropWhile_cons_of_neg (by decide)]
  rw [startsWith, htrim]
  rfl

/-- A document is appended with its line ends normalized, and one line feed. -/
theorem append_document (output : String) (invoice : F0401Invoice) :
    (appendLikeJavaReadLine output invoice.toXml).toList =
      output.toList ++ (normalized invoice.toXml ++ ['\n']) := by
  obtain ⟨body, hbody⟩ := to_xml_ends invoice
  have hlast : ∃ before, replaceCr (replaceCrLf invoice.toXml.toList) = before ++ ['>'] := by
    rw [hbody, ← List.cons_append, ← List.cons_append, replace_cr_lf_concat _ (by decide)]
    exact ⟨_, List.map_append ..⟩
  obtain ⟨before, hbefore⟩ := hlast
  have hnot : (replaceCr (replaceCrLf invoice.toXml.toList)).getLast? ≠ some '\n' := by
    rw [hbefore, List.getLast?_concat]
    decide
  rw [append_like_java_read_line_toList, lineNormalized, if_neg hnot]
  rfl

/-- The payload of an invoice. -/
def documentPayload (invoice : F0401Invoice) : MigPayload where
  bytes := intoBytes invoice.toXml
  nonempty := by
    obtain ⟨body, hbody⟩ := to_xml_ends invoice
    intro hempty
    have htext := from_utf8_into_bytes invoice.toXml
    rw [hempty] at htext
    have hnil : invoice.toXml = "" := Option.some.inj htext.symm
    rw [hnil] at hbody
    cases hbody

/-- Every invoice makes a payload. -/
theorem pack_payloads (invoices : List F0401Invoice) :
    invoices.mapM (fun invoice => MigPayload.new (intoBytes invoice.toXml)) =
      .ok (invoices.map documentPayload) := by
  have hnew : ∀ invoice : F0401Invoice,
      MigPayload.new (intoBytes invoice.toXml) = .ok (documentPayload invoice) :=
    fun invoice => dif_neg (documentPayload invoice).nonempty
  induction invoices with
  | nil => rfl
  | cons invoice invoices ih =>
      rw [List.mapM_cons, hnew, ih]
      rfl

/-- The loop appends the documents in their order. -/
theorem push_documents (invoices : List F0401Invoice) (start : Nat) (output : String) :
    ∃ result, ((invoices.map documentPayload).zipIdx start).foldlM pushPayload output = .ok result ∧
      result.toList = output.toList ++
        invoices.flatMap fun invoice => normalized invoice.toXml ++ ['\n'] := by
  induction invoices generalizing start output with
  | nil => exact ⟨output, rfl, (List.append_nil _).symm⟩
  | cons invoice invoices ih =>
      have hpush := @push_payload_text (documentPayload invoice) _
        (from_utf8_into_bytes invoice.toXml) (to_xml_no_declaration invoice) output start
      obtain ⟨result, hresult, htext⟩ :=
        ih (start + 1) (appendLikeJavaReadLine output invoice.toXml)
      refine ⟨result, ?_, ?_⟩
      · rw [List.map_cons, List.zipIdx_cons, List.foldlM_cons, hpush]
        exact hresult
      · rw [htext, append_document, List.flatMap_cons, List.append_assoc]

/-- Between the start tag line of the pack, which states their number, and its end tag are the
documents. -/
theorem pack_text (routing : EnvelopeRouting) (metadata : InvoicePackMetadata)
    {invoices : List F0401Invoice} (hpos : 0 < invoices.length)
    (hle : invoices.length ≤ maxPayloads) :
    ∃ envelope text before, packInvoices routing metadata invoices = .ok envelope ∧
      envelope.toTurnkeyXml = .ok (intoBytes text) ∧
      envelope.pushHeader "" = pushPackStart before invoices.length metadata.messageType
        (envelopeProfile metadata.version).2 ∧
      text.toList = (envelope.pushHeader "").toList ++
        (invoices.flatMap fun invoice => normalized invoice.toXml ++ ['\n']) ++
        "</InvoicePack>\n</InvoiceEnvelope>\n".toList := by
  obtain ⟨envelope, hnew, hmetadata, hpayloads⟩ : ∃ envelope,
      InvoiceEnvelope.new routing metadata (invoices.map documentPayload) = .ok envelope ∧
        envelope.metadata = metadata ∧ envelope.payloads = invoices.map documentPayload := by
    rw [InvoiceEnvelope.new, dif_neg (by rw [List.length_map]; omega),
      dif_neg (by rw [List.length_map]; omega)]
    exact ⟨_, rfl, rfl, rfl⟩
  obtain ⟨result, hresult, htext⟩ := push_documents invoices 0 (envelope.pushHeader "")
  obtain ⟨before, hbefore⟩ : ∃ before, envelope.pushHeader "" =
      pushPackStart before envelope.payloads.length envelope.metadata.messageType
        (envelopeProfile envelope.metadata.version).2 := ⟨_, rfl⟩
  rw [hpayloads, hmetadata, List.length_map] at hbefore
  refine ⟨envelope, result ++ "</InvoicePack>\n</InvoiceEnvelope>\n", before, ?_, ?_, hbefore, ?_⟩
  · rw [packInvoices, pack_payloads]
    exact hnew
  · rw [InvoiceEnvelope.toTurnkeyXml, hpayloads, hresult]
    rfl
  · rw [String.toList_append, htext]

/-- What the pack holds has no carriage return. -/
theorem normalized_documents_no_cr (invoices : List F0401Invoice) :
    '\r' ∉ invoices.flatMap fun invoice => normalized invoice.toXml ++ ['\n'] := by
  intro hmem
  obtain ⟨invoice, _, hinvoice⟩ := List.mem_flatMap.1 hmem
  rcases List.mem_append.1 hinvoice with hdocument | hend
  · exact replace_cr_not_mem _ hdocument
  · exact absurd hend (by decide)

/-- With a valid report a carriage return of the document is one of a free text. -/
theorem no_carriage_return_iff {invoice : F0401Invoice} (h : invoice.validate.isValid = true) :
    '\r' ∉ invoice.toXml.toList ↔ ∀ text ∈ invoice.freeTexts, '\r' ∉ text.toList := by
  have hover : ∀ text : String, Over (· != '\r') text ↔ '\r' ∉ text.toList := by
    intro text
    refine ⟨fun hover hmem => absurd (hover _ hmem) (by decide), fun hnot character hmem => ?_⟩
    rw [bne_iff_ne]
    rintro rfl
    exact hnot hmem
  have hallowed : ∀ character, isPrintable character = true → (character != '\r') = true := by
    intro character hprintable
    rw [bne_iff_ne]
    rintro rfl
    cases hprintable
  simpa only [hover] using over_to_xml_of_valid hallowed h

/-- The documents of invoices with valid reports are in the pack with their line ends normalized,
and verbatim exactly if no free text has a carriage return. -/
theorem packed_invoices_normalized (routing : EnvelopeRouting) (metadata : InvoicePackMetadata)
    {invoices : List F0401Invoice} (hpos : 0 < invoices.length)
    (hle : invoices.length ≤ maxPayloads)
    (hvalid : ∀ invoice ∈ invoices, invoice.validate.isValid = true) :
    (∃ envelope text before, packInvoices routing metadata invoices = .ok envelope ∧
      envelope.toTurnkeyXml = .ok (intoBytes text) ∧
      envelope.pushHeader "" = pushPackStart before invoices.length metadata.messageType
        (envelopeProfile metadata.version).2 ∧
      text.toList = (envelope.pushHeader "").toList ++
        (invoices.flatMap fun invoice => normalized invoice.toXml ++ ['\n']) ++
        "</InvoicePack>\n</InvoiceEnvelope>\n".toList) ∧
    ((invoices.flatMap fun invoice => normalized invoice.toXml ++ ['\n']) =
        (invoices.flatMap fun invoice => invoice.toXml.toList ++ ['\n']) ↔
      ∀ invoice ∈ invoices, ∀ text ∈ invoice.freeTexts, '\r' ∉ text.toList) := by
  refine ⟨pack_text routing metadata hpos hle, fun hsame invoice hinvoice => ?_, fun hnone => ?_⟩
  · rw [← no_carriage_return_iff (hvalid invoice hinvoice)]
    intro hmem
    refine normalized_documents_no_cr invoices ?_
    rw [hsame]
    exact List.mem_flatMap.2 ⟨invoice, hinvoice, List.mem_append_left _ hmem⟩
  · refine List.flatMap_congr fun invoice hinvoice => ?_
    have hnot := (no_carriage_return_iff (hvalid invoice hinvoice)).2 (hnone invoice hinvoice)
    rw [normalized_eq_self hnot]

/-- Routing with the parties of the sample invoice. -/
def sampleRouting : EnvelopeRouting :=
  ⟨⟨"12345678", none⟩, ⟨"12345678", none⟩, ⟨b2cBuyer, none⟩, ⟨b2cBuyer, none⟩⟩

/-- Two invoices, one of them with a carriage return. -/
def sampleInvoices : List F0401Invoice := [sampleInvoice none, sampleInvoice (some "\r")]

/-- Two invoices, one of them with a carriage return. -/
theorem sample_packed_normalized :
    (∃ envelope text before,
      packInvoices sampleRouting ⟨"F0401", .v4_1⟩ sampleInvoices = .ok envelope ∧
      envelope.toTurnkeyXml = .ok (intoBytes text) ∧
      envelope.pushHeader "" = pushPackStart before 2 "F0401" (envelopeProfile .v4_1).2 ∧
      text.toList = (envelope.pushHeader "").toList ++
        (sampleInvoices.flatMap fun invoice => normalized invoice.toXml ++ ['\n']) ++
        "</InvoicePack>\n</InvoiceEnvelope>\n".toList) ∧
    ((sampleInvoices.flatMap fun invoice => normalized invoice.toXml ++ ['\n']) =
        (sampleInvoices.flatMap fun invoice => invoice.toXml.toList ++ ['\n']) ↔
      ∀ invoice ∈ sampleInvoices, ∀ text ∈ invoice.freeTexts, '\r' ∉ text.toList) := by
  have hvalid : ∀ invoice ∈ sampleInvoices, invoice.validate.isValid = true := by decide +kernel
  exact packed_invoices_normalized sampleRouting ⟨"F0401", .v4_1⟩ (by decide) (by decide) hvalid

/-- A carriage return in `MainRemark` passes the checks and is not kept. -/
theorem carriage_return_not_kept :
    (sampleInvoice (some "\r")).validate.isValid = true ∧ ∃ envelope text,
      packInvoices sampleRouting ⟨"F0401", .v4_1⟩ [sampleInvoice (some "\r")] = .ok envelope ∧
      envelope.toTurnkeyXml = .ok (intoBytes text) ∧
      text.toList ≠ (envelope.pushHeader "").toList ++
        ([sampleInvoice (some "\r")].flatMap fun invoice => invoice.toXml.toList ++ ['\n']) ++
        "</InvoicePack>\n</InvoiceEnvelope>\n".toList := by
  have hvalid : (sampleInvoice (some "\r")).validate.isValid = true := by decide +kernel
  obtain ⟨envelope, text, _, hpack, hserialize, _, htext⟩ :=
    @pack_text sampleRouting ⟨"F0401", .v4_1⟩ [sampleInvoice (some "\r")]
      (by decide) (by decide)
  refine ⟨hvalid, envelope, text, hpack, hserialize, fun hverbatim => ?_⟩
  rw [htext, List.append_cancel_right_eq, List.append_cancel_left_eq] at hverbatim
  have hfree : "\r" ∈ (sampleInvoice (some "\r")).freeTexts := by
    simp [sampleInvoice, F0401Invoice.freeTexts, F0401Main.freeTexts]
  refine normalized_documents_no_cr [sampleInvoice (some "\r")] ?_
  rw [hverbatim]
  refine List.mem_flatMap.2 ⟨_, List.mem_singleton_self _, List.mem_append_left _ ?_⟩
  by_contra hnot
  exact (no_carriage_return_iff hvalid).1 hnot "\r" hfree (by decide)

end TwEinvoice.Envelope
