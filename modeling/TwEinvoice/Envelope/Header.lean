import TwEinvoice.Envelope.Wire
import TwEinvoice.Xml.Reader

/-!
# Reading the envelope header

A reader for the elements and attributes that precede the payloads of an envelope. It recovers
from the serialized bytes the routing, the count and the message type of every envelope,
whatever characters these contain.
-/

namespace TwEinvoice.Envelope

open Rust Parsing Xml Xml.Reader

/-- What an envelope states about itself. -/
structure EnvelopeHeader where
  routing : EnvelopeRouting
  count : Nat
  messageType : String
  version : String
  deriving DecidableEq

/-- The header that belongs to an envelope. -/
def InvoiceEnvelope.header (envelope : InvoiceEnvelope) : EnvelopeHeader :=
  ⟨envelope.routing, envelope.count, envelope.metadata.messageType,
    (envelopeProfile envelope.metadata.version).2⟩

/-! ## The reader -/

namespace Grammar

open Xml.Reader

/-- Read the start tag of the document. -/
def root : Xml.Reader Unit := do
  tag "<InvoiceEnvelope"
  let _ ← quoted "xmlns"
  let _ ← quoted "xmlns:xsi"
  let _ ← quoted "xsi:schemaLocation"
  tag ">"

/-- Read one principal, its identifier and its description. -/
def principal (name identifierName : String) : Xml.Reader (String × Option String) := do
  tag (startTag name)
  let identifier ← leaf identifierName
  let description ← optional (leaf "Description")
  tag (endTag name)
  return (identifier, description)

/-- Read a party. -/
def party (name : String) : Xml.Reader PartyInfo := do
  let (identifier, description) ← principal name "PartyId"
  return { identifier, description }

/-- Read the routing of a party. -/
def routing (name : String) : Xml.Reader RoutingInfo := do
  let (identifier, description) ← principal name "RoutingId"
  return { identifier, description }

/-- Read the start tag of the pack. -/
def pack : Xml.Reader (Nat × String × String) := do
  tag "<InvoicePack"
  let count ← quoted "count" >>= decimal
  let messageType ← quoted "messageType"
  let version ← quoted "version"
  tag ">"
  return (count, messageType, version)

/-- Read the header. -/
def header : Xml.Reader EnvelopeHeader := do
  root
  let sender ← party "From"
  let senderVac ← routing "FromVAC"
  let receiver ← party "To"
  let receiverVac ← routing "ToVAC"
  let (count, messageType, version) ← pack
  return { routing := ⟨sender, senderVac, receiver, receiverVac⟩, count, messageType, version }

end Grammar

/-- Decode the header of a serialized envelope. -/
def readHeader (bytes : List UInt8) : Option EnvelopeHeader := do
  let text ← fromUtf8 bytes
  let (header, _) ← Grammar.header text.toList
  return header

/-! ## Escapes -/

/-- The escapes of text. -/
def textEscaping : Escaping endsText where
  escape character := (escapeText character).toList
  unescape_escape character rest := by
    unfold escapeText
    split <;> simp_all [unescape, unescape_cons]
  not_stop character := by
    unfold escapeText
    split <;> simp_all [endsText]

/-- The escapes of attribute values. -/
def attributeEscaping : Escaping endsValue where
  escape character := (escapeAttribute character).toList
  unescape_escape character rest := by
    unfold escapeAttribute
    split <;> simp_all [unescape, unescape_cons]
  not_stop character := by
    unfold escapeAttribute
    split <;> simp_all [endsValue]

theorem escape_attribute_digit {digit : Char} (h : digit.isDigit = true) :
    attributeEscaping.escape digit = [digit] := by
  show (escapeAttribute digit).toList = [digit]
  unfold escapeAttribute
  split
  case h_6 => simp
  all_goals exact absurd h (by decide)

/-- A number is not escaped. -/
theorem escape_attribute_number (number : Nat) :
    (toString number).toList.flatMap attributeEscaping.escape = (toString number).toList := by
  have hdigits : (toString number).toList = Nat.toDigits 10 number := Nat.toList_repr
  have hescape : ∀ digit ∈ (toString number).toList,
      attributeEscaping.escape digit = [digit] := by
    intro digit hdigit
    rw [hdigits] at hdigit
    exact escape_attribute_digit (Nat.isDigit_of_mem_toDigits (by omega) (by omega) hdigit)
  rw [List.flatMap_congr hescape]
  exact List.flatMap_singleton' _

/-! ## The reader takes what the serializer pushes -/

/-- What is pushed after a line feed, which it ends with again, is what the reader takes for the
value. -/
def Pushes {α : Type} (reader : Xml.Reader α) (value : α) (before after : String) : Prop :=
  ∀ body, before.toList = body ++ ['\n'] →
    ∃ symbols, after.toList = body ++ symbols ++ ['\n'] ∧ Reads reader symbols value

/-- What is written one after the other is read one after the other. -/
theorem Pushes.bind {α β : Type} {reader : Xml.Reader α} {next : α → Xml.Reader β} {value : α}
    {result : β} {before middle after : String} (h : Pushes reader value before middle)
    (hnext : Pushes (next value) result middle after) :
    Pushes (reader >>= next) result before after := by
  intro body hbody
  obtain ⟨symbols, hmiddle, hreads⟩ := h body hbody
  obtain ⟨more, hafter, hmore⟩ := hnext (body ++ symbols) hmiddle
  exact ⟨symbols ++ more, by rw [hafter, List.append_assoc body], hreads.bind hmore⟩

/-- A reader that then computes its result. -/
theorem Pushes.returns {α β : Type} {reader : Xml.Reader α} {next : α → Xml.Reader β} {value : α}
    {result : β} {before after : String} (h : Pushes reader value before after)
    (hnext : next value = pure result) : Pushes (reader >>= next) result before after := by
  intro body hbody
  obtain ⟨symbols, hafter, hreads⟩ := h body hbody
  exact ⟨symbols, hafter, hreads.bindNil (hnext ▸ reads_pure result)⟩

/-- A principal is read back with its identifier and its description. -/
theorem push_principal_pushes (output name identifierName identifier : String)
    (description : Option String) :
    Pushes (Grammar.principal name identifierName) (identifier, description) output
      (pushPrincipal output name identifierName identifier description) := by
  intro body hbody
  have hopen := reads_startTag ['\n', ' ', ' '] rfl name
  have hclose := reads_endTag ['\n', ' ', ' '] rfl name
  have hidentifier := reads_leaf ['\n', ' ', ' ', ' ', ' '] rfl textEscaping identifierName
    identifier
  cases description with
  | none =>
      refine ⟨_, ?_, hopen.bind (hidentifier.bind ((reads_optional_none _).bind ?_
        (hclose.bindNil (reads_pure _))))⟩
      · simp [pushPrincipal, push_text_escaped_toList, hbody, startTag, endTag, textEscaping]
      · -- Without a description the end tag of the principal comes next.
        intro rest
        rw [endTag_toList, List.append_assoc]
        exact leaf_before_end ['\n', ' ', ' '] rfl (by decide) _
  | some description =>
      have hdescription := reads_leaf ['\n', ' ', ' ', ' ', ' '] rfl textEscaping
        "Description" description
      refine ⟨_, ?_, hopen.bind (hidentifier.bind ((reads_optional_some hdescription).bind
        (hclose.bindNil (reads_pure _))))⟩
      simp [pushPrincipal, push_text_escaped_toList, hbody, startTag, endTag, textEscaping]

theorem push_root_pushes (output envelopeNamespace : String) :
    Pushes Grammar.root () output (pushRoot output envelopeNamespace) := by
  intro body hbody
  have hopen : Reads (tag "<InvoiceEnvelope") (['\n'] ++ "<InvoiceEnvelope".toList) () :=
    reads_tag ['\n'] rfl ⟨'<', _, rfl, rfl⟩
  have hns := reads_quoted [' '] rfl attributeEscaping "xmlns"
    ⟨'x', _, rfl, rfl⟩ envelopeNamespace
  have hxsi := reads_quoted [' '] rfl attributeEscaping "xmlns:xsi"
    ⟨'x', _, rfl, rfl⟩ xsiNamespace
  have hschema := reads_quoted [' '] rfl attributeEscaping
    "xsi:schemaLocation" ⟨'x', _, rfl, rfl⟩
    (envelopeNamespace ++ " " ++ envelopeSchema)
  have hclose : Reads (tag ">") ([] ++ ">".toList) () :=
    reads_tag [] rfl ⟨'>', _, rfl, rfl⟩
  refine ⟨_, ?_, hopen.bind (hns.bind (hxsi.bind (hschema.bind hclose)))⟩
  simp [pushRoot, push_attribute_escaped_toList, hbody, attributeEscaping, escapeAttribute]

/-- The start of the pack is read back with its count and its type. -/
theorem push_pack_start_pushes (output : String) (count : Nat) (messageType versionToken : String) :
    Pushes Grammar.pack (count, messageType, versionToken) output
      (pushPackStart output count messageType versionToken) := by
  intro body hbody
  have hopen : Reads (tag "<InvoicePack") (['\n', ' ', ' '] ++ "<InvoicePack".toList) () :=
    reads_tag ['\n', ' ', ' '] rfl ⟨'<', _, rfl, rfl⟩
  have hcount := reads_quoted [' '] rfl attributeEscaping "count"
    ⟨'c', _, rfl, rfl⟩ (toString count)
  rw [escape_attribute_number] at hcount
  have htype := reads_quoted [' '] rfl attributeEscaping "messageType"
    ⟨'m', _, rfl, rfl⟩ messageType
  have hversion := reads_quoted [' '] rfl attributeEscaping "version"
    ⟨'v', _, rfl, rfl⟩ versionToken
  have hclose : Reads (tag ">") ([] ++ ">".toList) () :=
    reads_tag [] rfl ⟨'>', _, rfl, rfl⟩
  refine ⟨_, ?_, hopen.bind ((hcount.bindNil (reads_decimal count)).bind
    (htype.bind (hversion.bind (hclose.bindNil (reads_pure _)))))⟩
  simp [pushPackStart, push_attribute_escaped_toList, hbody, attributeEscaping]

theorem push_party_pushes (output name : String) (party : PartyInfo) :
    Pushes (Grammar.party name) party output (pushParty output name party) :=
  (push_principal_pushes output name "PartyId" party.identifier party.description).returns rfl

theorem push_routing_pushes (output name : String) (routing : RoutingInfo) :
    Pushes (Grammar.routing name) routing output (pushRouting output name routing) :=
  (push_principal_pushes output name "RoutingId" routing.identifier routing.description).returns rfl

/-- The reader takes what the serializer pushes before the payloads. -/
theorem push_header_pushes (envelope : InvoiceEnvelope) (output : String) :
    Pushes Grammar.header envelope.header (output ++ "\n") (envelope.pushHeader output) := by
  refine (push_root_pushes _ (envelopeProfile envelope.metadata.version).1).bind ?_
  refine (push_party_pushes _ "From" envelope.routing.from).bind ?_
  refine (push_routing_pushes _ "FromVAC" envelope.routing.fromVac).bind ?_
  refine (push_party_pushes _ "To" envelope.routing.to).bind ?_
  refine (push_routing_pushes _ "ToVAC" envelope.routing.toVac).bind ?_
  exact (push_pack_start_pushes _ _ _ _).returns rfl

/-- The header read from a serialized envelope is its own. -/
theorem read_header_recovers {envelope : InvoiceEnvelope} {bytes : List UInt8}
    (h : envelope.toTurnkeyXml = .ok bytes) : readHeader bytes = some envelope.header := by
  obtain ⟨text, rfl, htext⟩ := to_turnkey_xml_text h
  obtain ⟨symbols, hsymbols, hreads⟩ := push_header_pushes envelope "" [] rfl
  rw [hsymbols, List.nil_append, List.append_assoc] at htext
  show (fromUtf8 (intoBytes text)).bind _ = _
  rw [from_utf8_into_bytes, Option.bind_some, htext]
  show (Grammar.header _).bind _ = _
  rw [hreads]
  rfl

/-! ## Equal bytes -/

/-- Texts with the same bytes are the same. -/
theorem into_bytes_injective {text other : String} (h : intoBytes text = intoBytes other) :
    text = other := by
  have htext := from_utf8_into_bytes text
  rw [h, from_utf8_into_bytes] at htext
  exact (Option.some.inj htext).symm

/-- The header decides what is pushed before the payloads. -/
theorem push_header_eq_of_header {envelope other : InvoiceEnvelope}
    (h : envelope.header = other.header) (output : String) :
    envelope.pushHeader output = other.pushHeader output := by
  obtain ⟨hrouting, hcount, htype, _⟩ := EnvelopeHeader.mk.injEq .. ▸ h
  show pushPackStart _ envelope.count envelope.metadata.messageType _ =
    pushPackStart _ other.count other.metadata.messageType _
  rw [hrouting, hcount, htype]

/-- Envelopes that are serialized to the same bytes agree in the routing, the message type and the
number of payloads, and in what the pack holds. -/
theorem equal_bytes_agree {envelope other : InvoiceEnvelope} {bytes : List UInt8}
    (h : envelope.toTurnkeyXml = .ok bytes) (hother : other.toTurnkeyXml = .ok bytes) :
    envelope.routing = other.routing ∧
      envelope.metadata.messageType = other.metadata.messageType ∧
      envelope.count = other.count ∧
      envelope.payloads.flatMap MigPayload.lines = other.payloads.flatMap MigPayload.lines := by
  have hheader : envelope.header = other.header :=
    Option.some.inj ((read_header_recovers h).symm.trans (read_header_recovers hother))
  obtain ⟨text, rfl, htext⟩ := to_turnkey_xml_text h
  obtain ⟨otherText, hbytes, hotherText⟩ := to_turnkey_xml_text hother
  rw [into_bytes_injective hbytes, hotherText, push_header_eq_of_header hheader,
    List.append_cancel_left_eq, List.append_cancel_right_eq] at htext
  exact ⟨congrArg EnvelopeHeader.routing hheader, congrArg EnvelopeHeader.messageType hheader,
    congrArg EnvelopeHeader.count hheader, htext.symm⟩

/-- An envelope with one payload. -/
def singleEnvelope (payload : MigPayload) : InvoiceEnvelope where
  routing :=
    ⟨⟨"12345678", some "A</PartyId>"⟩, ⟨"FROM-VAC", none⟩, ⟨"0000000000", none⟩,
      ⟨"TO-VAC", none⟩⟩
  metadata := ⟨"F0401", .v4_1⟩
  payloads := [payload]
  payloads_pos := Nat.zero_lt_one
  payloads_le := (by decide : 1 ≤ maxPayloads)

def unterminatedPayload : MigPayload := ⟨intoBytes "<Invoice></Invoice>", by decide⟩

def terminatedPayload : MigPayload := ⟨intoBytes "<Invoice></Invoice>\r\n", by decide⟩

/-- Payloads with and without their last line feed make one envelope. -/
theorem sample_bytes_agree :
    (singleEnvelope unterminatedPayload).routing = (singleEnvelope terminatedPayload).routing ∧
      (singleEnvelope unterminatedPayload).metadata.messageType =
        (singleEnvelope terminatedPayload).metadata.messageType ∧
      (singleEnvelope unterminatedPayload).count = (singleEnvelope terminatedPayload).count ∧
      (singleEnvelope unterminatedPayload).payloads.flatMap MigPayload.lines =
        (singleEnvelope terminatedPayload).payloads.flatMap MigPayload.lines := by
  have hunterminated : (singleEnvelope unterminatedPayload).toTurnkeyXml = .ok _ :=
    to_turnkey_xml_single rfl (from_utf8_into_bytes "<Invoice></Invoice>") (by decide)
  have hterminated : (singleEnvelope terminatedPayload).toTurnkeyXml = .ok _ :=
    to_turnkey_xml_single rfl (from_utf8_into_bytes "<Invoice></Invoice>\r\n") (by decide)
  have hlines : lineNormalized "<Invoice></Invoice>" =
      lineNormalized "<Invoice></Invoice>\r\n" := by
    decide
  have happend : ∀ output, appendLikeJavaReadLine output "<Invoice></Invoice>" =
      appendLikeJavaReadLine output "<Invoice></Invoice>\r\n" := fun output => by
    rw [← String.toList_inj, append_like_java_read_line_toList, hlines,
      append_like_java_read_line_toList]
  rw [happend] at hunterminated
  exact equal_bytes_agree hunterminated hterminated

end TwEinvoice.Envelope
