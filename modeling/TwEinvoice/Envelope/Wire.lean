import TwEinvoice.Rust.Machine
import TwEinvoice.Rust.Text

/-!
# The invoice envelope and its serializer

The envelope crate: the envelope with its payload cardinality, and `to_turnkey_xml`. The
functions that push to the output `String` return the extended output. The capacity that the
source reserves for it is left out.
-/

namespace TwEinvoice.Envelope

open Rust

/-- MIG generation currently targeted by this project. -/
inductive MigVersion where
  | v4_1
  deriving DecidableEq

/-- MIG version token used in message/common-name metadata. -/
def MigVersion.asStr : MigVersion → String
  | .v4_1 => "4.1"

/-- Party information carried by the Turnkey invoice envelope. -/
structure PartyInfo where
  identifier : String
  description : Option String
  deriving DecidableEq

/-- Routing/VAC information carried alongside a party. -/
structure RoutingInfo where
  identifier : String
  description : Option String
  deriving DecidableEq

/-- The four routing principals required by the MIG 4.1 invoice envelope. -/
structure EnvelopeRouting where
  «from» : PartyInfo
  fromVac : RoutingInfo
  «to» : PartyInfo
  toVac : RoutingInfo
  deriving DecidableEq

/-- Metadata attached to `InvoicePack`. -/
structure InvoicePackMetadata where
  messageType : String
  version : MigVersion
  deriving DecidableEq

/-- Why an envelope or a payload cannot be built. -/
inductive EnvelopeError where
  | emptyPayload
  | noPayloads
  | tooManyPayloads (count max : Nat)
  deriving DecidableEq

/-- Opaque serialized MIG payload. -/
structure MigPayload where
  bytes : List UInt8
  nonempty : bytes ≠ []
  deriving DecidableEq

/-- `MigPayload::new`. -/
def MigPayload.new (bytes : List UInt8) : Except EnvelopeError MigPayload :=
  if h : bytes = [] then .error .emptyPayload else .ok ⟨bytes, h⟩

/-- `InvoiceEnvelope::MAX_PAYLOADS`. -/
def maxPayloads : Nat := 1000

/-- Specification-driven representation of `InvoiceEnvelope`, with its cardinality. -/
structure InvoiceEnvelope where
  routing : EnvelopeRouting
  metadata : InvoicePackMetadata
  payloads : List MigPayload
  payloads_pos : 0 < payloads.length
  payloads_le : payloads.length ≤ maxPayloads
  deriving DecidableEq

/-- `InvoiceEnvelope::new`. -/
def InvoiceEnvelope.new (routing : EnvelopeRouting) (metadata : InvoicePackMetadata)
    (payloads : List MigPayload) : Except EnvelopeError InvoiceEnvelope :=
  if hpos : payloads.length = 0 then .error .noPayloads
  else if hmax : payloads.length > maxPayloads then
    .error (.tooManyPayloads payloads.length maxPayloads)
  else .ok ⟨routing, metadata, payloads, Nat.pos_of_ne_zero hpos, Nat.le_of_not_gt hmax⟩

/-- `InvoiceEnvelope::count`. -/
def InvoiceEnvelope.count (envelope : InvoiceEnvelope) : Nat := envelope.payloads.length

/-- Serialization error for the strict Linux Turnkey envelope profile. -/
inductive EnvelopeSerializeError where
  | payloadNotUtf8 (index : Nat)
  | embeddedXmlDeclaration (index : Nat)
  deriving DecidableEq

def xsiNamespace : String := "http://www.w3.org/2001/XMLSchema-instance"

def envelopeNamespaceV41 : String := "urn:GEINV:InvoiceEnvelope:4.1"

def envelopeSchema : String := "InvoiceEnvelope.xsd"

/-! ## Escaping -/

/-- Push each character in its escaped form. -/
def pushEscaped (escape : Char → String) (output input : String) : String :=
  input.toList.foldl (fun output character => output ++ escape character) output

/-- The escapes of `push_text_escaped`. -/
def escapeText : Char → String
  | '&' => "&amp;"
  | '<' => "&lt;"
  | '>' => "&gt;"
  | character => character.toString

/-- The escapes of `push_attribute_escaped`. -/
def escapeAttribute : Char → String
  | '&' => "&amp;"
  | '<' => "&lt;"
  | '>' => "&gt;"
  | '"' => "&quot;"
  | '\'' => "&apos;"
  | character => character.toString

/-- `push_text_escaped`. -/
def pushTextEscaped (output input : String) : String := pushEscaped escapeText output input

/-- `push_attribute_escaped`. -/
def pushAttributeEscaped (output input : String) : String :=
  pushEscaped escapeAttribute output input

/-! ## The serializer -/

/-- `envelope_profile`. -/
def envelopeProfile : MigVersion → String × String
  | .v4_1 => (envelopeNamespaceV41, "v41")

/-- Push an element with an identifier and an optional description. -/
def pushPrincipal (output tag identifierTag identifier : String) (description : Option String) :
    String :=
  let output := output ++ "  <" ++ tag ++ ">\n    <" ++ identifierTag ++ ">"
  let output := pushTextEscaped output identifier
  let output := output ++ "</" ++ identifierTag ++ ">\n"
  let output :=
    match description with
    | some description =>
        pushTextEscaped (output ++ "    <Description>") description ++ "</Description>\n"
    | none => output
  output ++ "  </" ++ tag ++ ">\n"

/-- `push_party`. -/
def pushParty (output tag : String) (party : PartyInfo) : String :=
  pushPrincipal output tag "PartyId" party.identifier party.description

/-- `push_routing`. -/
def pushRouting (output tag : String) (routing : RoutingInfo) : String :=
  pushPrincipal output tag "RoutingId" routing.identifier routing.description

/-- `append_like_java_read_line`. -/
def appendLikeJavaReadLine (output input : String) : String :=
  let normalized := replaceCr (replaceCrLf input.toList)
  if normalized = [] then output ++ "\n"
  else
    (splitTerminator '\n' normalized).foldl
      (fun output line => output ++ String.ofList line ++ "\n") output

/-- The start tag of the document, in `to_turnkey_xml`. -/
def pushRoot (output envelopeNamespace : String) : String :=
  let output := output ++ "<InvoiceEnvelope xmlns=\""
  let output := pushAttributeEscaped output envelopeNamespace
  let output := output ++ "\" xmlns:xsi=\""
  let output := pushAttributeEscaped output xsiNamespace
  let output := output ++ "\" xsi:schemaLocation=\""
  let output := pushAttributeEscaped output envelopeNamespace
  let output := output ++ " "
  let output := pushAttributeEscaped output envelopeSchema
  output ++ "\">\n"

/-- The start tag of the pack, in `to_turnkey_xml`. -/
def pushPackStart (output : String) (count : Nat) (messageType versionToken : String) : String :=
  let output := output ++ "  <InvoicePack count=\""
  let output := output ++ toString count
  let output := output ++ "\" messageType=\""
  let output := pushAttributeEscaped output messageType
  let output := output ++ "\" version=\""
  let output := pushAttributeEscaped output versionToken
  output ++ "\">\n"

/-- The output of `to_turnkey_xml` before its loop. -/
def InvoiceEnvelope.pushHeader (envelope : InvoiceEnvelope) (output : String) : String :=
  let (envelopeNamespace, versionToken) := envelopeProfile envelope.metadata.version
  -- The official no-start-document JAXB/StAX path emits this leading LF.
  let output := output ++ "\n"
  let output := pushRoot output envelopeNamespace
  let output := pushParty output "From" envelope.routing.from
  let output := pushRouting output "FromVAC" envelope.routing.fromVac
  let output := pushParty output "To" envelope.routing.to
  let output := pushRouting output "ToVAC" envelope.routing.toVac
  pushPackStart output envelope.payloads.length envelope.metadata.messageType versionToken

/-- The body of the loop of `to_turnkey_xml`. -/
def pushPayload (output : String) (entry : MigPayload × Nat) :
    Except EnvelopeSerializeError String :=
  let (payload, index) := entry
  match fromUtf8 payload.bytes with
  | none => .error (.payloadNotUtf8 index)
  | some text =>
      if startsWith (trimStart text) "<?xml" then .error (.embeddedXmlDeclaration index)
      else .ok (appendLikeJavaReadLine output text)

/-- `InvoiceEnvelope::to_turnkey_xml`. -/
def InvoiceEnvelope.toTurnkeyXml (envelope : InvoiceEnvelope) :
    Except EnvelopeSerializeError (List UInt8) := do
  let output ← envelope.payloads.zipIdx.foldlM pushPayload (envelope.pushHeader "")
  return intoBytes (output ++ "</InvoicePack>\n</InvoiceEnvelope>\n")

/-! ## What is pushed -/

/-- The escaped characters are appended to the output. -/
theorem pushEscaped_toList (escape : Char → String) (output input : String) :
    (pushEscaped escape output input).toList =
      output.toList ++ input.toList.flatMap fun character => (escape character).toList :=
  foldl_push_toList escape output input.toList

theorem push_text_escaped_toList (output input : String) :
    (pushTextEscaped output input).toList =
      output.toList ++ input.toList.flatMap fun character => (escapeText character).toList :=
  pushEscaped_toList escapeText output input

theorem push_attribute_escaped_toList (output input : String) :
    (pushAttributeEscaped output input).toList =
      output.toList ++ input.toList.flatMap fun character => (escapeAttribute character).toList :=
  pushEscaped_toList escapeAttribute output input

/-- The text with its line ends replaced by line feeds, and a line feed at its end. -/
def lineNormalized (text : String) : List Char :=
  let normalized := replaceCr (replaceCrLf text.toList)
  if normalized.getLast? = some '\n' then normalized else normalized ++ ['\n']

/-- The loop over the lines appends each with a line feed. -/
theorem push_lines_toList (output : String) (lines : List (List Char)) :
    (lines.foldl (fun output line => output ++ String.ofList line ++ "\n") output).toList =
      output.toList ++ lines.flatMap fun line => line ++ ['\n'] := by
  have hpush : (fun output line => output ++ String.ofList line ++ "\n") =
      fun (output : String) line => output ++ (String.ofList line ++ "\n") :=
    funext fun output => funext fun line => String.append_assoc ..
  rw [hpush, foldl_push_toList]
  refine congrArg (output.toList ++ ·) (List.flatMap_congr fun line _ => ?_)
  rw [String.toList_append, String.toList_ofList]
  rfl

/-- Text is appended with its line ends normalized. -/
theorem append_like_java_read_line_toList (output input : String) :
    (appendLikeJavaReadLine output input).toList = output.toList ++ lineNormalized input := by
  rw [appendLikeJavaReadLine, lineNormalized]
  by_cases hempty : replaceCr (replaceCrLf input.toList) = []
  · rw [if_pos hempty, hempty, String.toList_append]
    rfl
  · rw [if_neg hempty, push_lines_toList, split_terminator_flatMap hempty]

/-- A payload that is text without a leading XML declaration is appended. -/
theorem push_payload_text {payload : MigPayload} {text : String}
    (htext : fromUtf8 payload.bytes = some text)
    (hdeclaration : startsWith (trimStart text) "<?xml" = false) (output : String) (index : Nat) :
    pushPayload output (payload, index) = .ok (appendLikeJavaReadLine output text) := by
  rw [pushPayload, htext]
  show (if startsWith (trimStart text) "<?xml" then _ else _) = _
  rw [hdeclaration]
  rfl

/-- An envelope with one such payload is serialized. -/
theorem to_turnkey_xml_single {envelope : InvoiceEnvelope} {payload : MigPayload} {text : String}
    (hpayloads : envelope.payloads = [payload]) (htext : fromUtf8 payload.bytes = some text)
    (hdeclaration : startsWith (trimStart text) "<?xml" = false) :
    envelope.toTurnkeyXml =
      .ok (intoBytes (appendLikeJavaReadLine (envelope.pushHeader "") text ++
        "</InvoicePack>\n</InvoiceEnvelope>\n")) := by
  rw [InvoiceEnvelope.toTurnkeyXml, hpayloads]
  show ((pushPayload (envelope.pushHeader "") (payload, 0) >>= _) >>= _) = _
  rw [push_payload_text htext hdeclaration]
  rfl

/-- What the pack holds for a payload. -/
def MigPayload.lines (payload : MigPayload) : List Char :=
  ((fromUtf8 payload.bytes).map lineNormalized).getD []

/-- The lines of a payload are appended to the output. -/
theorem push_payload_toList {output result : String} {payload : MigPayload} {index : Nat}
    (h : pushPayload output (payload, index) = .ok result) :
    result.toList = output.toList ++ payload.lines := by
  rw [pushPayload] at h
  rw [MigPayload.lines]
  split at h
  · cases h
  · next text htext =>
      split at h
      · cases h
      · cases h
        rw [htext]
        exact append_like_java_read_line_toList output text

/-- The loop appends what the pack holds for each payload. -/
theorem push_payloads_toList {payloads : List MigPayload} {start : Nat} {output result : String}
    (h : (payloads.zipIdx start).foldlM pushPayload output = .ok result) :
    result.toList = output.toList ++ payloads.flatMap MigPayload.lines := by
  induction payloads generalizing start output with
  | nil =>
      cases h
      exact (List.append_nil _).symm
  | cons payload payloads ih =>
      rw [List.zipIdx_cons, List.foldlM_cons] at h
      obtain ⟨middle, hmiddle, h⟩ := ok_of_bind_ok h
      rw [ih h, push_payload_toList hmiddle, List.flatMap_cons, List.append_assoc]

/-- The serialized envelope is its header, what the pack holds for its payloads, and the end
tags. -/
theorem to_turnkey_xml_text {envelope : InvoiceEnvelope} {bytes : List UInt8}
    (h : envelope.toTurnkeyXml = .ok bytes) :
    ∃ text : String, bytes = intoBytes text ∧
      text.toList = (envelope.pushHeader "").toList ++
        (envelope.payloads.flatMap MigPayload.lines ++
          "</InvoicePack>\n</InvoiceEnvelope>\n".toList) := by
  rw [InvoiceEnvelope.toTurnkeyXml] at h
  obtain ⟨output, houtput, h⟩ := ok_of_bind_ok h
  cases h
  refine ⟨_, rfl, ?_⟩
  rw [String.toList_append, push_payloads_toList houtput, List.append_assoc]

end TwEinvoice.Envelope
