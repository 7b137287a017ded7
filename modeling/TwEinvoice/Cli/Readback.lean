import Mathlib.Data.List.Forall2
import TwEinvoice.Cli.Submission
import TwEinvoice.Envelope.Header

/-!
# Reading back what was submitted

A reader of an uploaded object that knows the formats and nothing of the submission: it unpacks the
object, removes the armor, parses the signed data, and reads the header of the envelope in it and
the body of its pack. After a submission it gets the parties of the arguments, and a body that is
made of the lines of the files of the arguments.
-/

namespace TwEinvoice.Cli

open Effects Rust Client Envelope Signing Transport Parsing

variable {library : CliLibrary}

/-! ## The reader -/

/-- Unpack an object, remove its armor and parse its signed data. -/
def readObject (unzip : List UInt8 → Option (List (String × List UInt8))) (filename : String)
    (zipMode : ZipMode) (uploaded : List UInt8) : Option SignedData := do
  let armored ← decodeObject unzip filename zipMode uploaded
  let text ← fromUtf8 armored
  let encoded ← base64Decode (text.toList.filter (· ≠ '\n'))
  let (data, rest) ← Grammar.contentInfo encoded
  if rest = [] then some data else none

/-- A signed object is read back. -/
theorem read_object_eq {unzip : List UInt8 → Option (List (String × List UInt8))}
    (hunzip : Unzips library.zip unzip) {prepared : PreparedSubmission}
    {object : PreparedUploadObject} (hobject : ObjectOf library prepared object)
    {cms : CmsSignedData}
    (hartifact : prepared.artifact.uploadBytes = intoBytes cms.toTurnkeyArmored)
    {data : SignedData} (hread : Grammar.contentInfo cms.encoded = some (data, [])) :
    readObject unzip prepared.filename.render prepared.zipMode object.uploadedBytes =
      some data := by
  obtain ⟨_, _, _, hpackage⟩ := prepare_upload_object_ok hobject
  unfold readObject
  rw [decode_packageBytes hunzip hpackage, hartifact]
  show (fromUtf8 (intoBytes cms.toTurnkeyArmored)).bind _ = _
  rw [from_utf8_into_bytes, Option.bind_some]
  show (base64Decode (List.filter _ _)).bind _ = _
  rw [armor_filter, base64_decode_base64, Option.bind_some]
  show (Grammar.contentInfo cms.encoded).bind _ = _
  rw [hread]
  rfl

/-! ## The text of the envelope -/

theorem into_bytes_of_from_utf8 {bytes : List UInt8} {text : String}
    (h : fromUtf8 bytes = some text) : bytes = intoBytes text := by
  unfold fromUtf8 String.fromUTF8? at h
  split_ifs at h
  cases h
  rfl

/-- Every payload of a serialized envelope is text. -/
theorem payload_texts {payloads : List MigPayload} {start : Nat} {output result : String}
    (h : (payloads.zipIdx start).foldlM pushPayload output = .ok result) :
    ∃ texts : List String, payloads.map MigPayload.bytes = texts.map intoBytes ∧
      payloads.flatMap MigPayload.lines = texts.flatMap lineNormalized := by
  induction payloads generalizing start output with
  | nil => exact ⟨[], rfl, rfl⟩
  | cons payload payloads ih =>
      rw [List.zipIdx_cons, List.foldlM_cons] at h
      obtain ⟨middle, hmiddle, h⟩ := ok_of_bind_ok h
      obtain ⟨texts, hbytes, hlines⟩ := ih h
      cases htext : fromUtf8 payload.bytes with
      | none =>
          unfold pushPayload at hmiddle
          dsimp only at hmiddle
          rw [htext] at hmiddle
          cases hmiddle
      | some text =>
          refine ⟨text :: texts, ?_, ?_⟩
          · rw [List.map_cons, List.map_cons, hbytes, into_bytes_of_from_utf8 htext]
          · rw [List.flatMap_cons, List.flatMap_cons, hlines, MigPayload.lines, htext]
            rfl

/-- The end tags of an envelope. -/
def packEnd : List Char := "</InvoicePack>\n</InvoiceEnvelope>\n".toList

/-- The body of the pack: what is between the line of its start tag and the end tags. -/
def readPack (rest : List Char) : Option (List Char) :=
  match rest with
  | '\n' :: pack =>
      if packEnd <:+ pack then some (pack.take (pack.length - packEnd.length)) else none
  | _ => none

/-- The body of a pack is read back up to its end. -/
theorem read_pack_append (body : List Char) : readPack ('\n' :: (body ++ packEnd)) = some body := by
  show (if packEnd <:+ body ++ packEnd then _ else none) = _
  rw [if_pos (List.suffix_append body packEnd), List.length_append, Nat.add_sub_cancel,
    List.take_left]

/-- Read the header of an envelope, and the body of its pack. -/
def readEnvelope (content : List UInt8) : Option (EnvelopeHeader × List Char) := do
  let text ← fromUtf8 content
  let (header, rest) ← Grammar.header text.toList
  let body ← readPack rest
  some (header, body)

/-- The body of the pack is made of the texts of the payloads, line by line. -/
theorem read_envelope_eq {envelope : InvoiceEnvelope} {content : List UInt8}
    (h : envelope.toTurnkeyXml = .ok content) :
    ∃ texts : List String, envelope.payloads.map MigPayload.bytes = texts.map intoBytes ∧
      readEnvelope content = some (envelope.header, texts.flatMap lineNormalized) := by
  obtain ⟨text, rfl, htext⟩ := to_turnkey_xml_text h
  unfold InvoiceEnvelope.toTurnkeyXml at h
  obtain ⟨output, houtput, _⟩ := ok_of_bind_ok h
  obtain ⟨texts, hbytes, hlines⟩ := payload_texts houtput
  obtain ⟨symbols, hsymbols, hreads⟩ := push_header_pushes envelope "" [] rfl
  rw [hsymbols, List.nil_append, List.append_assoc, hlines] at htext
  refine ⟨texts, hbytes, ?_⟩
  show (fromUtf8 (intoBytes text)).bind _ = _
  rw [from_utf8_into_bytes, Option.bind_some, htext]
  show (Grammar.header _).bind _ = _
  rw [hreads, Option.bind_some]
  show (readPack ('\n' :: (texts.flatMap lineNormalized ++ packEnd))).bind _ = _
  rw [read_pack_append]
  rfl

/-! ## What a reader learns -/

/-- What a reader that has unpacked an upload finds in its envelope. -/
structure Envelops (args : CommonPrepareArgs) (before : Machine library)
    (filename : TurnkeyPackFilename) (content : List UInt8) : Prop where
  parsed : TurnkeyPackFilename.parse args.filename = .ok filename
  envelope : ∃ texts : List String,
    List.Forall₂ (fun path text => before.file path = .ok (intoBytes text)) args.mig texts ∧
      readEnvelope content = some (⟨args.routing filename, args.mig.length,
        filename.commonName.messageType, "v41"⟩, texts.flatMap lineNormalized)

/-- The content that is signed for a plan holds the lines of the files of the arguments. -/
theorem Plans.envelops {args : CommonPrepareArgs} {before : Machine library}
    {plan : SubmissionPlan} (hplan : Plans args before plan) {content : List UInt8}
    (hcontent : plan.envelope.toTurnkeyXml = .ok content) :
    Envelops args before plan.filename content := by
  obtain ⟨texts, hbytes, hread⟩ := read_envelope_eq hcontent
  refine ⟨hplan.filename, texts, ?_, ?_⟩
  · have hfiles : List.Forall₂ (fun path bytes => before.file path = .ok bytes) args.mig
        (plan.envelope.payloads.map MigPayload.bytes) :=
      List.forall₂_map_right_iff.2 hplan.payloads
    rw [hbytes] at hfiles
    exact (@List.forall₂_map_right_iff _ _ _
      (fun path bytes => before.file path = .ok bytes) _ _ _).1 hfiles
  · have hheader : plan.envelope.header = ⟨args.routing plan.filename, args.mig.length,
        plan.filename.commonName.messageType, "v41"⟩ := by
      unfold InvoiceEnvelope.header InvoiceEnvelope.count
      rw [hplan.routing, hplan.metadata, hplan.payloads.length_eq]
      rfl
    rw [hread, hheader]

/-- After a submission the server has, under the name that the arguments give, an object in which a
reader finds the lines of the files of the arguments in their order, signed under the certificate
that comes with them. -/
theorem submitted_reads_back {unzip : List UInt8 → Option (List (String × List UInt8))}
    (hunzip : Unzips library.zip unzip)
    {verify : library.pkcs12.PublicKey → SignatureAlgorithm → List UInt8 → List UInt8 → Bool}
    (hverify : library.pkcs12.Verifies verify)
    (hder : ∀ certificate, library.openssl.DerSequences certificate)
    {fuel : Nat} {args : SubmitArgs} {before after : Machine library}
    (h : Runs CliAnswers (runSubmit fuel args).run before (.ok ()) after) :
    ∃ filename uploaded content certificate certificateDer certificateKey, ∃ info : SignerInfo,
      Envelops args.common before filename content ∧
      after.remote.file (Sftp.joinPath "in" filename.remoteFilename) = some uploaded ∧
      readObject unzip filename.render args.common.zip.intoZipMode uploaded =
        some ⟨content, [certificateDer], [info]⟩ ∧
      library.openssl.toDer certificate = .ok certificateDer ∧
      library.pkcs12.publicKey certificate = .ok certificateKey ∧
      verify certificateKey info.signatureAlgorithm content info.signature = true := by
  have houtcome := (must_runSubmit fuel args before).runs h
  cases houtcome with
  | unsent hremote hfailed => exact absurd rfl hfailed
  | @sent prepared object password hobject hpassword hdurable huploads hannounced =>
      obtain ⟨pfxDer, pfxPassword, signer, plan, content, cms, _, _, _, hsigner, hplan, hsigns⟩ :=
        hdurable.made
      obtain ⟨certificateKey, hloaded⟩ := from_der_ok hsigner
      obtain ⟨hname, _, hsize, _⟩ := prepare_upload_object_ok hobject
      have hlength : cms.encoded.length < 2 ^ 64 := by
        have harmor := (armor_length cms).1
        rw [← hsigns.artifact, ← hsize] at harmor
        exact Nat.lt_of_le_of_lt harmor object.notificationSize.toNat_lt
      obtain ⟨certificateDer, info, hread, hcertificate, _, hvalid⟩ :=
        hloaded.signed_reads hverify hsigns.signed (hder _) hlength
      refine ⟨plan.filename, object.uploadedBytes, content, signer.certificate, certificateDer,
        certificateKey, info, hplan.envelops hsigns.serialized, ?_, ?_, hcertificate,
        hloaded.publicKey, hvalid⟩
      · rw [← hsigns.filename, ← hname]
        exact huploads.complete rfl
      · rw [← hsigns.filename, ← hplan.zipMode, ← hsigns.zipMode]
        exact read_object_eq hunzip hobject hsigns.artifact hread

theorem sample_reads_back :
    ∃ after : Machine sampleCli,
      ∃ filename uploaded content certificate certificateDer certificateKey, ∃ info : SignerInfo,
        Envelops sampleArgs.common sampleMachine filename content ∧
        after.remote.file (Sftp.joinPath "in" filename.remoteFilename) = some uploaded ∧
        readObject storedUnzip filename.render .zip uploaded =
          some ⟨content, [certificateDer], [info]⟩ ∧
        sampleCli.openssl.toDer certificate = .ok certificateDer ∧
        sampleCli.pkcs12.publicKey certificate = .ok certificateKey ∧
        sampleVerify certificateKey info.signatureAlgorithm content info.signature = true := by
  obtain ⟨after, h⟩ := sample_submits
  have hunzip : Unzips sampleCli.zip storedUnzip := stored_unzips
  exact ⟨after, submitted_reads_back hunzip sample_verifies (sample_der_sequences 128) h⟩

end TwEinvoice.Cli
