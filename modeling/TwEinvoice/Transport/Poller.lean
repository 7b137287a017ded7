import TwEinvoice.Results.Summary
import TwEinvoice.Transport.Filename
import TwEinvoice.Transport.Receiver

/-!
# The reconciliation poller

`ReconciliationPoller::poll_once` receives the objects of one listing in turn and loads each one
that it has received. The listing itself only reads the remote inbox, so it is an argument here,
and the two XML parsers are a parameter.
-/

namespace TwEinvoice.Transport

open Effects Results Rust Storage

variable {ε ξ : Type}

/-! ## Inbound objects -/

/-- E05xx operational message classes. -/
inductive E05MessageType where
  | e0501
  | e0502
  | e0503
  | e0504
  deriving DecidableEq

/-- File classes of objects downloaded from SFTP `/out`. -/
inductive InboundObjectKind where
  | processResult
  | summaryResult
  | e05 (messageType : E05MessageType)
  | exchangeAck
  | invoice (name : MessageCommonName)
  | unknown
  deriving DecidableEq

/-- `classify_remote_name`. -/
def classifyRemoteName (name : String) : InboundObjectKind :=
  if endsWith name "ProcessResult" then .processResult
  else if endsWith name "SummaryResult" then .summaryResult
  else if endsWith name "E0501" then .e05 .e0501
  else if endsWith name "E0502" then .e05 .e0502
  else if endsWith name "E0503" then .e05 .e0503
  else if endsWith name "E0504" then .e05 .e0504
  else if endsWith name "Ack" then .exchangeAck
  else
    match MessageCommonName.parse name with
    | .ok commonName => .invoice commonName
    | .error _ => .unknown

/-- `ProcessResult::parse` and `SummaryResult::parse`, which deserialize XML. -/
structure ResultParsers (ξ : Type) where
  process : String → Except ξ ProcessResult
  summary : String → Except ξ SummaryResult

/-- Parsed reconciliation records. -/
inductive ParsedReconciliation where
  | process (result : ProcessResult)
  | summary (result : SummaryResult)

/-- Why an inbound object could not be parsed. -/
inductive InboundParseError (ξ : Type) where
  | utf8
  | result (error : ξ)

/-- `parse_reconciliation`. -/
def parseReconciliation (parsers : ResultParsers ξ) (kind : InboundObjectKind)
    (bytes : List UInt8) : Except (InboundParseError ξ) (Option ParsedReconciliation) :=
  let parsed {ρ : Type} (parse : String → Except ξ ρ) (wrap : ρ → ParsedReconciliation) :
      Except (InboundParseError ξ) (Option ParsedReconciliation) :=
    match fromUtf8 bytes with
    | none => .error .utf8
    | some xml => ((parse xml).map fun result => some (wrap result)).mapError .result
  match kind with
  | .processResult => parsed parsers.process .process
  | .summaryResult => parsed parsers.summary .summary
  | .e05 _ | .exchangeAck | .invoice _ | .unknown => .ok none

/-! ## `DurableInboundRecord` -/

/-- One object after it has been received and classified. -/
structure DurableInboundRecord where
  path : String
  kind : InboundObjectKind
  reconciliation : Option ParsedReconciliation

/-- Why a received object could not be loaded. -/
inductive DurableInboundError (ξ : Type) where
  | invalidPath (path : String)
  | io (error : IoError)
  | parse (error : InboundParseError ξ)

/-- The loop of `fs::read`, with the bytes read so far. -/
def readToEnd : Nat → Reader → List UInt8 → FileProgram ε (List UInt8)
  | 0, _, _ => ExceptT.mk .outOfFuel
  | fuel + 1, reader, bytes => do
      let (chunk, reader) ← reader.read
      if chunk.length = 0 then return bytes
      else readToEnd fuel reader (bytes ++ chunk)

/-- `fs::read`. How large a buffer it uses does not show in the result. -/
def readFile (fuel : Nat) (path : String) : FileProgram ε (List UInt8) := do
  let reader ← Reader.openPath path
  readToEnd fuel reader []

/-- `DurableInboundRecord::load`. -/
def DurableInboundRecord.load (parsers : ResultParsers ξ) (fuel : Nat) (path : String) :
    ExceptT (DurableInboundError ξ) (Program (inboxSignature ε)) DurableInboundRecord := do
  match fileName path with
  | none => throw (.invalidPath path)
  | some name =>
      let kind := classifyRemoteName name
      let bytes ← ExceptT.adapt .io (readFile fuel path)
      let reconciliation ←
        ExceptT.mk (pure ((parseReconciliation parsers kind bytes).mapError .parse))
      return ⟨path, kind, reconciliation⟩

/-! ## `ReconciliationPoller::poll_once` -/

/-- A received and classified object. -/
structure ReconciledObject where
  receiveOutcome : ReceiveOutcome
  record : DurableInboundRecord

/-- The failure of one object. -/
inductive PollObjectError (ε ξ : Type) where
  | receive (error : ReceiveError ε)
  | parse (error : DurableInboundError ξ)

/-- One object of the listing and what became of it. -/
structure PollAttempt (ε ξ : Type) where
  object : RemoteObject
  result : Except (PollObjectError ε ξ) ReconciledObject

/-- The failure of the listing. -/
inductive PollError (ε : Type) where
  | list (error : ε)

/-- The `result` of one turn of the loop of `poll_once`. -/
def pollObject (parsers : ResultParsers ξ) (fuel : Nat) (object : RemoteObject) :
    Program (inboxSignature ε) (Except (PollObjectError ε ξ) ReconciledObject) := do
  match ← (receive fuel object).run with
  | .ok receiveOutcome =>
      let loaded ← (DurableInboundRecord.load parsers fuel receiveOutcome.durablePath).run
      return (loaded.map fun record => ⟨receiveOutcome, record⟩).mapError .parse
  | .error error => return .error (.receive error)

/-- The loop of `poll_once`, with the attempts so far. -/
def pollObjects (parsers : ResultParsers ξ) (fuel : Nat) :
    List RemoteObject → List (PollAttempt ε ξ) →
      Program (inboxSignature ε) (List (PollAttempt ε ξ))
  | [], attempts => return attempts
  | object :: objects, attempts => do
      let result ← pollObject parsers fuel object
      pollObjects parsers fuel objects (attempts ++ [⟨object, result⟩])

/-- `ReconciliationPoller::poll_once`, once `list` has returned. -/
def pollOnce (parsers : ResultParsers ξ) (fuel : Nat) (listed : Except ε (List RemoteObject)) :
    ExceptT (PollError ε) (Program (inboxSignature ε)) (List (PollAttempt ε ξ)) :=
  match listed with
  | .error error => throw (.list error)
  | .ok objects => ExceptT.lift (pollObjects parsers fuel objects [])

end TwEinvoice.Transport
