import TwEinvoice.Cli.Submission
import TwEinvoice.Sftp.Polling

/-!
# What a poll of the command line tool leaves behind

`run_receive`, which polls the remote inbox once and prints what became of each object. The
listings of the server and what is printed are recorded, so that a success can be compared with
what there was to receive.
-/

namespace TwEinvoice.Cli

open Delivery Effects Results Rust Transport

variable {library : CliLibrary} {ξ : Type}

/-! ## The command -/

structure ReceiveArgs where
  environment : PlatformEnvironment
  knownHosts : String
  transportId : String
  transportPasswordEnv : String
  inboxDir : String

/-- The settings of the SFTP client of `run_receive`. -/
def ReceiveArgs.sftp (args : ReceiveArgs) : Sftp.SftpConfig :=
  .new args.environment.endpoints.sftpHost args.knownHosts

/-- A call of `run_receive`: one of a command, the creation of the inbox directory, or one of the
poll. -/
inductive ReceiveOp (library : CliLibrary) where
  | cli (op : CliOp library)
  | createDirAll (path : String)
  | site (op : Sftp.SiteOp library.ssh)

/-- The replies to the calls. -/
abbrev receiveSignature (library : CliLibrary) : Signature where
  Op := ReceiveOp library
  Reply
    | .cli op => (cliSignature library).Reply op
    | .createDirAll _ => Except IoError Unit
    | .site op => (Sftp.siteSignature library.ssh).Reply op

/-- One call. -/
abbrev receiveCall (op : ReceiveOp library) :
    Program (receiveSignature library) ((receiveSignature library).Reply op) :=
  Program.perform (S := receiveSignature library) op

/-- The errors that `run_receive` returns. -/
inductive ReceiveFailure (library : CliLibrary) where
  | command (failure : CliFailure library)
  | io (error : IoError)
  | poll (error : PollError (Sftp.SftpInboxError library.ssh))

/-- The steps of `run_receive`. -/
abbrev ReceiveProgram (library : CliLibrary) :=
  ExceptT (ReceiveFailure library) (Program (receiveSignature library))

/-- An attempt of the poll. -/
abbrev SiteAttempt (library : CliLibrary) (ξ : Type) : Type :=
  PollAttempt (Sftp.SftpInboxError library.ssh) ξ

/-- The XML parsers, the texts of values that are printed, and how the tool was built. -/
structure InboundLibrary (library : CliLibrary) (ξ : Type) where
  parsers : ResultParsers ξ
  debugKind : InboundObjectKind → String
  displayError : PollObjectError (Sftp.SftpInboxError library.ssh) ξ → String
  build : Build

/-- A step that commands share. -/
def shared {α : Type} (program : CliProgram library α) : ReceiveProgram library α :=
  ExceptT.adapt .command (ExceptT.mk (program.run.substitute fun op => receiveCall (.cli op)))

/-- `ReconciliationPoller::new`, which makes sure that the inbox directory exists. -/
def newPoller (inboxDir : String) : ReceiveProgram library Unit :=
  ExceptT.adapt .io (ExceptT.mk (receiveCall (.createDirAll inboxDir)))

def println (line : String) : ReceiveProgram library Unit :=
  ExceptT.lift (receiveCall (.cli (.print line)))

def eprintln (line : String) : ReceiveProgram library Unit :=
  ExceptT.lift (receiveCall (.cli (.eprint line)))

/-- What is printed of a process result. -/
def processLine (path : String) (result : ProcessResult) : String :=
  "received kind=ProcessResult path=" ++ path ++ " correlation_id=" ++ result.message.id ++
    " diagnostics=" ++ toString result.diagnostics.length ++ " codes=" ++
    ",".intercalate (result.diagnostics.map ProcessDiagnostic.code)

/-- What is printed of one message of a summary. -/
def summaryLine (build : Build) (path : String) (message : SummaryMessage) :
    Except Panic String := do
  let issues ← message.validationIssues build none
  return "received kind=SummaryResult path=" ++ path ++ " correlation_id=" ++ message.info.id ++
    " total=" ++ toString message.result.total.count.toInt ++
    " good=" ++ toString message.result.good.count.toInt ++
    " failed=" ++ toString message.result.failed.count.toInt ++
    " validation_issues=" ++ toString issues.length

/-- What is printed of any other object. -/
def opaqueLine (kind path : String) : String :=
  "received kind=" ++ kind ++ " path=" ++ path ++ " correlation_ids=0"

/-- The messages of a summary, one line each. A panic has no result. -/
def printSummary (build : Build) (path : String) :
    List SummaryMessage → ReceiveProgram library Unit
  | [] => return ()
  | message :: messages =>
      match summaryLine build path message with
      | .ok line => do
          println line
          printSummary build path messages
      | .error _ => ExceptT.mk .outOfFuel

/-- `print_reconciled_object`. -/
def printReconciledObject (inbound : InboundLibrary library ξ) (inboxDir : String)
    (record : DurableInboundRecord) : ReceiveProgram library Unit :=
  let path := Sftp.joinPath inboxDir record.path
  match record.reconciliation with
  | some (.process result) => println (processLine path result)
  | some (.summary result) => printSummary inbound.build path result.messages
  | none => println (opaqueLine (inbound.debugKind record.kind) path)

/-- The loop over the attempts, with the failures so far. -/
def reportAttempts (inbound : InboundLibrary library ξ) (inboxDir : String) :
    List (SiteAttempt library ξ) → Nat → ReceiveProgram library Nat
  | [], failures => return failures
  | attempt :: attempts, failures =>
      match attempt.result with
      | .ok reconciled => do
          printReconciledObject inbound inboxDir reconciled.record
          reportAttempts inbound inboxDir attempts failures
      | .error error => do
          eprintln ("receive_error object=" ++ attempt.object.name ++ " error=" ++
            inbound.displayError error)
          reportAttempts inbound inboxDir attempts (failures + 1)

/-- The part of `run_receive` after the poll. -/
def finishReceive (inbound : InboundLibrary library ξ) (args : ReceiveArgs)
    (attempts : List (SiteAttempt library ξ)) : ReceiveProgram library Unit :=
  if attempts.isEmpty then
    println ("received environment=" ++ args.environment.label ++ " objects=0 inbox=" ++
      args.inboxDir)
  else do
    let failures ← reportAttempts inbound args.inboxDir attempts 0
    if failures = 0 then return ()
    else throw (.command (.cli (.inboundObjectFailures failures)))

/-- `run_receive`. -/
def runReceive (fuel : Nat) (inbound : InboundLibrary library ξ) (args : ReceiveArgs) :
    ReceiveProgram library Unit := do
  let transportPassword ← shared (readSecretEnvironment args.transportPasswordEnv)
  newPoller args.inboxDir
  let attempts ← ExceptT.adapt .poll (ExceptT.mk
    ((Sftp.pollSite inbound.parsers fuel args.sftp
      ⟨args.transportId, transportPassword⟩).run.substitute fun op => receiveCall (.site op)))
  finishReceive inbound args attempts

/-! ## The station -/

/-- The machine of the command with the receiver's inbox, the listings that the server has made,
and what was printed. -/
structure Station (library : CliLibrary) where
  machine : Machine library
  world : Sftp.SiteWorld library.ssh
  listings : List (List Sftp.DirectoryEntry)
  stdout : List String
  stderr : List String

namespace Station

variable (station : Station library)

/-- What the poll works on. -/
def site : Sftp.Site library.ssh :=
  ⟨station.world, station.machine.remote⟩

def withSite (site : Sftp.Site library.ssh) : Station library :=
  { station with machine := station.machine.withRemote site.files, world := site.world }

def printed : CliOp library → Station library
  | .print line => { station with stdout := station.stdout ++ [line] }
  | .eprint line => { station with stderr := station.stderr ++ [line] }
  | _ => station

end Station

/-- The entries that the server has listed. -/
def listingsOf : (op : Sftp.SiteOp library.ssh) → (Sftp.siteSignature library.ssh).Reply op →
    List (List Sftp.DirectoryEntry)
  | .ssh (.readdir _), .ok entries => [entries]
  | _, _ => []

/-- How the station answers. -/
def ReceiveAnswers : Environment (receiveSignature library) (Station library) :=
  fun op station reply next =>
    match op, reply with
    | .cli op, reply => ∃ machine, CliAnswers op station.machine reply machine ∧
        next = { station.printed op with machine }
    | .createDirAll _, _ => next = station
    | .site op, reply => ∃ site, Sftp.SiteAnswers op station.site reply site ∧
        next = { station.withSite site with
          listings := station.listings ++ listingsOf op reply }

/-! ## What is printed -/

/-- The lines were printed, and nothing else has happened. -/
structure Prints (before after : Station library) (lines : List String) : Prop where
  site : after.site = before.site
  listings : after.listings = before.listings
  stdout : after.stdout = before.stdout ++ lines

theorem Prints.nothing (station : Station library) : Prints station station [] :=
  ⟨rfl, rfl, (List.append_nil _).symm⟩

theorem Prints.trans {before middle after : Station library} {lines more : List String}
    (h : Prints before middle lines) (hafter : Prints middle after more) :
    Prints before after (lines ++ more) := by
  refine ⟨hafter.site.trans h.site, hafter.listings.trans h.listings, ?_⟩
  rw [hafter.stdout, h.stdout, List.append_assoc]

/-- A program that only prints, and always succeeds. -/
def Printing (station : Station library) (lines : List String → Prop)
    (result : Except (ReceiveFailure library) Unit) (after : Station library) : Prop :=
  result = .ok () ∧ ∃ printed, lines printed ∧ Prints station after printed

theorem must_println (line : String) (station : Station library) :
    Must ReceiveAnswers (fun _ _ => True) (println line).run (Printing station (· = [line]))
      station := by
  refine must_run_lift.2 (must_perform.2 ⟨trivial, fun reply after h => ⟨rfl, [line], rfl, ?_⟩⟩)
  obtain ⟨machine, hmachine, rfl⟩ := h
  cases (show machine = station.machine from hmachine)
  exact ⟨rfl, rfl, rfl⟩

/-- A line of standard error leaves standard output alone. -/
theorem must_eprintln (line : String) (station : Station library) :
    Must ReceiveAnswers (fun _ _ => True) (eprintln line).run (Printing station (· = []))
      station := by
  refine must_run_lift.2 (must_perform.2 ⟨trivial, fun reply after h => ⟨rfl, [], rfl, ?_⟩⟩)
  obtain ⟨machine, hmachine, rfl⟩ := h
  cases (show machine = station.machine from hmachine)
  exact ⟨rfl, rfl, (List.append_nil _).symm⟩

/-- The lines that are printed of a record: every message of a summary has its own. -/
inductive Reported (inbound : InboundLibrary library ξ) (inboxDir : String)
    (record : DurableInboundRecord) : List String → Prop where
  | process {result : ProcessResult} (h : record.reconciliation = some (.process result)) :
      Reported inbound inboxDir record [processLine (Sftp.joinPath inboxDir record.path) result]
  | summary {result : SummaryResult} {lines : List String}
      (h : record.reconciliation = some (.summary result))
      (hlines : List.Forall₂ (fun message line => summaryLine inbound.build
        (Sftp.joinPath inboxDir record.path) message = .ok line) result.messages lines) :
      Reported inbound inboxDir record lines
  | other (h : record.reconciliation = none) :
      Reported inbound inboxDir record
        [opaqueLine (inbound.debugKind record.kind) (Sftp.joinPath inboxDir record.path)]

/-- One line for each message, in their order. -/
theorem must_printSummary (build : Build) (path : String) (messages : List SummaryMessage)
    (station : Station library) :
    Must ReceiveAnswers (fun _ _ => True) (printSummary build path messages).run
      (Printing station (List.Forall₂ (fun message line =>
        summaryLine build path message = .ok line) messages)) station := by
  induction messages generalizing station with
  | nil => exact ⟨rfl, [], .nil, .nothing station⟩
  | cons message messages ih =>
      unfold printSummary
      cases hline : summaryLine build path message with
      | error panic => trivial
      | ok line =>
          refine must_run_bind.2 ((must_println line station).mono ?_)
          intro result middle hmiddle
          obtain ⟨rfl, _, rfl, hprints⟩ := hmiddle
          refine (ih middle).mono ?_
          intro result after hafter
          obtain ⟨hok, lines, hlines, hmore⟩ := hafter
          exact ⟨hok, line :: lines, .cons hline hlines, hprints.trans hmore⟩

/-- The lines of a record are printed. -/
theorem must_printReconciledObject (inbound : InboundLibrary library ξ) (inboxDir : String)
    (record : DurableInboundRecord) (station : Station library) :
    Must ReceiveAnswers (fun _ _ => True) (printReconciledObject inbound inboxDir record).run
      (Printing station (Reported inbound inboxDir record)) station := by
  unfold printReconciledObject
  cases hrecord : record.reconciliation with
  | none =>
      refine (must_println _ station).mono fun result after hafter => ?_
      obtain ⟨hok, _, rfl, hprints⟩ := hafter
      exact ⟨hok, _, .other hrecord, hprints⟩
  | some reconciliation =>
      cases reconciliation with
      | process result =>
          refine (must_println _ station).mono fun result after hafter => ?_
          obtain ⟨hok, _, rfl, hprints⟩ := hafter
          exact ⟨hok, _, .process hrecord, hprints⟩
      | summary result =>
          refine (must_printSummary _ _ _ station).mono fun result after hafter => ?_
          obtain ⟨hok, lines, hlines, hprints⟩ := hafter
          exact ⟨hok, lines, .summary hrecord hlines, hprints⟩

/-- The lines that are printed of the attempts, in their order. A failure has none. -/
inductive Reports (inbound : InboundLibrary library ξ) (inboxDir : String) :
    List (SiteAttempt library ξ) → List String → Prop where
  | nil : Reports inbound inboxDir [] []
  | received {attempt attempts reconciled lines more} (h : attempt.result = .ok reconciled)
      (hlines : Reported inbound inboxDir reconciled.record lines) :
      Reports inbound inboxDir attempts more →
      Reports inbound inboxDir (attempt :: attempts) (lines ++ more)
  | failed {attempt attempts error lines} (h : attempt.result = .error error) :
      Reports inbound inboxDir attempts lines → Reports inbound inboxDir (attempt :: attempts) lines

/-- The lines of each object that was received are printed one after the other. -/
theorem Reports.reported {inbound : InboundLibrary library ξ} {inboxDir : String}
    {attempts : List (SiteAttempt library ξ)} {lines : List String}
    (h : Reports inbound inboxDir attempts lines) {attempt : SiteAttempt library ξ}
    (hmem : attempt ∈ attempts) {reconciled : ReconciledObject}
    (hok : attempt.result = .ok reconciled) :
    ∃ own, Reported inbound inboxDir reconciled.record own ∧ own <:+: lines := by
  induction h with
  | nil => cases hmem
  | received hfirst hlines _ ih =>
      rcases List.mem_cons.1 hmem with rfl | hmem
      · cases hfirst.symm.trans hok
        exact ⟨_, hlines, (List.prefix_append _ _).isInfix⟩
      · obtain ⟨own, hreported, hinfix⟩ := ih hmem
        exact ⟨own, hreported, hinfix.trans (List.suffix_append _ _).isInfix⟩
  | failed hfirst _ ih =>
      rcases List.mem_cons.1 hmem with rfl | hmem
      · cases hfirst.symm.trans hok
      · exact ih hmem

/-- The attempt has failed. -/
def failed (attempt : SiteAttempt library ξ) : Bool := attempt.result matches .error _

/-- Every attempt is reported in its turn, and the failures are counted. -/
theorem must_reportAttempts (inbound : InboundLibrary library ξ) (inboxDir : String)
    (attempts : List (SiteAttempt library ξ)) (failures : Nat) (station : Station library) :
    Must ReceiveAnswers (fun _ _ => True) (reportAttempts inbound inboxDir attempts failures).run
      (fun result after => result = .ok (failures + attempts.countP failed) ∧
        ∃ lines, Reports inbound inboxDir attempts lines ∧ Prints station after lines)
      station := by
  induction attempts generalizing failures station with
  | nil => exact ⟨rfl, [], .nil, .nothing station⟩
  | cons attempt attempts ih =>
      unfold reportAttempts
      cases hresult : attempt.result with
      | ok reconciled =>
          refine must_run_bind.2
            ((must_printReconciledObject inbound inboxDir reconciled.record station).mono ?_)
          intro result middle hmiddle
          obtain ⟨rfl, lines, hlines, hprints⟩ := hmiddle
          refine (ih failures middle).mono fun result after hafter => ?_
          obtain ⟨hcount, more, hreports, hmore⟩ := hafter
          have hfailed : ¬ failed attempt = true := by
            unfold failed
            rw [hresult]
            exact Bool.false_ne_true
          refine ⟨?_, lines ++ more, .received hresult hlines hreports, hprints.trans hmore⟩
          rw [hcount, List.countP_cons_of_neg hfailed]
      | error error =>
          refine must_run_bind.2 ((must_eprintln _ station).mono ?_)
          intro result middle hmiddle
          obtain ⟨rfl, _, rfl, hprints⟩ := hmiddle
          refine (ih (failures + 1) middle).mono fun result after hafter => ?_
          obtain ⟨hcount, more, hreports, hmore⟩ := hafter
          have hfailed : failed attempt = true := by
            unfold failed
            rw [hresult]
          refine ⟨?_, more, .failed hresult hreports, hprints.trans hmore⟩
          rw [hcount, List.countP_cons_of_pos hfailed, Nat.add_right_comm, Nat.add_assoc]

end TwEinvoice.Cli
