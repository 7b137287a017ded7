import TwEinvoice.Cli.Reception
import TwEinvoice.Delivery.System

/-!
# The outcome of `run_receive`

In every run that returns nothing is lost: each remote file is left alone, or it has been removed
and the inbox has its bytes. A success has moved every file that the server has listed, and printed
what was made of it. The server and the inbox change only through the command.
-/

namespace TwEinvoice.Cli

open Delivery Effects Results Rust Transport

variable {library : CliLibrary} {ξ : Type} {inbound : InboundLibrary library ξ}
variable {args : ReceiveArgs} {fuel : Nat} {before after : Station library}

/-! ## The poll -/

/-- The server has listed the entries since. -/
def Lists (before after : Station library) (entries : List Sftp.DirectoryEntry) : Prop :=
  ∃ more, after.listings = before.listings ++ more ∧ entries ∈ more

/-- What the poll has left behind. -/
def PollOutcome (inbound : InboundLibrary library ξ) (args : ReceiveArgs)
    (before after : Station library) (objects : List RemoteObject)
    (attempts : List (SiteAttempt library ξ)) : Prop :=
  (∃ entries, Lists before after entries ∧
    Sftp.Listing entries (.ok objects : Except (Sftp.SftpInboxError library.ssh) _)) ∧
  Sftp.Collected inbound.parsers args.sftp before.site objects attempts after.site ∧
  after.stdout = before.stdout

/-- The station once the server has answered the calls of a listing. -/
def Station.observed (station : Station library) (trace : List (Sftp.SshEvent library.ssh)) :
    Station library :=
  { station with
    listings := station.listings ++ trace.flatMap fun event =>
      @listingsOf library (.ssh event.1) event.2 }

/-- The calls of a listing change nothing but what has been observed. -/
theorem carriesOut_listing (before : Station library) :
    CarriesOut (recording (Sftp.sshSignature library.ssh))
      (fun op _ => True ∧ ∀ files reply next, Sftp.SshAnswers op files reply next → next = files)
      ReceiveAnswers (fun _ _ => True) (fun op => receiveCall (.site (.ssh op)))
      (fun trace station => station = before.observed trace) := by
  intro op trace station hstation hop
  subst hstation
  refine must_perform.2 ⟨trivial, fun reply after hafter => ⟨_, rfl, ?_⟩⟩
  obtain ⟨site, ⟨hfiles, hworld⟩, rfl⟩ := hafter
  have hsite : site = before.site := by
    cases site
    cases hop.2 _ _ _ hfiles
    cases (show _ = before.world from hworld)
    rfl
  subst hsite
  unfold Station.observed
  rw [List.flatMap_append, List.flatMap_singleton, ← List.append_assoc]
  rfl

/-- A run of the listing leaves the inbox and the remote files alone. -/
theorem must_list_station (config : Sftp.SftpConfig) (credentials : Sftp.SftpCredentials)
    (before : Station library) :
    Must ReceiveAnswers (fun _ _ => True)
      ((Sftp.list config credentials : ExceptT (Sftp.SftpInboxError library.ssh) _ _).run.substitute
        fun op => receiveCall (.site (.ssh op)))
      (fun result after => after.site = before.site ∧ after.stdout = before.stdout ∧
        ∀ objects, result = .ok objects → ∃ entries, Lists before after entries ∧
          Sftp.Listing entries (.ok objects : Except (Sftp.SftpInboxError library.ssh) _))
      before := by
  have hlist := (@Sftp.must_list library.ssh config credentials []
    fun hlisted => List.not_mem_nil hlisted.choose_spec).only
      (Sftp.only_list_quiet config credentials)
  have hstart : before = before.observed [] := by
    unfold Station.observed
    rw [List.flatMap_nil, List.append_nil]
  refine ((carriesOut_listing before).must hlist hstart).mono fun result after hafter => ?_
  obtain ⟨trace, hrun, rfl⟩ := hafter
  refine ⟨rfl, rfl, fun objects hok => ?_⟩
  subst hok
  cases hrun with
  | @answered entries _ earlier hlisting =>
      refine ⟨entries, ⟨_, rfl, ?_⟩, hlisting⟩
      rw [List.flatMap_append]
      exact List.mem_append_right _ (List.mem_singleton.2 rfl)

/-- Calls of the poll change the site as they do without the station. -/
theorem carriesOut_site {permits : Sftp.SiteOp library.ssh → Sftp.Site library.ssh → Prop}
    (before : Station library) :
    CarriesOut Sftp.SiteAnswers permits ReceiveAnswers (fun _ _ => True)
      (fun op => receiveCall (.site op))
      (fun site station => station.site = site ∧ station.stdout = before.stdout ∧
        ∃ more, station.listings = before.listings ++ more) := by
  intro op site station hstation _
  obtain ⟨rfl, hstdout, more, hmore⟩ := hstation
  refine must_perform.2 ⟨trivial, fun reply after hafter => ?_⟩
  obtain ⟨next, hanswer, rfl⟩ := hafter
  refine ⟨next, hanswer, rfl, hstdout, more ++ listingsOf op reply, ?_⟩
  rw [← List.append_assoc, ← hmore]

/-- A failed listing leaves the site, and a poll has the outcome of its objects. -/
theorem must_pollSite_station (fuel : Nat) (credentials : Sftp.SftpCredentials)
    (before : Station library) :
    Must ReceiveAnswers (fun _ _ => True)
      ((Sftp.pollSite inbound.parsers fuel args.sftp credentials).run.substitute
        fun op => receiveCall (.site op))
      (fun result after => (∀ error, result = .error error → after.site = before.site) ∧
        ∀ attempts, result = .ok attempts →
          ∃ objects, PollOutcome inbound args before after objects attempts) before := by
  show Must _ _ (Program.substitute _ (Program.bind _ _)) _ _
  rw [substitute_bind, substitute_substitute]
  refine must_bind.2 ((must_list_station args.sftp credentials before).mono ?_)
  intro listed middle hmiddle
  obtain ⟨hsite, hstdout, hlisted⟩ := hmiddle
  cases listed with
  | error error => exact ⟨fun _ _ => hsite, nofun⟩
  | ok objects =>
      obtain ⟨entries, ⟨more, hmore, hmem⟩, hlisting⟩ := hlisted objects rfl
      have hpoll := @Sftp.must_pollListed library.ssh args.sftp credentials ξ inbound.parsers fuel
        objects middle.site
      refine ((carriesOut_site middle).must hpoll
        ⟨rfl, rfl, [], (List.append_nil _).symm⟩).mono fun result after hafter => ?_
      obtain ⟨site, ⟨attempts, rfl, hcollected⟩, rfl, hsame, later, hlater⟩ := hafter
      refine ⟨nofun, fun found hfound => ?_⟩
      cases hfound
      rw [hsite] at hcollected
      refine ⟨objects, ⟨entries, ⟨more ++ later, ?_, List.mem_append_left _ hmem⟩, hlisting⟩,
        hcollected, hsame.trans hstdout⟩
      rw [hlater, hmore, List.append_assoc]

/-! ## The command -/

/-- The exit of `run_receive` after the poll. -/
def receiveStatus (attempts : List (SiteAttempt library ξ)) :
    Except (ReceiveFailure library) Unit :=
  if attempts.countP failed = 0 then .ok ()
  else .error (.command (.cli (.inboundObjectFailures (attempts.countP failed))))

/-- What `run_receive` has done. -/
inductive Received (inbound : InboundLibrary library ξ) (args : ReceiveArgs)
    (before after : Station library) : Except (ReceiveFailure library) Unit → Prop where
  | unlisted {failure : ReceiveFailure library} (hsite : after.site = before.site) :
      Received inbound args before after (.error failure)
  | polled {middle : Station library} {objects : List RemoteObject}
      {attempts : List (SiteAttempt library ξ)} {lines : List String}
      (hpolled : PollOutcome inbound args before middle objects attempts)
      (hprints : Prints middle after lines)
      (hlines : attempts ≠ [] → Reports inbound args.inboxDir attempts lines) :
      Received inbound args before after (receiveStatus attempts)

/-- The attempts are reported, and decide the result. -/
theorem must_finishReceive (attempts : List (SiteAttempt library ξ)) (station : Station library) :
    Must ReceiveAnswers (fun _ _ => True) (finishReceive inbound args attempts).run
      (fun result after => result = receiveStatus attempts ∧ ∃ lines,
        Prints station after lines ∧
          (attempts ≠ [] → Reports inbound args.inboxDir attempts lines)) station := by
  unfold finishReceive
  cases attempts with
  | nil =>
      refine (must_println _ station).mono fun result after hafter => ?_
      obtain ⟨hok, lines, _, hprints⟩ := hafter
      exact ⟨hok, lines, hprints, fun hne => absurd rfl hne⟩
  | cons attempt attempts =>
      refine must_run_bind.2
        ((must_reportAttempts inbound args.inboxDir _ 0 station).mono fun result middle h => ?_)
      obtain ⟨rfl, lines, hreports, hprints⟩ := h
      rw [Nat.zero_add]
      unfold receiveStatus
      show Must _ _ (ExceptT.run (if _ then _ else _)) _ _
      split_ifs
      · exact ⟨rfl, lines, hprints, fun _ => hreports⟩
      · exact ⟨rfl, lines, hprints, fun _ => hreports⟩

/-- A step that commands share leaves the site alone. -/
theorem must_secret_station (name : String) (station : Station library) :
    Must ReceiveAnswers (fun _ _ => True)
      (shared (readSecretEnvironment name : CliProgram library _)).run
      (fun _ after => after = station) station := by
  have hcalls : CarriesOut (@CliAnswers library) (fun op _ => op = .var name) ReceiveAnswers
      (fun _ _ => True) (fun op => receiveCall (.cli op))
      (fun machine after => after = { station with machine }) := by
    intro op machine actual hactual hop
    subst hactual
    subst hop
    refine must_perform.2 ⟨trivial, fun reply after hafter => ?_⟩
    obtain ⟨next, hanswer, rfl⟩ := hafter
    exact ⟨next, hanswer, rfl⟩
  have hread : Must CliAnswers (fun op _ => op = .var name)
      (readSecretEnvironment name : CliProgram library _).run
      (fun _ after => after = station.machine) station.machine := by
    unfold readSecretEnvironment
    split_ifs
    · exact rfl
    · refine must_run_adapt.2 (must_perform.2 ⟨rfl, fun reply after hafter => ?_⟩)
      obtain ⟨_, hsame⟩ := hafter
      exact hsame
  refine must_run_adapt.2 ((hcalls.must hread rfl).mono fun result after hafter => ?_)
  obtain ⟨machine, rfl, rfl⟩ := hafter
  rfl

/-- Every run of `run_receive` that returns has received what it says. -/
theorem must_runReceive (fuel : Nat) (inbound : InboundLibrary library ξ) (args : ReceiveArgs)
    (before : Station library) :
    Must ReceiveAnswers (fun _ _ => True) (runReceive fuel inbound args).run
      (fun result after => Received inbound args before after result) before := by
  refine must_run_bind.2 ((must_secret_station _ before).mono fun secret middle hmiddle => ?_)
  subst hmiddle
  cases secret with
  | error error => exact .unlisted rfl
  | ok password =>
      refine must_run_bind.2 (must_run_adapt.2 (must_perform.2 ⟨trivial, ?_⟩))
      intro reply created hcreated
      have hsame : created = middle := hcreated
      subst hsame
      cases reply with
      | error error => exact .unlisted rfl
      | ok value =>
          refine must_run_bind.2 (must_run_adapt.2
            ((must_pollSite_station fuel _ created).mono fun result polled hpolled => ?_))
          cases result with
          | error error => exact .unlisted (hpolled.1 error rfl)
          | ok attempts =>
              obtain ⟨objects, houtcome⟩ := hpolled.2 attempts rfl
              refine (must_finishReceive attempts polled).mono fun result after hafter => ?_
              obtain ⟨rfl, lines, hprints, hlines⟩ := hafter
              exact .polled houtcome hprints hlines

/-- Every remote file is left alone, or it has been removed and the inbox has its bytes under its
name, unless this is the name of a temporary file. Every file of the inbox is as it was. -/
structure Conserved (before after : Station library) : Prop where
  inbox : ∀ name bytes, before.world.directory.read name = some bytes →
    after.world.directory.read name = some bytes
  server : ∀ path, after.machine.remote.file path = before.machine.remote.file path ∨
    after.machine.remote.file path = none ∧ ∃ object : RemoteObject,
      path = Sftp.joinPath "out" object.name ∧ safeRemoteBasename object.name = true ∧
      (¬ IsIncomingName object.name → ∃ bytes,
        before.machine.remote.file path = some bytes ∧
        after.world.directory.read object.name = some bytes)

/-- Whichever calls fail, and whether `run_receive` returns with a success or an error, nothing is
lost of a server and an inbox that change only through it. -/
theorem receive_conserves {result : Except (ReceiveFailure library) Unit}
    (h : Runs ReceiveAnswers (runReceive fuel inbound args).run before result after) :
    Conserved before after := by
  have hreceived := (must_runReceive fuel inbound args before).runs h
  cases hreceived with
  | unlisted hsite =>
      have hworld : after.world = before.world := congrArg Sftp.Site.world hsite
      have hfiles : after.machine.remote = before.machine.remote := congrArg Sftp.Site.files hsite
      refine ⟨fun name bytes hread => ?_, fun path => .inl ?_⟩
      · rw [hworld]
        exact hread
      · rw [hfiles]
  | polled hpolled hprints hlines =>
      obtain ⟨_, hcollected, _⟩ := hpolled
      rw [← hprints.site] at hcollected
      exact ⟨hcollected.inbox, hcollected.server⟩

/-- The object has been moved to the inbox, and what its bytes contain has been printed since. -/
structure Moved (inbound : InboundLibrary library ξ) (args : ReceiveArgs)
    (before after : Station library) (object : RemoteObject) (bytes : List UInt8)
    (record : DurableInboundRecord) (lines : List String) : Prop where
  fetched : before.machine.remote.file (Sftp.joinPath "out" object.name) = some bytes
  removed : after.machine.remote.file (Sftp.joinPath "out" object.name) = none
  kept : after.world.directory.read object.name = some bytes
  reconciles : Reconciles inbound.parsers object.name bytes record
  reported : Reported inbound args.inboxDir record lines
  printed : ∃ all, after.stdout = before.stdout ++ all ∧ lines <:+: all

/-- When `run_receive` succeeds, every file of a listing that the server has made since has been
moved to the inbox, unless it has the name of a temporary file. -/
theorem receive_complete
    (h : Runs ReceiveAnswers (runReceive fuel inbound args).run before (.ok ()) after) :
    ∃ entries objects, Lists before after entries ∧
      Sftp.Listing entries (.ok objects : Except (Sftp.SftpInboxError library.ssh) _) ∧
      ∀ object ∈ objects, ¬ IsIncomingName object.name →
        ∃ bytes record lines, Moved inbound args before after object bytes record lines := by
  have hreceived := (must_runReceive fuel inbound args before).runs h
  generalize hresult : (Except.ok () : Except (ReceiveFailure library) Unit) = result at hreceived
  cases hreceived with
  | unlisted => cases hresult
  | @polled middle objects attempts lines hpolled hprints hlines =>
      obtain ⟨⟨entries, ⟨more, hmore, hmem⟩, hlisting⟩, hcollected, hsilent⟩ := hpolled
      rw [← hprints.site] at hcollected
      refine ⟨entries, objects, ⟨more, hprints.listings.trans hmore, hmem⟩, hlisting, ?_⟩
      intro object hobject hlasting
      rw [← hcollected.objects] at hobject
      obtain ⟨attempt, hattempt, rfl⟩ := List.mem_map.1 hobject
      -- The exit says that no attempt has failed.
      have hnone : attempts.countP failed = 0 := by
        unfold receiveStatus at hresult
        split_ifs at hresult with hzero
        · exact hzero
      have hsucceeded := List.countP_eq_zero.1 hnone attempt hattempt
      cases hattempted : attempt.result with
      | error error =>
          unfold failed at hsucceeded
          rw [hattempted] at hsucceeded
          exact absurd rfl hsucceeded
      | ok reconciled =>
          obtain ⟨bytes, hfetched, hkept, hrecord⟩ :=
            hcollected.loaded attempt hattempt reconciled hattempted hlasting
          obtain ⟨own, hreported, hinfix⟩ :=
            (hlines (List.ne_nil_of_mem hattempt)).reported hattempt hattempted
          refine ⟨bytes, reconciled.record, own, hfetched,
            hcollected.left attempt hattempt fun error herror => ?_, hkept, hrecord, hreported,
            lines, ?_, hinfix⟩
          · cases hattempted.symm.trans herror
          · rw [hprints.stdout, hsilent]

/-! ## A poll that succeeds -/

def sampleResultRouting : ResultRouting :=
  ⟨⟨"0000000000", none⟩, ⟨"TO-VAC", none⟩, ⟨"12345678", none⟩, ⟨"FROM-VAC", none⟩⟩

def sampleProcess : ProcessResult where
  routing := sampleResultRouting
  message := ⟨"1", "3", "F0401", "S", "C0401"⟩
  diagnostics := [⟨"0000", none, Vector.replicate 5 none⟩]

/-- One message, with one invoice that was accepted. -/
def sampleSummary : SummaryResult where
  routing := sampleResultRouting
  messages :=
    [⟨⟨"1", "3", "F0401", "S", "C0401"⟩,
      ⟨⟨1, [⟨"AB12345678", "20260824"⟩]⟩, ⟨1, [⟨"AB12345678", "20260824"⟩]⟩, ⟨0, []⟩⟩⟩]

/-- Parsers of one document each. -/
def sampleInbound : InboundLibrary sampleCli Unit where
  parsers :=
    ⟨fun xml => if xml = "</>" then .ok sampleProcess else .error (),
      fun xml => if xml = "<!>" then .ok sampleSummary else .error ()⟩
  debugKind _ := "Unknown"
  displayError _ := ""
  build := .checked

def sampleReceiveArgs : ReceiveArgs where
  environment := .test
  knownHosts := "known_hosts"
  transportId := "transport-id"
  transportPasswordEnv := "TRANSPORT_PASSWORD"
  inboxDir := "inbox"

/-- Nothing has been received, and the server has the two files of its listing. -/
def sampleStation : Station sampleCli where
  machine := sampleMachine.withRemote Sftp.samplePolled.files
  world := Sftp.samplePolled.world
  listings := []
  stdout := []
  stderr := []

/-- A station whose site never fails. -/
def sampleStationSite : Handler (Sftp.siteSignature sampleCli.ssh) (Station sampleCli) where
  Choice _ := Unit
  respond op _ station :=
    let answer := Sftp.sampleSite.respond op () station.site
    (answer.1, { station.withSite answer.2 with
      listings := station.listings ++ @listingsOf sampleCli op answer.1 })

/-- The poll of the listing. -/
def samplePollEnd : Program (Sftp.siteSignature sampleCli.ssh)
    (Except (PollError (Sftp.SftpInboxError sampleCli.ssh)) (List (SiteAttempt sampleCli Unit))) ×
      Station sampleCli :=
  sampleStationSite.runUntil (fun _ _ => ()) (fun _ => false)
    ((pollOnce sampleInbound.parsers 4 (.ok Sftp.sampleObjects)).run.substitute
      (Sftp.inboxCall 4 sampleReceiveArgs.sftp Sftp.sampleCredentials))
    { sampleStation with listings := [Sftp.sampleEntries] }

/-- What is printed of the summary. -/
def sampleSummaryLine : String :=
  "received kind=SummaryResult path=inbox/SummaryResult correlation_id=1 total=1 good=1 failed=0" ++
    " validation_issues=0"

/-- The station after the poll, with what is printed. -/
def sampleReceived : Station sampleCli :=
  (samplePollEnd.2.printed (.print (processLine "inbox/ProcessResult" sampleProcess))).printed
    (.print sampleSummaryLine)

theorem sample_listed :
    sampleStationSite.Returns (fun _ _ => ())
      ((Sftp.list sampleReceiveArgs.sftp Sftp.sampleCredentials).run.substitute
        fun op => Sftp.siteCall (.ssh op))
      sampleStation
      (.ok (List.mergeSort [⟨"SummaryResult", 3⟩, ⟨"ProcessResult", 3⟩] Sftp.namedBefore))
      { sampleStation with listings := [Sftp.sampleEntries] } := Prod.ext (by rfl) (by rfl)

/-- The attempts for the two files. -/
def sampleAttempts : List (SiteAttempt sampleCli Unit) :=
  [⟨⟨"ProcessResult", 3⟩, .ok ⟨.persisted "ProcessResult",
      ⟨"ProcessResult", .processResult, some (.process sampleProcess)⟩⟩⟩,
    ⟨⟨"SummaryResult", 3⟩, .ok ⟨.persisted "SummaryResult",
      ⟨"SummaryResult", .summaryResult, some (.summary sampleSummary)⟩⟩⟩]

theorem sample_poll_end : samplePollEnd.1 = .pure (.ok sampleAttempts) := rfl

/-- The sample answers like a station. -/
theorem sample_station_answers (op : Sftp.SiteOp Sftp.sampleLibrary) (station : Station sampleCli) :
    @ReceiveAnswers sampleCli (.site op) station (sampleStationSite.respond op () station).1
      (sampleStationSite.respond op () station).2 :=
  ⟨_, Sftp.sampleSite_answers op station.site, rfl⟩

/-- Both files are received and parsed. -/
theorem sample_poll_returns :
    sampleStationSite.Returns (fun _ _ => ())
      ((pollOnce sampleInbound.parsers 4 (.ok Sftp.sampleObjects)).run.substitute
        (Sftp.inboxCall 4 sampleReceiveArgs.sftp Sftp.sampleCredentials))
      { sampleStation with listings := [Sftp.sampleEntries] } (.ok sampleAttempts)
      samplePollEnd.2 := by
  show samplePollEnd = (.pure (.ok sampleAttempts), samplePollEnd.2)
  exact Prod.ext sample_poll_end rfl

theorem sample_polls :
    Runs (fun op => @ReceiveAnswers sampleCli (.site op))
      (Sftp.pollSite sampleInbound.parsers 4 sampleReceiveArgs.sftp Sftp.sampleCredentials).run
      sampleStation (.ok sampleAttempts) samplePollEnd.2 := by
  have hlisted := sample_listed
  rw [Sftp.sample_sorted] at hlisted
  have hfirst := hlisted.runs_of sample_station_answers
  have hnext := sample_poll_returns.runs_of sample_station_answers
  exact hfirst.bind hnext

theorem sample_finishes :
    Runs ReceiveAnswers (finishReceive sampleInbound sampleReceiveArgs sampleAttempts).run
      samplePollEnd.2 (.ok ()) sampleReceived := by
  have hprinted : ∀ (line : String) (station : Station sampleCli),
      @ReceiveAnswers sampleCli (.cli (.print line)) station () (station.printed (.print line)) :=
    fun _ _ => ⟨_, rfl, rfl⟩
  exact .call (hprinted _ _) (.call (hprinted _ _) (.pure (Except.ok ()) _))

/-- The sample moves its files to the inbox. -/
theorem sample_receives :
    Runs ReceiveAnswers (runReceive 4 sampleInbound sampleReceiveArgs).run sampleStation (.ok ())
      sampleReceived := by
  have hvar : @ReceiveAnswers sampleCli (.cli (.var "TRANSPORT_PASSWORD")) sampleStation
      (.ok "secret") sampleStation := ⟨_, ⟨rfl, rfl⟩, rfl⟩
  have hsecret : Runs ReceiveAnswers
      (shared (readSecretEnvironment "TRANSPORT_PASSWORD" : CliProgram sampleCli _)).run
      sampleStation (.ok "secret") sampleStation := by
    unfold shared readSecretEnvironment
    rw [if_neg (by decide)]
    exact .call hvar (.pure (Except.ok "secret") _)
  have hcreated : @ReceiveAnswers sampleCli (.createDirAll "inbox") sampleStation (.ok ())
      sampleStation := rfl
  have hnew : Runs ReceiveAnswers (newPoller "inbox" : ReceiveProgram sampleCli Unit).run
      sampleStation (.ok ()) sampleStation := .call hcreated (.pure (Except.ok ()) _)
  have hpoll : Runs (@ReceiveAnswers sampleCli) (Program.substitute _ _) (id _) _ (id _) :=
    sample_polls.substitute fun op station reply next h =>
      (Runs.perform h : Runs ReceiveAnswers (receiveCall (.site op)) station reply next)
  exact hsecret.run_bind (hnew.run_bind ((Runs.adapt hpoll).run_bind sample_finishes))

theorem sample_receive_conserves : Conserved sampleStation sampleReceived :=
  receive_conserves sample_receives

set_option maxRecDepth 4000 in
/-- The run of the sample has moved and printed both files. -/
theorem sample_receive_complete :
    Sftp.sampleObjects.map RemoteObject.name = ["ProcessResult", "SummaryResult"] ∧
    ∀ object ∈ Sftp.sampleObjects, ∃ bytes record lines,
      Moved sampleInbound sampleReceiveArgs sampleStation sampleReceived object bytes record
        lines := by
  obtain ⟨entries, objects, ⟨more, hmore, hmem⟩, hlisting, hmoved⟩ :=
    receive_complete sample_receives
  have hentries : [Sftp.sampleEntries] = more := hmore
  subst hentries
  cases List.mem_singleton.1 hmem
  have hobjects : List.Perm objects [⟨"SummaryResult", 3⟩, ⟨"ProcessResult", 3⟩] := by
    cases hlisting with
    | listed hshown hperm hsorted =>
        have hlisted : (Sftp.listEntries Sftp.sampleEntries :
            Except (Sftp.SftpInboxError sampleCli.ssh) _) =
              .ok [⟨"SummaryResult", 3⟩, ⟨"ProcessResult", 3⟩] := rfl
        cases (Sftp.listEntries_ok_iff.2 hshown).symm.trans hlisted
        exact hperm
  refine ⟨rfl, fun object hobject => hmoved object (hobjects.mem_iff.2 ?_) fun h => ?_⟩
  · rw [← Sftp.sample_sorted] at hobject
    exact List.mem_mergeSort.1 hobject
  · rcases List.mem_pair.1 hobject with rfl | rfl <;>
    exact absurd h.head (by decide)

end TwEinvoice.Cli
