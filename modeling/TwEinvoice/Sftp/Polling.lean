import TwEinvoice.Delivery.Collection
import TwEinvoice.Delivery.Footprint
import TwEinvoice.Sftp.Listing
import TwEinvoice.Sftp.Site

/-!
# A poll over SFTP removes what it has kept

The client carries out the downloads and deletions of the receiver as the receiver's model takes
them to be: a download writes some bytes and, if it succeeds, all of the remote file. So what holds
of every deletion by the receiver holds of every `unlink` by the client.
-/

namespace TwEinvoice.Sftp

open Delivery Effects Rust Storage Transport

variable {lib : SshLibrary} {config : SftpConfig} {credentials : SftpCredentials}

/-! ## What each operation calls -/

/-- The only file that the operation may remove. -/
theorem only_program (fuel : Nat) (config : SftpConfig) (credentials : SftpCredentials)
    (operation : Operation) :
    Only (fun op : SshOp lib => (∀ path, op = .unlink path → operation.Paths config op) ∧
      ∀ name, operation.name = some name → safeRemoteBasename name = true)
      (operation.program fuel config credentials) := by
  refine Must.only_of_recording (must_program fuel config credentials operation) ?_
  rintro op trace ⟨hguarded, hsafe⟩
  refine ⟨?_, hsafe⟩
  rintro path rfl
  exact hguarded.1

/-- A download removes nothing. -/
theorem only_download (fuel : Nat) (config : SftpConfig) (credentials : SftpCredentials)
    (object : RemoteObject) :
    Only (fun op : SshOp lib => ∀ path, op ≠ .unlink path)
      (download fuel config credentials object).run := by
  refine (must_bind.1 (only_program fuel config credentials (.download object))).permits_mono ?_
    |>.mono fun _ _ _ => trivial
  rintro op _ ⟨hunlink, _⟩ path rfl
  cases hunlink path rfl

theorem only_list (config : SftpConfig) (credentials : SftpCredentials) :
    Only (fun op : SshOp lib => ∀ path, op ≠ .unlink path) (list config credentials).run := by
  refine (must_bind.1 (only_program 0 config credentials .list)).permits_mono ?_
    |>.mono fun _ _ _ => trivial
  rintro op _ ⟨hunlink, _⟩ path rfl
  cases hunlink path rfl

/-- A listing leaves the remote files alone. -/
theorem only_list_quiet (config : SftpConfig) (credentials : SftpCredentials) :
    Only (fun op : SshOp lib => ∀ files reply next, SshAnswers op files reply next → next = files)
      (list config credentials).run := by
  have hsession : Only (fun op : SshOp lib => ∀ files reply next,
      SshAnswers op files reply next → next = files)
      (connectSession config credentials : ConnectProgram lib _).run :=
    (only_connectSession config credentials).permits_mono fun op _ hop _ _ _ hanswer =>
      hanswer.keeps hop
  refine Only.run_bind (must_run_adapt.2 ?_) fun entries => Only.run_bind trivial fun _ => trivial
  refine Only.run_bind hsession fun _ => Only.run_bind ?_ fun _ => ?_
  · exact must_run_adapt.2 ⟨fun _ _ _ => id, fun _ _ _ => trivial⟩
  · refine must_run_adapt.2 ⟨fun files reply next hanswer => ?_, fun _ _ _ => trivial⟩
    exact hanswer

/-- A deletion removes the one object, which has a safe name. -/
theorem only_delete (config : SftpConfig) (credentials : SftpCredentials) (object : RemoteObject) :
    Only (fun op : SshOp lib => ∀ path, op = .unlink path →
        path = joinPath config.receiveDirectory object.name ∧ safeRemoteBasename object.name = true)
      (delete config credentials object).run := by
  refine (must_bind.1 (only_program 0 config credentials (.delete object))).permits_mono ?_
    |>.mono fun _ _ _ => trivial
  rintro op _ ⟨hunlink, hsafe⟩ path rfl
  cases hunlink path rfl
  exact ⟨rfl, hsafe _ rfl⟩

/-- What a deletion leaves behind. -/
structure Deletes (config : SftpConfig) (object : RemoteObject) (before after : RemoteFiles)
    (succeeded : Prop) : Prop where
  changed : after = before ∨ safeRemoteBasename object.name = true ∧
    after = before.removed (joinPath config.receiveDirectory object.name)
  removed : succeeded → after = before.removed (joinPath config.receiveDirectory object.name)

/-- When a deletion comes to remove the file, the files are as they were. -/
theorem must_delete (config : SftpConfig) (credentials : SftpCredentials) (object : RemoteObject)
    (before : RemoteFiles) :
    Must SshAnswers (fun op files => ∀ path, op = .unlink path → files = before)
      (delete config credentials object : ExceptT (SftpInboxError lib) _ Unit).run
      (fun result after => Deletes config object before after (result = .ok ())) before := by
  unfold delete
  cases hsafe : safeRemoteBasename object.name with
  | false => exact ⟨.inl rfl, nofun⟩
  | true =>
      have hsession := (must_connectSession config credentials before).only
        (@only_connectSession lib config credentials)
      refine must_run_adapt.2 (must_run_bind.2 ((hsession.permits_mono ?_).mono ?_))
      · intro op files hop path hunlink
        subst hunlink
        exact absurd trivial hop.2
      · intro result files hfiles
        subst hfiles
        cases result with
        | error error => exact ⟨.inl rfl, nofun⟩
        | ok value =>
            refine must_run_bind.2 (must_run_adapt.2 (must_perform.2 ⟨nofun, ?_⟩))
            intro reply next hnext
            have hsame : next = files := hnext
            subst hsame
            cases reply with
            | error error => exact ⟨.inl rfl, nofun⟩
            | ok value =>
                refine must_run_adapt.2 (must_perform.2 ⟨fun _ _ => rfl, ?_⟩)
                intro reply after hafter
                rcases hafter with hremoved | ⟨hfailed, hsame⟩
                · exact ⟨.inr ⟨hsafe, hremoved⟩, fun _ => hremoved⟩
                · cases reply with
                  | ok value => exact absurd rfl hfailed
                  | error error => exact ⟨.inl hsame, nofun⟩

/-! ## Calls of the client on a site -/

/-- What the client's calls leave behind in the local inbox: nothing. -/
theorem carriesOut_ssh {permits : SshOp lib → RemoteFiles → Prop}
    {permits' : SiteOp lib → Site lib → Prop} {world : SiteWorld lib}
    (hpermits : ∀ op files, permits op files → permits' (.ssh op) ⟨world, files⟩) :
    CarriesOut SshAnswers permits SiteAnswers permits' (fun op => siteCall (.ssh op))
      fun files site => site = ⟨world, files⟩ := by
  rintro op files _ rfl hop
  refine must_perform.2 ⟨hpermits op files hop, fun reply next hnext => ?_⟩
  obtain ⟨hfiles, hworld⟩ := hnext
  refine ⟨next.files, hfiles, ?_⟩
  rw [← show next.world = world from hworld]

/-- Of the client's calls only writes to the local file add to what was received. -/
theorem SshAnswers.received {op : SshOp lib} {files next : RemoteFiles}
    {reply : (sshSignature lib).Reply op} (hop : ∀ bytes, op ≠ .writeLocal bytes)
    (h : SshAnswers op files reply next) : next.received = files.received := by
  cases op with
  | writeLocal bytes => exact absurd rfl (hop bytes)
  | create path | unlink path =>
      rcases h with rfl | ⟨_, rfl⟩ <;> rfl
  | openPath path =>
      rcases h with ⟨_, rfl⟩ | ⟨_, rfl⟩ <;> rfl
  | write bytes =>
      cases reply <;> cases h <;> rfl
  | read bufferLength =>
      cases reply with
      | error error => cases h; rfl
      | ok chunk => obtain ⟨_, _, rfl⟩ := h; rfl
  | _ => cases h; rfl

/-- The local file has been given what was received since. -/
structure Downloading (start : Site lib) (file : Nat) (files : RemoteFiles) (site : Site lib) :
    Prop where
  server : site.files = files
  local_file : ∃ got, files.received = start.files.received ++ got ∧
    Alike (start.world.withDirectory (start.world.directory.append file got)) site.world

/-- The client's calls, with its writer in place. -/
theorem carriesOut_client {permits' : SiteOp lib → Site lib → Prop} (start : Site lib) (file : Nat)
    (hpermits : ∀ op site, (∀ path, op ≠ .ssh (.unlink path)) → permits' op site) :
    CarriesOut SshAnswers (fun op _ => ∀ path, op ≠ .unlink path) SiteAnswers permits'
      (clientCall file) (Downloading start file) := by
  intro op files site hrelated hop
  obtain ⟨rfl, got, hgot, halike⟩ := hrelated
  -- Every call but a write to the local file is a call to the server.
  have hserver : (∀ bytes, op ≠ .writeLocal bytes) →
      Must SiteAnswers permits' (siteCall (.ssh op)) (fun reply after =>
        ∃ next, SshAnswers op site.files reply next ∧ Downloading start file next after) site := by
    intro hlocal
    refine must_perform.2 ⟨hpermits _ _ fun path heq => hop path (SiteOp.ssh.inj heq), ?_⟩
    intro reply after hafter
    refine ⟨after.files, hafter.1, rfl, got, (hafter.1.received hlocal).trans hgot, ?_⟩
    rw [show after.world = site.world from hafter.2]
    exact halike
  cases op with
  | writeLocal bytes =>
      refine must_perform.2 ⟨hpermits _ _ fun path heq => (by cases heq), ?_⟩
      intro reply after hafter
      cases reply with
      | error error =>
          have hsame : after = site := hafter
          subst hsame
          exact ⟨after.files, rfl, rfl, got, hgot, halike⟩
      | ok count =>
          obtain ⟨hfiles, hworld⟩ := hafter
          refine ⟨after.files, hfiles, rfl, got ++ bytes.take count, ?_, ?_⟩
          · rw [hfiles]
            show site.files.received ++ _ = _
            rw [hgot, List.append_assoc]
          · rw [hworld]
            exact (alike_append_append _ file got _).trans (halike.append file _)
  | _ => exact hserver fun _ heq => by cases heq

/-! ## Calls of the receiver on a site -/

/-- What is to hold when the client removes a remote file. -/
def UnlinksKept (config : SftpConfig) (op : SiteOp lib) (site : Site lib) : Prop :=
  ∀ path, op = .ssh (.unlink path) → ∃ object bytes,
    path = joinPath config.receiveDirectory object.name ∧
      safeRemoteBasename object.name = true ∧ Complete object bytes ∧
      site.files.file path = some bytes ∧ site.world.directory.read object.name = some bytes

/-- The world of the receiver's model and the site, since the remote files were these: what
downloads have reported are the remote files, and only deletions have removed any. -/
structure Serving (config : SftpConfig) (start : RemoteFiles) (world : SiteWorld lib)
    (site : Site lib) : Prop where
  alike : Alike world site.world
  fetched : ∀ object bytes, .download object bytes (.ok ()) ∈ world.remote →
    start.file (joinPath config.receiveDirectory object.name) = some bytes
  served : ∀ earlier object bytes, world.remote = earlier ++ [.download object bytes (.ok ())] →
    site.files.file (joinPath config.receiveDirectory object.name) = some bytes
  server : ∀ path, site.files.file path = start.file path ∨ site.files.file path = none ∧
    ∃ object reply, .delete object reply ∈ world.remote ∧
      safeRemoteBasename object.name = true ∧
      path = joinPath config.receiveDirectory object.name
  removed : ∀ object, .delete object (.ok ()) ∈ world.remote →
    site.files.file (joinPath config.receiveDirectory object.name) = none

/-- Other calls need no copy. -/
theorem unlinksKept_of_ne {op : SiteOp lib} {site : Site lib}
    (hop : ∀ path, op ≠ .ssh (.unlink path)) : UnlinksKept config op site :=
  fun path heq => absurd heq (hop path)

/-- A call that is not remote is not logged. -/
theorem remote_eq_of_not_remote {ε : Type} {op : InboxOp} (hremote : ¬ IsRemote op)
    (choice : World.Choice ε op) (world : World ε) :
    (World.respond op choice world).2.remote = world.remote := by
  rw [remote_respond]
  cases op with
  | download | delete => exact absurd trivial hremote
  | _ => exact List.append_nil _

/-- A call that is not remote changes neither the log nor the remote files. -/
theorem Serving.own {start : RemoteFiles} {world next : SiteWorld lib} {site after : Site lib}
    (h : Serving config start world site) (halike : Alike next after.world)
    (hlog : next.remote = world.remote) (hfiles : after.files = site.files) :
    Serving config start next after := by
  refine ⟨halike, ?_, ?_, ?_, ?_⟩
  · rw [hlog]
    exact h.fetched
  · rw [hlog, hfiles]
    exact h.served
  · rw [hlog, hfiles]
    exact h.server
  · rw [hlog, hfiles]
    exact h.removed

/-- A download adds what it has taken to the log. -/
theorem Serving.download {start : RemoteFiles} {world next : SiteWorld lib}
    {site after : Site lib} {object : RemoteObject} {got : List UInt8}
    {reply : Except (SftpInboxError lib) Unit} (h : Serving config start world site)
    (halike : Alike next after.world)
    (hlog : next.remote = world.remote ++ [.download object got reply])
    (hfiles : after.files.file = site.files.file)
    (hgot : reply = .ok () →
      site.files.file (joinPath config.receiveDirectory object.name) = some got) :
    Serving config start next after := by
  have hold : ∀ {deleted : RemoteObject} {other : Except (SftpInboxError lib) Unit},
      .delete deleted other ∈ world.remote ++ [.download object got reply] →
        .delete deleted other ∈ world.remote := by
    intro deleted other hmem
    rcases List.mem_append.1 hmem with hmem | hmem
    · exact hmem
    · cases List.mem_singleton.1 hmem
  refine ⟨halike, fun other bytes hmem => ?_, fun earlier other bytes hlast => ?_, fun path => ?_,
    fun deleted hmem => ?_⟩
  · rw [hlog] at hmem
    rcases List.mem_append.1 hmem with hmem | hmem
    · exact h.fetched other bytes hmem
    · cases List.mem_singleton.1 hmem
      -- The file was there, so no deletion had removed it.
      rcases h.server (joinPath config.receiveDirectory object.name) with hsame | ⟨hnone, _⟩
      · exact hsame.symm.trans (hgot rfl)
      · cases hnone.symm.trans (hgot rfl)
  · obtain ⟨_, hlast⟩ := List.append_inj' (hlog.symm.trans hlast) rfl
    cases List.singleton_inj.1 hlast
    rw [hfiles]
    exact hgot rfl
  · rw [hfiles, hlog]
    refine (h.server path).imp_right fun hremoved => ?_
    obtain ⟨hnone, deleted, other, hmem, hsafe⟩ := hremoved
    exact ⟨hnone, deleted, other, List.mem_append_left _ hmem, hsafe⟩
  · rw [hlog] at hmem
    rw [hfiles]
    exact h.removed deleted (hold hmem)

/-- A deletion may remove the file. -/
theorem Serving.delete {start : RemoteFiles} {world next : SiteWorld lib} {site after : Site lib}
    {object : RemoteObject} {reply : Except (SftpInboxError lib) Unit}
    (h : Serving config start world site) (halike : Alike next after.world)
    (hlog : next.remote = world.remote ++ [.delete object reply])
    (hdeletes : Deletes config object site.files after.files (reply = .ok ())) :
    Serving config start next after := by
  refine ⟨halike, fun other bytes hmem => ?_, fun earlier other bytes hlast => ?_, fun path => ?_,
    fun deleted hmem => ?_⟩
  · rw [hlog] at hmem
    rcases List.mem_append.1 hmem with hmem | hmem
    · exact h.fetched other bytes hmem
    · cases List.mem_singleton.1 hmem
  · obtain ⟨_, hlast⟩ := List.append_inj' (hlog.symm.trans hlast) rfl
    cases List.singleton_inj.1 hlast
  · rw [hlog]
    have hbefore : site.files.file path = start.file path ∨ site.files.file path = none ∧
        ∃ deleted other, .delete deleted other ∈ world.remote ++ [.delete object reply] ∧
          safeRemoteBasename deleted.name = true ∧
          path = joinPath config.receiveDirectory deleted.name := by
      refine (h.server path).imp_right fun hremoved => ?_
      obtain ⟨hnone, deleted, other, hmem, hsafe⟩ := hremoved
      exact ⟨hnone, deleted, other, List.mem_append_left _ hmem, hsafe⟩
    rcases hdeletes.changed with hsame | ⟨hsafe, hremoved⟩
    · rw [hsame]
      exact hbefore
    · rw [hremoved]
      by_cases hpath : path = joinPath config.receiveDirectory object.name
      · refine .inr ⟨?_, object, reply, by simp, hsafe, hpath⟩
        rw [hpath]
        exact Function.update_self _ _ _
      · rw [show (site.files.removed _).file path = site.files.file path from
          Function.update_of_ne hpath _ _]
        exact hbefore
  · rw [hlog] at hmem
    rcases List.mem_append.1 hmem with hmem | hmem
    · have hnone := h.removed deleted hmem
      rcases hdeletes.changed with hsame | ⟨_, hremoved⟩
      · rw [hsame]
        exact hnone
      · rw [hremoved]
        by_cases hpath : joinPath config.receiveDirectory deleted.name =
            joinPath config.receiveDirectory object.name
        · rw [hpath]
          exact Function.update_self _ _ _
        · exact (Function.update_of_ne hpath _ _).trans hnone
    · cases List.mem_singleton.1 hmem
      rw [hdeletes.removed rfl]
      exact Function.update_self _ _ _

/-- The client downloads and deletes as the receiver's model has it. -/
theorem carriesOut_inbox (fuel : Nat) (objects : List RemoteObject) (start : RemoteFiles) :
    CarriesOut (World.assuming fun _ _ _ => True) (DeletesOnly objects)
      (@SiteAnswers lib) (UnlinksKept config) (inboxCall fuel config credentials)
      (Serving config start) := by
  intro op world site hserving hop
  have hown : ¬ IsRemote op → Must SiteAnswers (UnlinksKept config) (siteCall (.inbox op))
      (fun reply after => ∃ next, World.assuming (fun _ _ _ => True) op world reply next ∧
        Serving config start next after) site := by
    intro hremote
    refine must_perform.2 ⟨unlinksKept_of_ne fun _ heq => (by cases heq), ?_⟩
    intro reply after hanswer
    obtain ⟨⟨choice, _, hrespond⟩, hfiles⟩ := hanswer
    obtain ⟨hreply, halike⟩ := hserving.alike.respond hremote choice
    rw [show World.respond op choice site.world = (reply, after.world) from hrespond]
      at hreply halike
    exact ⟨(World.respond op choice world).2, ⟨choice, trivial, Prod.ext hreply.symm rfl⟩,
      hserving.own halike (remote_eq_of_not_remote hremote choice world) hfiles⟩
  cases op with
  | download object file =>
      have hmust := (@must_download lib fuel config credentials object site.files).only
        (only_download fuel config credentials object)
      have hstart : Downloading site file site.files site :=
        ⟨rfl, [], (List.append_nil _).symm, alike_append_nil site.world file⟩
      refine ((carriesOut_client site file fun _ _ => unlinksKept_of_ne).must
        (hmust.permits_mono fun _ _ hop => hop.2) hstart).mono ?_
      intro reply after hafter
      obtain ⟨files, hdownloads, rfl, got, hgot, halike⟩ := hafter
      refine ⟨(world.withDirectory (world.directory.append file got)).logged
        (.download object got reply), ⟨(got, reply), trivial, rfl⟩, ?_⟩
      refine hserving.download (((hserving.alike.append file got).trans halike).logged _) rfl
        hdownloads.unchanged fun hok => ?_
      obtain ⟨received, hreceived, _, hcomplete⟩ := hdownloads.taken
      rw [hcomplete hok]
      exact congrArg some (List.append_cancel_left (hreceived.symm.trans hgot))
  | delete object =>
      obtain ⟨_, earlier, bytes, hlast, hcomplete, hread⟩ := hop object rfl
      have hmust := (@must_delete lib config credentials object site.files).only
        (only_delete config credentials object)
      refine ((carriesOut_ssh fun op files hop => ?_).must hmust rfl).mono ?_
      · intro path heq
        cases heq
        obtain ⟨hsame, hpath, hsafe⟩ : _ ∧ _ ∧ _ := ⟨hop.1 path rfl, hop.2 path rfl⟩
        subst hpath
        rw [hsame]
        refine ⟨object, bytes, rfl, hsafe, hcomplete, hserving.served _ _ _ hlast, ?_⟩
        rw [hserving.alike.read]
        exact hread
      · intro reply after hafter
        obtain ⟨files, hdeletes, rfl⟩ := hafter
        exact ⟨world.logged (.delete object reply), ⟨reply, trivial, rfl⟩,
          hserving.delete (hserving.alike.logged _) rfl hdeletes⟩
  | _ => exact hown fun hremote => hremote.elim

/-! ## The poll -/

/-- What the poll of these objects has moved from the server to the inbox. Whatever has left the
server under a lasting name is in the inbox, and a record that is returned was made from it. -/
structure Collected {ξ : Type} (parsers : ResultParsers ξ) (config : SftpConfig)
    (before : Site lib) (objects : List RemoteObject)
    (attempts : List (PollAttempt (SftpInboxError lib) ξ)) (after : Site lib) : Prop where
  inbox : ∀ name bytes, before.world.directory.read name = some bytes →
    after.world.directory.read name = some bytes
  server : ∀ path, after.files.file path = before.files.file path ∨
    after.files.file path = none ∧ ∃ object : RemoteObject,
      path = joinPath config.receiveDirectory object.name ∧
      safeRemoteBasename object.name = true ∧
      (¬ IsIncomingName object.name → ∃ bytes, before.files.file path = some bytes ∧
        after.world.directory.read object.name = some bytes)
  objects : attempts.map PollAttempt.object = objects
  left : ∀ attempt ∈ attempts, (∀ error, attempt.result ≠ .error (.receive error)) →
    after.files.file (joinPath config.receiveDirectory attempt.object.name) = none
  loaded : ∀ attempt ∈ attempts, ∀ reconciled, attempt.result = .ok reconciled →
    ¬ IsIncomingName attempt.object.name →
      ∃ bytes, before.files.file (joinPath config.receiveDirectory attempt.object.name) =
          some bytes ∧
        after.world.directory.read attempt.object.name = some bytes ∧
        Reconciles parsers attempt.object.name bytes reconciled.record

/-- What the inbox holds of a download was on the server. -/
theorem Serving.holds {start : RemoteFiles} {world : SiteWorld lib} {site : Site lib}
    {object : RemoteObject} {bytes : List UInt8} (h : Serving config start world site)
    (hholds : Holds world object bytes) :
    start.file (joinPath config.receiveDirectory object.name) = some bytes ∧
      site.world.directory.read object.name = some bytes :=
  ⟨h.fetched object bytes hholds.1, (h.alike.read object.name).trans hholds.2⟩

/-- The receiver's model starts with an empty log. -/
theorem serving_start (config : SftpConfig) (site : Site lib) :
    Serving config site.files { site.world with remote := [] } site := by
  refine ⟨⟨rfl, rfl, fun _ => rfl, rfl, rfl⟩, nofun, fun earlier object bytes hlast => ?_,
    fun _ => .inl rfl, nofun⟩
  exact absurd hlast.symm (List.append_ne_nil_of_right_ne_nil _ (List.cons_ne_nil _ _))

/-- Once these objects are listed. -/
theorem must_pollListed {ξ : Type} (parsers : ResultParsers ξ) (fuel : Nat)
    (objects : List RemoteObject) (before : Site lib) :
    Must SiteAnswers (UnlinksKept config)
      ((pollOnce parsers fuel (.ok objects)).run.substitute (inboxCall fuel config credentials))
      (fun result after => ∃ attempts, result = .ok attempts ∧
        Collected parsers config before objects attempts after) before := by
  refine ((carriesOut_inbox fuel objects before.files).must (must_pollOnce_keeps fuel objects _)
    (serving_start config before)).mono ?_
  intro result after hafter
  obtain ⟨world, ⟨attempts, hresult, hpolled⟩, hserving⟩ := hafter
  obtain ⟨calls, hremote, hdeleted⟩ := hpolled.keeps.deleted
  rw [List.nil_append] at hremote
  refine ⟨attempts, hresult, fun name bytes hread => ?_, fun path => ?_, hpolled.objects,
    fun attempt hmem hresult => ?_, fun attempt hmem reconciled hok hlasting => ?_⟩
  · exact (hserving.alike.read name).trans (hpolled.keeps.files name bytes hread)
  · refine (hserving.server path).imp_right fun hremoved => ?_
    obtain ⟨hnone, object, reply, hmem, hsafe, hpath⟩ := hremoved
    refine ⟨hnone, object, hpath, hsafe, fun hlasting => ?_⟩
    obtain ⟨bytes, hholds⟩ := hdeleted object reply (hremote ▸ hmem) hlasting
    exact ⟨bytes, hpath ▸ (hserving.holds hholds).1, (hserving.holds hholds).2⟩
  · exact hserving.removed _ ((hpolled.attempted attempt hmem).deleted hresult)
  · obtain ⟨bytes, hholds, hrecord⟩ :=
      (hpolled.attempted attempt hmem).loaded reconciled hok hlasting
    exact ⟨bytes, (hserving.holds hholds).1, (hserving.holds hholds).2, hrecord⟩

/-- In every behaviour of a poll the client only removes what is kept. -/
theorem must_pollSite {ξ : Type} (parsers : ResultParsers ξ) (fuel : Nat) (before : Site lib) :
    Must SiteAnswers (UnlinksKept config) (pollSite parsers fuel config credentials).run
      (fun _ _ => True) before := by
  have hlist : Must SshAnswers (fun _ _ => True)
      (list config credentials : ExceptT (SftpInboxError lib) _ _).run (fun _ _ => True)
      before.files := must_of_forall fun _ _ => trivial
  refine must_bind.2 (((carriesOut_ssh fun op files hop => ?_).must
    (hlist.only (only_list config credentials)) rfl).mono ?_)
  · exact unlinksKept_of_ne fun path heq => hop.2 path (SiteOp.ssh.inj heq)
  intro listed after hafter
  cases listed with
  | error error => trivial
  | ok objects => exact (must_pollListed parsers fuel objects after).mono fun _ _ _ => trivial

/-- In every run of a poll over SFTP, however transfers are cut, interrupted and repeated and
whichever calls fail: when the client removes a remote file, the local inbox has all of its bytes
under the name of the file. -/
theorem poll_unlinks_kept {ξ : Type} {parsers : ResultParsers ξ} {fuel : Nat}
    {before site : Site lib} {path : String}
    (h : Calls SiteAnswers (pollSite parsers fuel config credentials).run before
      (.ssh (.unlink path)) site) :
    ∃ object bytes, path = joinPath config.receiveDirectory object.name ∧
      safeRemoteBasename object.name = true ∧ Complete object bytes ∧
      site.files.file path = some bytes ∧ site.world.directory.read object.name = some bytes :=
  (must_pollSite parsers fuel before).calls h path rfl

/-- A site where nothing fails and every transfer is done at once. -/
def sampleSite : Handler (siteSignature sampleLibrary) (Site sampleLibrary) where
  Choice _ := Unit
  respond
    | .inbox op, _, site =>
        ((World.respond op (World.noFault op) site.world).1,
          ⟨(World.respond op (World.noFault op) site.world).2, site.files⟩)
    | .ssh op, _, site =>
        ((sampleServer.respond op () site.files).1,
          ⟨site.world, (sampleServer.respond op () site.files).2⟩)
    | .writeFile file bytes, _, site =>
        (.ok (Fin.last bytes.length),
          ⟨site.world.withDirectory (site.world.directory.append file bytes),
            site.files.taken bytes⟩)

theorem sampleSite_answers (op : SiteOp sampleLibrary) (site : Site sampleLibrary) :
    SiteAnswers op site (sampleSite.respond op () site).1 (sampleSite.respond op () site).2 := by
  cases op with
  | inbox op => exact ⟨⟨World.noFault op, trivial, rfl⟩, rfl⟩
  | ssh op => exact ⟨sampleServer_answers op site.files, rfl⟩
  | writeFile file bytes =>
      refine ⟨?_, ?_⟩
      · show site.files.taken bytes = site.files.taken (bytes.take bytes.length)
        rw [List.take_length]
      · show _ = site.world.withDirectory
          (site.world.directory.append file (bytes.take bytes.length))
        rw [List.take_length]
        rfl

/-- An empty inbox, and a server with the two files of the listing. -/
def samplePolled : Site sampleLibrary :=
  ⟨World.start .empty 7 0,
    ⟨fun path => if path = "out/ProcessResult" then some [60, 47, 62]
      else if path = "out/SummaryResult" then some [60, 33, 62] else none, "", 0, []⟩⟩

/-- The client is about to remove the first file. -/
def sampleUnlink : Program (siteSignature sampleLibrary)
    (Except (PollError (SftpInboxError sampleLibrary))
      (List (PollAttempt (SftpInboxError sampleLibrary) Unit))) × Site sampleLibrary :=
  sampleSite.runUntil (fun _ _ => ()) (fun op => op matches .ssh (.unlink _))
    ((pollOnce ⟨fun _ => .error (), fun _ => .error ()⟩ 4 (.ok sampleObjects)).run.substitute
      (inboxCall 4 sampleConfig sampleCredentials)) samplePolled

theorem sample_poll_unlinks_kept :
    ∃ object bytes, "out/ProcessResult" = joinPath sampleConfig.receiveDirectory object.name ∧
      safeRemoteBasename object.name = true ∧ Complete object bytes ∧
      sampleUnlink.2.files.file "out/ProcessResult" = some bytes ∧
      sampleUnlink.2.world.directory.read object.name = some bytes := by
  have hlisted : sampleSite.Returns (fun _ _ => ())
      ((list sampleConfig sampleCredentials).run.substitute fun op => siteCall (.ssh op))
      samplePolled (.ok (List.mergeSort [⟨"SummaryResult", 3⟩, ⟨"ProcessResult", 3⟩] namedBefore))
      samplePolled := Prod.ext (by rfl) (by rfl)
  rw [sample_sorted] at hlisted
  refine @poll_unlinks_kept _ _ sampleCredentials _ ⟨fun _ => .error (), fun _ => .error ()⟩ 4 _ _
    _ (.bind (hlisted.runs_of sampleSite_answers) ?_)
  exact Handler.runUntil_calls sampleSite_answers
    (show sampleUnlink.1.pending = some (.ssh (.unlink "out/ProcessResult")) from rfl)

end TwEinvoice.Sftp
