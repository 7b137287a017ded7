import TwEinvoice.Delivery.Evidence
import TwEinvoice.Effects.Substitution
import TwEinvoice.Transport.PollerRuns

/-!
# What a poll collects

A poll keeps every file of the inbox. Under a lasting name it has in the end whatever it has
deleted remotely, and each record that it returns was made from the bytes that it has downloaded.
-/

namespace TwEinvoice.Delivery

open Effects Rust Storage Transport

variable {ε ξ : Type} {assume : (op : InboxOp) → World.Choice ε op → World ε → Prop}
variable {permits : InboxOp → World ε → Prop} {parsers : ResultParsers ξ}
variable {object : RemoteObject} {before middle after world : World ε}

/-! ## Loading -/

/-- What is read of a file is what is ahead of the reader. -/
theorem reads_readToEnd (hpermits : PermitsAt permits world.directory) (fuel : Nat)
    (reader : Reader) (bytes : List UInt8) :
    Must (World.assuming assume) permits (readToEnd fuel reader bytes).run
      (Reads (fun all => all = bytes ++
        (world.directory.file reader.file).bytes.drop reader.position) world) world := by
  induction fuel generalizing reader bytes with
  | zero => exact must_outOfFuel
  | succ fuel ih =>
      refine must_run_bind.2 (must_read hpermits (fun _ => ⟨rfl, nofun⟩) fun more => ?_)
      have hread := chunk_append_drop (world.directory.file reader.file).bytes reader.position
        bufferLength more
      have hend := @drop_eq_nil_of_chunk more (world.directory.file reader.file).bytes
        reader.position
      simp only [onResult_ok]
      generalize World.chunk (world.directory.file reader.file).bytes reader.position bufferLength
        more = chunk at *
      split_ifs with hempty
      · refine ⟨rfl, fun all hall => ?_⟩
        cases hall
        rw [hend hempty, List.append_nil]
      · refine (ih _ _).mono fun result final hfinal => ⟨hfinal.1, fun all hall => ?_⟩
        rw [hfinal.2 all hall, List.append_assoc, hread]

/-- The record that is made from these bytes under this path. -/
structure Reconciles (parsers : ResultParsers ξ) (path : String) (bytes : List UInt8)
    (record : DurableInboundRecord) : Prop where
  located : record.path = path
  kind : ∃ name, fileName path = some name ∧ record.kind = classifyRemoteName name
  parsed : parseReconciliation parsers record.kind bytes = .ok record.reconciliation

theorem reads_readFile (hpermits : PermitsAt permits world.directory) (fuel : Nat)
    (path : String) :
    Must (World.assuming assume) permits (readFile fuel path).run
      (Reads (fun bytes => world.directory.read path = some bytes) world) world := by
  refine must_run_bind.2 (must_openPath hpermits (fun _ => ⟨rfl, nofun⟩) fun found hfound => ?_)
  refine (reads_readToEnd hpermits fuel _ []).mono fun result final hfinal =>
    ⟨hfinal.1, fun bytes hbytes => ?_⟩
  rw [hfinal.2 bytes hbytes]
  simp [Directory.read, hfound]

/-- A record says what the parser makes of the file. -/
theorem reads_load (hpermits : PermitsAt permits world.directory) (fuel : Nat) (path : String) :
    Must (World.assuming assume) permits (DurableInboundRecord.load parsers fuel path).run
      (Reads (fun record => ∃ bytes, world.directory.read path = some bytes ∧
        Reconciles parsers path bytes record) world) world := by
  unfold DurableInboundRecord.load
  cases hname : fileName path with
  | none =>
      refine ⟨rfl, fun record h => ?_⟩
      cases h
  | some name =>
      refine (reads_adapt (reads_readFile hpermits fuel path)).reads_bind fun bytes hbytes => ?_
      refine (reads_checked _).reads_bind fun reconciliation hparsed => ⟨rfl, fun record h => ?_⟩
      cases h
      refine ⟨bytes, hbytes, rfl, ⟨name, hname, rfl⟩, ?_⟩
      cases hresult : parseReconciliation parsers (classifyRemoteName name) bytes with
      | error error =>
          rw [hresult] at hparsed
          cases hparsed
      | ok found =>
          rw [hresult] at hparsed
          cases hparsed
          rfl

/-! ## Receiving -/

/-- The object was downloaded, and the inbox has the bytes. -/
def Holds (world : World ε) (object : RemoteObject) (bytes : List UInt8) : Prop :=
  .download object bytes (.ok ()) ∈ world.remote ∧ world.directory.read object.name = some bytes

/-- Every file is as it was, and the inbox has what was deleted remotely since. -/
structure Keeps (before after : World ε) : Prop where
  files : ∀ name bytes, before.directory.read name = some bytes →
    after.directory.read name = some bytes
  deleted : ∃ calls, after.remote = before.remote ++ calls ∧
    ∀ object reply, .delete object reply ∈ calls → ¬ IsIncomingName object.name →
      ∃ bytes, Holds after object bytes

theorem Keeps.of_unchanged (hdirectory : after.directory = before.directory)
    (hremote : after.remote = before.remote) : Keeps before after := by
  refine ⟨fun name bytes hread => hdirectory ▸ hread, [], ?_, nofun⟩
  rw [hremote, List.append_nil]

theorem Keeps.remote_subset (h : Keeps before after) : before.remote ⊆ after.remote := by
  obtain ⟨calls, hremote, _⟩ := h.deleted
  rw [hremote]
  exact List.subset_append_left _ _

theorem Keeps.holds (h : Keeps before after) {bytes : List UInt8}
    (hholds : Holds before object bytes) : Holds after object bytes :=
  ⟨h.remote_subset hholds.1, h.files _ _ hholds.2⟩

theorem Keeps.trans (h : Keeps before middle) (hafter : Keeps middle after) :
    Keeps before after := by
  obtain ⟨calls, hcalls, hdeleted⟩ := h.deleted
  obtain ⟨more, hmore, hlater⟩ := hafter.deleted
  refine ⟨fun name bytes hread => hafter.files _ _ (h.files _ _ hread), calls ++ more, ?_, ?_⟩
  · rw [hmore, hcalls, List.append_assoc]
  · intro object reply hmem hlasting
    rcases List.mem_append.1 hmem with hmem | hmem
    · obtain ⟨bytes, hholds⟩ := hdeleted object reply hmem hlasting
      exact ⟨bytes, hafter.holds hholds⟩
    · exact hlater object reply hmem hlasting

/-- If the calls delete the object, they have downloaded what the directory has. -/
def Backed (object : RemoteObject) (calls : List (RemoteCall ε)) (directory : Directory) : Prop :=
  ∀ deleted reply, .delete deleted reply ∈ calls → deleted = object ∧
    ∃ bytes, .download object bytes (.ok ()) ∈ calls ∧ directory.read object.name = some bytes

/-- A download needs no copy. -/
theorem backed_download (object : RemoteObject) (bytes : List UInt8) (reply : Except ε Unit)
    (directory : Directory) : Backed object [.download object bytes reply] directory := by
  intro deleted other hmem
  cases List.mem_singleton.1 hmem

/-- A deletion after a complete download needs the copy. -/
theorem backed_delete {bytes : List UInt8} {directory : Directory}
    (hread : directory.read object.name = some bytes) (reply : Except ε Unit) :
    Backed object [.download object bytes (.ok ()), .delete object reply] directory := by
  intro deleted other hmem
  rcases List.mem_cons.1 hmem with hmem | hmem
  · cases hmem
  · cases List.mem_singleton.1 hmem
    exact ⟨rfl, bytes, List.mem_cons_self, hread⟩

/-- With the temporary file in scope. -/
theorem must_receiveInto_backed (fuel : Nat) (path : String) (id : UInt64) :
    Must (World.assuming assume) (fun _ _ => True)
      (receiveInto fuel object ⟨path, before.directory.next⟩).run
      (fun _ after => ∃ calls, after.remote = before.remote ++ calls ∧
        Backed object calls after.directory) (before.created id path) := by
  have hdeleted : ∀ (middle : World ε) bytes reply,
      middle.remote = before.remote ++ [.download object bytes (.ok ())] →
      middle.directory.read object.name = some bytes →
      ∃ calls, (middle.logged (.delete object reply)).remote = before.remote ++ calls ∧
        Backed object calls (middle.logged (.delete object reply)).directory := by
    intro middle bytes reply hremote hread
    refine ⟨_, ?_, backed_delete hread reply⟩
    rw [World.logged_remote, hremote, List.append_assoc]
    rfl
  refine must_receiveInto (fun _ => True) fuel (created_entry id path) (created_bytes id path)
    (fun _ _ => permitsAt_true) trivial (fun _ => trivial) (fun _ => trivial) (fun _ _ => trivial)
    ?_ ?_ ?_ ?_
  · intro error final hunpublished
    obtain ⟨bytes, reply, hremote, _⟩ := hunpublished
    exact ⟨_, hremote, backed_download object bytes reply _⟩
  · intro _ bytes hfound error _ _ _
    exact ⟨_, rfl, backed_download object bytes _ _⟩
  · intro bytes hfound _ _ _
    refine ⟨trivial, fun reply => hdeleted _ bytes reply rfl ?_⟩
    simp [World.published, received_bytes (created_bytes id path)]
  · intro bytes existing _ _ hleft hright _
    refine ⟨trivial, fun reply => hdeleted _ bytes reply rfl ?_⟩
    exact hright.trans (hleft.symm.trans (created_received_read id path object bytes))

/-- What a call of `receive` keeps, and what it has done if it succeeds. -/
structure ReceiveKeeps (object : RemoteObject) (before : World ε)
    (result : Except (ReceiveError ε) ReceiveOutcome) (after : World ε) : Prop where
  keeps : Keeps before after
  received : ∀ outcome, result = .ok outcome → outcome.durablePath = object.name ∧
    .delete object (.ok ()) ∈ after.remote ∧
    (¬ IsIncomingName object.name → ∃ bytes, Holds after object bytes)

/-- An early failure has changed nothing. -/
theorem ReceiveKeeps.of_error {error : ReceiveError ε}
    (hdirectory : after.directory = before.directory) (hremote : after.remote = before.remote) :
    ReceiveKeeps object before (.error error) after :=
  ⟨.of_unchanged hdirectory hremote, nofun⟩

/-- The name that may be left over was free. -/
theorem receiveKeeps_of_effect {leftover : Option String}
    {result : Except (ReceiveError ε) ReceiveOutcome} {calls : List (RemoteCall ε)}
    (h : ReceiveEffect object before leftover result after)
    (hleftover : ∀ path, leftover = some path → before.directory.entry path = none)
    (hremote : after.remote = before.remote ++ calls)
    (hbacked : ¬ IsIncomingName object.name → Backed object calls after.directory) :
    ReceiveKeeps object before result after := by
  obtain ⟨made, hmade, hcalls, hfiles⟩ := h.files
  cases List.append_cancel_left (hremote.symm.trans hmade)
  have hholds : ∀ deleted reply, .delete deleted reply ∈ calls → ¬ IsIncomingName object.name →
      deleted = object ∧ ∃ bytes, Holds after object bytes := by
    intro deleted reply hmem hlasting
    obtain ⟨hsame, bytes, hdownload, hread⟩ := hbacked hlasting deleted reply hmem
    exact ⟨hsame, bytes, hremote ▸ List.mem_append_right _ hdownload, hread⟩
  have hdeleted : ∀ deleted reply, .delete deleted reply ∈ calls → deleted = object := by
    intro deleted reply hmem
    cases hcalls with
    | none => cases hmem
    | downloaded => cases List.mem_singleton.1 hmem
    | deleted | undeleted =>
        rcases List.mem_cons.1 hmem with hmem | hmem
        · cases hmem
        · cases List.mem_singleton.1 hmem
          rfl
  refine ⟨⟨fun name bytes hread => ?_, calls, hremote, fun deleted reply hmem hlasting => ?_⟩, ?_⟩
  · have hkept : leftover ≠ some name := by
      intro heq
      cases (Directory.read_eq_none.2 (hleftover name heq)).symm.trans hread
    rcases hfiles name hkept with hsame | ⟨_, hnone, _⟩
    · exact hsame.trans hread
    · cases hnone.symm.trans hread
  · cases hdeleted deleted reply hmem
    exact (hholds _ reply hmem hlasting).2
  · intro outcome hok
    cases hcalls with
    | @deleted bytes _ hcomplete hpath =>
        cases hok
        have hmem : RemoteCall.delete object (.ok () : Except ε Unit) ∈
            [.download object bytes (.ok ()), .delete object (.ok ())] :=
          List.mem_cons_of_mem _ List.mem_cons_self
        refine ⟨hpath, ?_, fun hlasting => (hholds object (.ok ()) hmem hlasting).2⟩
        rw [hremote]
        exact List.mem_append_right _ hmem
    | none | downloaded | undeleted => cases hok

/-- A call of `receive` keeps the inbox, and deletes only what the inbox holds. -/
theorem must_receive_keeps (fuel : Nat) (object : RemoteObject) (before : World ε) :
    Must (World.assuming assume) (DeletesOnly [object]) (receive fuel object).run
      (ReceiveKeeps object before) before := by
  refine must_receive fuel (permitsAt_deletesOnly [object] _) (fun error => .of_error rfl rfl)
    (fun error id => .of_error rfl rfl) fun path id hnext => ?_
  obtain ⟨tries, hpath, hfree, _⟩ := hnext
  refine ((must_receiveInto_effect fuel path id).and
    (must_receiveInto_backed fuel path id)).mono fun result middle hmiddle => ?_
  obtain ⟨heffect, calls, hremote, hbacked⟩ := hmiddle
  refine ⟨permitsAt_deletesOnly [object] _, fun code _ => ?_, ?_⟩
  · refine receiveKeeps_of_effect heffect (fun other hother => ?_) hremote fun _ => hbacked
    cases hother
    exact hfree
  · refine receiveKeeps_of_effect (heffect.remove hfree) nofun hremote fun hlasting => ?_
    intro deleted reply hmem
    obtain ⟨hsame, bytes, hdownload, hread⟩ := hbacked deleted reply hmem
    refine ⟨hsame, bytes, hdownload, ?_⟩
    have hname : object.name ≠ path := fun heq => hlasting ⟨_, _, heq.trans hpath⟩
    rw [World.withDirectory_directory, Directory.read_remove_of_ne hname]
    exact hread

/-! ## Polling -/

/-- What became of one object of the listing. -/
structure Attempted (parsers : ResultParsers ξ) (world : World ε) (attempt : PollAttempt ε ξ) :
    Prop where
  deleted : (∀ error, attempt.result ≠ .error (.receive error)) →
    .delete attempt.object (.ok ()) ∈ world.remote
  loaded : ∀ reconciled, attempt.result = .ok reconciled → ¬ IsIncomingName attempt.object.name →
    ∃ bytes, Holds world attempt.object bytes ∧
      Reconciles parsers attempt.object.name bytes reconciled.record

/-- An attempt stays as it was while the inbox is kept. -/
theorem Attempted.keeps {attempt : PollAttempt ε ξ} (h : Attempted parsers middle attempt)
    (hkeeps : Keeps middle after) : Attempted parsers after attempt := by
  refine ⟨fun hresult => hkeeps.remote_subset (h.deleted hresult), ?_⟩
  intro reconciled hok hlasting
  obtain ⟨bytes, hholds, hrecord⟩ := h.loaded reconciled hok hlasting
  exact ⟨bytes, hkeeps.holds hholds, hrecord⟩

/-- One object: received first, and then loaded. -/
theorem must_pollObject_keeps (fuel : Nat) (object : RemoteObject) (before : World ε) :
    Must (World.assuming assume) (DeletesOnly [object]) (pollObject parsers fuel object)
      (fun result after => Keeps before after ∧ Attempted parsers after ⟨object, result⟩)
      before := by
  unfold pollObject
  refine must_bind.2 ((must_receive_keeps fuel object before).mono ?_)
  intro result after h
  cases result with
  | error error =>
      exact ⟨h.keeps, fun hresult => absurd rfl (hresult error), fun _ hok => by cases hok⟩
  | ok outcome =>
      obtain ⟨hpath, hdeleted, hholds⟩ := h.received outcome rfl
      refine must_bind.2 ((reads_load (permitsAt_deletesOnly [object] _) fuel _).mono ?_)
      intro loaded final hfinal
      obtain ⟨rfl, hloaded⟩ := hfinal
      refine ⟨h.keeps, fun _ => hdeleted, fun reconciled hok hlasting => ?_⟩
      cases loaded with
      | error error => cases hok
      | ok record =>
          cases hok
          obtain ⟨bytes, hbytes⟩ := hholds hlasting
          obtain ⟨found, hfound, hrecord⟩ := hloaded record rfl
          rw [hpath] at hfound hrecord
          cases hfound.symm.trans hbytes.2
          exact ⟨bytes, hbytes, hrecord⟩

/-- What a whole poll has done, and kept. -/
structure PollKeeps (parsers : ResultParsers ξ) (before : World ε) (objects : List RemoteObject)
    (attempts : List (PollAttempt ε ξ)) (after : World ε) : Prop where
  keeps : Keeps before after
  objects : attempts.map PollAttempt.object = objects
  attempted : ∀ attempt ∈ attempts, Attempted parsers after attempt

/-- All objects, with the attempts before them. -/
theorem must_pollObjects_keeps (fuel : Nat) (objects : List RemoteObject)
    (attempts : List (PollAttempt ε ξ)) (before : World ε) :
    Must (World.assuming assume) (DeletesOnly objects) (pollObjects parsers fuel objects attempts)
      (fun result after => ∃ new, result = attempts ++ new ∧
        PollKeeps parsers before objects new after) before := by
  induction objects generalizing attempts before with
  | nil =>
      exact ⟨[], (List.append_nil _).symm, .of_unchanged rfl rfl, rfl,
        fun _ hmem => absurd hmem List.not_mem_nil⟩
  | cons object objects ih =>
      have hpermits : ∀ {listed : List RemoteObject}, listed ⊆ object :: objects →
          ∀ op (world : World ε), DeletesOnly listed op world →
            DeletesOnly (object :: objects) op world := by
        intro listed hsubset op world h deleted hop
        exact ⟨hsubset (h deleted hop).1, (h deleted hop).2⟩
      unfold pollObjects
      refine must_bind.2 (((must_pollObject_keeps fuel object before).permits_mono
        (hpermits (by simp))).mono ?_)
      intro result middle hmiddle
      obtain ⟨hkeeps, hattempted⟩ := hmiddle
      refine ((ih (attempts ++ [⟨object, result⟩]) middle).permits_mono
        (hpermits (List.subset_cons_self _ _))).mono ?_
      intro value after hafter
      obtain ⟨new, rfl, hnew⟩ := hafter
      refine ⟨⟨object, result⟩ :: new, by simp, hkeeps.trans hnew.keeps, ?_, ?_⟩
      · rw [List.map_cons, hnew.objects]
      · intro attempt hmem
        rcases List.mem_cons.1 hmem with rfl | hmem
        · exact hattempted.keeps hnew.keeps
        · exact hnew.attempted attempt hmem

/-- A poll keeps the inbox and attempts every object. -/
theorem must_pollOnce_keeps (fuel : Nat) (objects : List RemoteObject) (before : World ε) :
    Must (World.assuming assume) (DeletesOnly objects) (pollOnce parsers fuel (.ok objects)).run
      (fun result after => ∃ attempts, result = .ok attempts ∧
        PollKeeps parsers before objects attempts after) before := by
  refine must_run_lift.2 ((must_pollObjects_keeps fuel objects [] before).mono ?_)
  intro result after hafter
  obtain ⟨attempts, hresult, hkeeps⟩ := hafter
  exact ⟨attempts, congrArg Except.ok hresult, hkeeps⟩

end TwEinvoice.Delivery
