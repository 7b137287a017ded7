import TwEinvoice.Sftp.Authentication

/-!
# What uploads and downloads transfer

A server that stores what it is sent and serves what it stores, in pieces of any size. Whatever
else is replied, an upload that succeeds has stored exactly the given bytes under the one path,
and a download that succeeds has written exactly the remote file, however the transfers are cut
into pieces and however often they are interrupted.
-/

namespace TwEinvoice.Sftp

open Effects Rust Transport

variable {lib : SshLibrary}

/-! ## The server -/

/-- The remote files by their paths, the one that the session has open with its position, and
what the writer of a download has taken. -/
structure RemoteFiles where
  file : String → Option (List UInt8)
  opened : String
  position : Nat
  received : List UInt8

namespace RemoteFiles

variable (files : RemoteFiles)

/-- A new empty file in place of any other. -/
def created (path : String) : RemoteFiles :=
  { files with file := Function.update files.file path (some []), opened := path, position := 0 }

def openedAt (path : String) : RemoteFiles :=
  { files with opened := path, position := 0 }

/-- The bytes of the file that is open. -/
def content : List UInt8 := (files.file files.opened).getD []

def appended (bytes : List UInt8) : RemoteFiles :=
  { files with file := Function.update files.file files.opened (some (files.content ++ bytes)) }

def removed (path : String) : RemoteFiles :=
  { files with file := Function.update files.file path none }

def advanced (count : Nat) : RemoteFiles :=
  { files with position := files.position + count }

def taken (bytes : List UInt8) : RemoteFiles :=
  { files with received := files.received ++ bytes }

end RemoteFiles

/-- How the server answers. A call that fails to create or to remove a file may have done so, and
one that fails to write has written nothing. A read returns some bytes unless the file ends. -/
def SshAnswers : Environment (sshSignature lib) RemoteFiles :=
  fun op files reply next =>
    match op, reply with
    | .create path, reply => next = files.created path ∨ reply ≠ .ok () ∧ next = files
    | .openPath path, reply =>
        files.file path ≠ none ∧ next = files.openedAt path ∨ reply ≠ .ok () ∧ next = files
    | .unlink path, reply => next = files.removed path ∨ reply ≠ .ok () ∧ next = files
    | .write bytes, .ok count => next = files.appended (bytes.take count)
    | .read bufferLength, .ok chunk =>
        chunk.val <+: files.content.drop files.position ∧
          (0 < bufferLength → chunk.val = [] → files.content.length ≤ files.position) ∧
          next = files.advanced chunk.val.length
    | .writeLocal bytes, .ok count => next = files.taken (bytes.take count)
    | _, _ => next = files

/-- Calls that are not about files leave them alone. -/
theorem SshAnswers.keeps {op : SshOp lib} {files next : RemoteFiles}
    {reply : (sshSignature lib).Reply op} (hop : ¬ IsFileCall op)
    (h : SshAnswers op files reply next) : next = files := by
  cases op <;> first | exact h | exact absurd trivial hop

/-! ## A server that takes everything at once -/

/-- The files after a call that has been done. -/
def RemoteFiles.done (files : RemoteFiles) : SshOp lib → RemoteFiles
  | .create path => files.created path
  | .openPath path => files.openedAt path
  | .unlink path => files.removed path
  | .write bytes => files.appended bytes
  | .read bufferLength =>
      files.advanced ((files.content.drop files.position).take bufferLength).length
  | .writeLocal bytes => files.taken bytes
  | _ => files

/-- A known host that serves its files. -/
def sampleServer : Handler (sshSignature sampleLibrary) RemoteFiles where
  Choice _ := Unit
  respond
    | .read bufferLength, _, files =>
        (.ok ⟨(files.content.drop files.position).take bufferLength, List.length_take_le _ _⟩,
          files.done (.read bufferLength : SshOp sampleLibrary))
    | .openPath path, _, files =>
        if files.file path = none then (.error (), files)
        else (.ok (), files.done (.openPath path : SshOp sampleLibrary))
    | op, _, files => (sampleReply op, files.done op)

/-- The sample answers like a server. -/
theorem sampleServer_answers (op : SshOp sampleLibrary) (files : RemoteFiles) :
    SshAnswers op files (sampleServer.respond op () files).1
      (sampleServer.respond op () files).2 := by
  cases op with
  | create path => exact .inl rfl
  | unlink path => exact .inl rfl
  | openPath path =>
      unfold sampleServer
      dsimp only
      split_ifs with hmissing
      · exact .inr ⟨nofun, rfl⟩
      · exact .inl ⟨hmissing, rfl⟩
  | write bytes =>
      show files.appended bytes = files.appended (bytes.take bytes.length)
      rw [List.take_length]
  | writeLocal bytes =>
      show files.taken bytes = files.taken (bytes.take bytes.length)
      rw [List.take_length]
  | read bufferLength =>
      refine ⟨List.take_prefix _ _, fun hbuffer hempty => ?_, rfl⟩
      rcases List.take_eq_nil_iff.1 hempty with hzero | hended
      · omega
      · exact List.drop_eq_nil_iff.1 hended
  | _ => rfl

/-- The files of the samples. -/
def sampleFiles : RemoteFiles :=
  ⟨Function.update (fun _ => none) "out/ProcessResult.xml" (some [60, 47, 62]), "", 0, []⟩

def sampleCredentials : SftpCredentials := ⟨"transport-id", "secret"⟩

/-- Opening a session leaves the files alone. -/
theorem must_connectSession (config : SftpConfig) (credentials : SftpCredentials)
    (files : RemoteFiles) :
    Must SshAnswers (fun _ _ => True)
      (connectSession config credentials : ConnectProgram lib _).run (fun _ after => after = files)
      files := by
  refine (only_connectSession config credentials).keeps ?_ rfl
  intro op state reply next hop hanswer hstate
  exact (SshAnswers.keeps hop hanswer).trans hstate

/-! ## Transfers that are not interrupted end -/

/-- No read or write is interrupted. -/
def Proceeds : (op : SshOp lib) → (sshSignature lib).Reply op → Prop
  | .write _, reply => reply ≠ .error .interrupted
  | .read _, reply => reply ≠ .error .interrupted
  | .writeLocal _, reply => reply ≠ .error .interrupted
  | _, _ => True

/-- The server, when it does not interrupt transfers. -/
def SteadyAnswers : Environment (sshSignature lib) RemoteFiles :=
  fun op files reply next => SshAnswers op files reply next ∧ Proceeds op reply

section Session

variable {σ : Type} {env : Environment (sshSignature lib) σ} {state : σ}

/-- There are finitely many addresses to try. -/
theorem halts_connectAddresses (config : SftpConfig) (lastError : Option IoFailure)
    (addresses : List lib.Address) :
    Halts env (connectAddresses config lastError addresses).run state := by
  induction addresses generalizing lastError state with
  | nil => trivial
  | cons address rest ih =>
      refine .run_bind (halts_run_lift.2 halts_perform) fun result _ => ?_
      cases result with
      | error error => exact ih (some error)
      | ok stream =>
          refine .run_bind (halts_run_adapt.2 halts_perform) fun _ _ => ?_
          exact .run_bind (halts_run_adapt.2 halts_perform) fun _ _ => trivial

/-- The host key is checked without a loop. -/
theorem halts_verifyHostKey (config : SftpConfig) :
    Halts env (verifyHostKey config : ConnectProgram lib _).run state := by
  refine .run_bind (halts_run_lift.2 halts_perform) fun key _ => ?_
  cases key with
  | none => trivial
  | some key =>
      refine .run_bind (halts_run_adapt.2 halts_perform) fun _ _ => ?_
      refine .run_bind (halts_run_adapt.2 halts_perform) fun _ _ => ?_
      refine .run_bind (halts_run_lift.2 halts_perform) fun result _ => ?_
      cases result <;> trivial

/-- Opening a session ends whatever is replied: each address is tried once. -/
theorem halts_connectSession (config : SftpConfig) (credentials : SftpCredentials) :
    Halts env (connectSession config credentials : ConnectProgram lib _).run state := by
  refine .run_bind (.run_bind (halts_run_adapt.2 halts_perform) fun addresses _ =>
    halts_connectAddresses config none addresses) fun stream _ => ?_
  refine .run_bind (halts_run_adapt.2 halts_perform) fun _ _ => ?_
  refine .run_bind (halts_run_lift.2 halts_perform) fun _ _ => ?_
  refine .run_bind (halts_run_lift.2 halts_perform) fun _ _ => ?_
  refine .run_bind (halts_run_adapt.2 halts_perform) fun _ _ => ?_
  refine .run_bind (halts_verifyHostKey config) fun _ _ => ?_
  refine .run_bind (halts_run_adapt.2 halts_perform) fun _ _ => ?_
  refine .run_bind (halts_run_lift.2 halts_perform) fun accepted _ => ?_
  cases accepted <;> trivial

end Session

/-! ## Uploads -/

/-- What an upload to a path leaves behind. -/
structure Uploads (path : String) (bytes : List UInt8) (before after : RemoteFiles)
    (succeeded : Prop) : Prop where
  others : ∀ other ≠ path, after.file other = before.file other
  beginning : after.file path = before.file path ∨
    ∃ sent, sent <+: bytes ∧ after.file path = some sent
  complete : succeeded → after.file path = some bytes

/-- An upload that does not succeed may change nothing. -/
theorem Uploads.unchanged (path : String) (bytes : List UInt8) (files : RemoteFiles) {failed : Prop}
    (hfailed : ¬ failed) : Uploads path bytes files files failed :=
  ⟨fun _ _ => rfl, .inl rfl, fun h => absurd h hfailed⟩

/-- The file that the upload has created, with what has been sent so far. -/
def Sending (path : String) (before : RemoteFiles) (sent : List UInt8) (files : RemoteFiles) :
    Prop :=
  files.opened = path ∧ files.file = Function.update before.file path (some sent)

/-- What has been sent is the beginning of an upload. -/
theorem Sending.uploads {path : String} {before files : RemoteFiles} {sent bytes : List UInt8}
    (h : Sending path before sent files) (hsent : sent <+: bytes) {succeeded : Prop}
    (hcomplete : succeeded → sent = bytes) : Uploads path bytes before files succeeded := by
  have hpath : files.file path = some sent := by
    rw [h.2]
    exact Function.update_self _ _ _
  refine ⟨fun other hother => ?_, .inr ⟨sent, hsent, hpath⟩, fun hsucceeded => ?_⟩
  · rw [h.2]
    exact Function.update_of_ne hother _ _
  · rw [hpath, hcomplete hsucceeded]

/-- Each write continues the file. -/
theorem writesTo_sending (path : String) (before : RemoteFiles) :
    WritesTo (@SshAnswers lib) (fun _ _ => True) (fun bytes => request (.write bytes))
      (Sending path before) := by
  intro bytes sent files hsending
  refine must_perform.2 ⟨trivial, fun reply next hnext => ?_⟩
  cases reply with
  | error error =>
      have hsame : next = files := hnext
      rw [hsame]
      exact hsending
  | ok count =>
      have happended : next = files.appended (bytes.take count) := hnext
      obtain ⟨hopened, hfile⟩ := hsending
      have hcontent : files.content = sent := by
        unfold RemoteFiles.content
        rw [hfile, hopened, Function.update_self]
        rfl
      rw [happended]
      refine ⟨hopened, ?_⟩
      show Function.update files.file files.opened (some (files.content ++ bytes.take count)) = _
      rw [hcontent, hopened, hfile, Function.update_idem]

/-- The part of `upload` with a session. -/
theorem must_upload_session (fuel : Nat) (path : String) (bytes : List UInt8)
    (files : RemoteFiles) :
    Must SshAnswers (fun _ _ => True) (ExceptT.run (do
        callSsh (request .sftp)
        callSsh (request (.create path))
        ExceptT.adapt .io (writeAll (fun bytes => request (.write bytes)) fuel bytes)
        callIo (request .flush)
        callSsh (request .close) : ConnectProgram lib Unit))
      (fun result after => Uploads path bytes files after (result = .ok ())) files := by
  have hunchanged : ∀ {error : SftpConnectionError lib} {after}, after = files →
      Uploads path bytes files after ((Except.error error : Except _ Unit) = .ok ()) := by
    intro error after hafter
    rw [hafter]
    exact .unchanged path bytes files nofun
  refine must_run_bind.2 (must_run_adapt.2 (must_perform.2 ⟨trivial, fun reply next hnext => ?_⟩))
  have hsame : next = files := hnext
  rcases reply with _ | _
  · exact hunchanged hsame
  subst hsame
  refine must_run_bind.2 (must_run_adapt.2 (must_perform.2 ⟨trivial, fun reply after hafter => ?_⟩))
  have hcreated : after = next.created path → Sending path next [] after := by
    intro heq
    rw [heq]
    exact ⟨rfl, rfl⟩
  rcases reply with _ | _
  · rcases hafter with hafter | ⟨_, hafter⟩
    · exact (hcreated hafter).uploads List.nil_prefix nofun
    · exact hunchanged hafter
  have hempty : Sending path next [] after := by
    rcases hafter with hafter | ⟨hfailed, _⟩
    · exact hcreated hafter
    · exact absurd rfl hfailed
  refine must_run_bind.2 (must_run_adapt.2 ((must_writeAll (writesTo_sending path next) fuel
    hempty).mono fun result written hwritten => ?_))
  rcases result with _ | _
  · obtain ⟨sent, hsent, hsending⟩ := hwritten
    exact hsending.uploads hsent nofun
  have hsent : Sending path next bytes written := hwritten
  -- Neither flushing nor closing changes the file, but either may fail.
  refine must_run_bind.2 (must_run_adapt.2 (must_perform.2
    ⟨trivial, fun reply flushed hflushed => ?_⟩))
  have hflushed' : flushed = written := by cases reply <;> exact hflushed
  subst hflushed'
  rcases reply with _ | _
  · exact hsent.uploads (List.prefix_refl _) nofun
  refine must_run_adapt.2 (must_perform.2 ⟨trivial, fun reply closed hclosed => ?_⟩)
  have hclosed' : closed = flushed := by cases reply <;> exact hclosed
  subst hclosed'
  exact hsent.uploads (List.prefix_refl _) fun _ => rfl

/-- In every behaviour of an upload only the one path may change. -/
theorem must_upload (fuel : Nat) (config : SftpConfig) (credentials : SftpCredentials)
    (name : String) (bytes : List UInt8) (before : RemoteFiles) :
    Must SshAnswers (fun _ _ => True)
      (upload fuel config credentials name bytes : ExceptT (SftpUploadError lib) _ Unit).run
      (fun result after => Uploads (joinPath config.uploadDirectory name) bytes before after
        (result = .ok ())) before := by
  unfold upload
  cases safeRemoteBasename name with
  | false => exact .unchanged _ bytes before nofun
  | true =>
      refine must_run_adapt.2 (must_run_bind.2 ((must_connectSession config credentials
        before).mono fun result files hfiles => ?_))
      subst hfiles
      cases result with
      | error error => exact .unchanged _ bytes files nofun
      | ok _ =>
          refine (must_upload_session fuel _ bytes files).mono fun result after hafter => ?_
          refine ⟨hafter.others, hafter.beginning, fun hok => hafter.complete ?_⟩
          cases result with
          | error error => cases hok
          | ok value => rfl

/-- In every run of an upload only the one path may change, to some beginning of the bytes, and to
all of them if it succeeds. -/
theorem upload_exact {fuel : Nat} {config : SftpConfig} {credentials : SftpCredentials}
    {name : String} {bytes : List UInt8} {before after : RemoteFiles}
    {result : Except (SftpUploadError lib) Unit}
    (h : Runs SshAnswers (upload fuel config credentials name bytes).run before result after) :
    Uploads (joinPath config.uploadDirectory name) bytes before after (result = .ok ()) :=
  (must_upload fuel config credentials name bytes before).runs h

/-- An upload of two bytes. -/
def sampleUpload :
    Program (sshSignature sampleLibrary) (Except (SftpUploadError sampleLibrary) Unit) ×
      RemoteFiles :=
  sampleServer.runUntil (fun _ _ => ()) (fun _ => false)
    (upload 3 sampleConfig sampleCredentials "Invoice.zip" [80, 75]).run sampleFiles

theorem sample_upload_exact :
    sampleUpload.2.file "in/Invoice.zip" = some [80, 75] := by
  have hreturns : sampleServer.Returns (fun _ _ => ())
      (upload 3 sampleConfig sampleCredentials "Invoice.zip" [80, 75]).run sampleFiles (.ok ())
      sampleUpload.2 := Prod.ext (by rfl) rfl
  exact (upload_exact (hreturns.runs_of sampleServer_answers)).complete rfl

/-- An upload whose writes are not interrupted ends: every write takes some of the bytes, or is
the last one. -/
theorem halts_upload {fuel : Nat} {config : SftpConfig} {credentials : SftpCredentials}
    {name : String} {bytes : List UInt8} (hfuel : bytes.length < fuel) (files : RemoteFiles) :
    Halts SteadyAnswers
      (upload fuel config credentials name bytes : ExceptT (SftpUploadError lib) _ Unit).run
      files := by
  have hwrite : ∀ bytes files, Uninterrupted SteadyAnswers
      (request (.write bytes) : Program (sshSignature lib) _) files fun _ => True :=
    fun _ _ => ⟨halts_perform, must_perform.2 ⟨trivial, fun _ _ h => ⟨h.2, trivial⟩⟩⟩
  unfold upload
  cases safeRemoteBasename name with
  | false => trivial
  | true =>
      refine halts_run_adapt.2 (.run_bind (halts_connectSession config credentials) fun _ _ => ?_)
      refine .run_bind (halts_run_adapt.2 halts_perform) fun _ _ => ?_
      refine .run_bind (halts_run_adapt.2 halts_perform) fun _ _ => ?_
      refine .run_bind (halts_run_adapt.2 (halts_writeAll hwrite hfuel)) fun _ _ => ?_
      refine .run_bind (halts_run_adapt.2 halts_perform) fun _ _ => ?_
      exact halts_run_adapt.2 halts_perform

/-! ## Downloads -/

/-- What a download from a path leaves behind. -/
structure Downloads (path : String) (before after : RemoteFiles) (succeeded : Prop) : Prop where
  unchanged : after.file = before.file
  taken : ∃ got, after.received = before.received ++ got ∧
    got <+: (before.file path).getD [] ∧ (succeeded → before.file path = some got)

/-- A download that does not succeed may receive nothing. -/
theorem Downloads.nothing (path : String) {before after : RemoteFiles} {failed : Prop}
    (hfile : after.file = before.file) (hreceived : after.received = before.received)
    (hfailed : ¬ failed) : Downloads path before after failed :=
  ⟨hfile, [], by rw [hreceived, List.append_nil], List.nil_prefix, fun h => absurd h hfailed⟩

/-- The file that the download has opened, with what has been read and written so far. -/
structure Receiving (path : String) (content : List UInt8) (before : RemoteFiles)
    (received sent : List UInt8) (files : RemoteFiles) : Prop where
  unchanged : files.file = before.file
  served : files.content = content
  position : files.position = received.length
  beginning : received <+: content
  taken : files.received = before.received ++ sent

section Receiving

variable {path : String} {content : List UInt8} {before : RemoteFiles}

/-- Each read goes on where the last one has stopped. -/
theorem readsFrom_receiving :
    ReadsFrom (@SshAnswers lib) (fun _ _ => True) (request (.read copyBufferLength))
      (Receiving path content before) (fun received _ => received = content) := by
  intro received sent files hreceiving
  refine must_perform.2 ⟨trivial, fun reply next hnext => ?_⟩
  cases reply with
  | error error =>
      have hsame : next = files := hnext
      rw [hsame]
      exact hreceiving
  | ok chunk =>
      obtain ⟨hbeginning, hend, hadvanced⟩ := hnext
      rw [hreceiving.served, hreceiving.position] at hbeginning hend
      subst hadvanced
      obtain ⟨rest, hrest⟩ := hreceiving.beginning
      rw [← hrest, List.drop_left] at hbeginning
      refine ⟨⟨hreceiving.unchanged, hreceiving.served, ?_, ?_, hreceiving.taken⟩, ?_⟩
      · show files.position + chunk.val.length = _
        rw [hreceiving.position, List.length_append]
      · rw [← hrest]
        exact (List.prefix_append_right_inj received).2 hbeginning
      · intro hempty
        exact hreceiving.beginning.eq_of_length_le (hend (by decide) hempty)

/-- Each write continues what has been taken. -/
theorem writesTo_receiving (received : List UInt8) :
    WritesTo (@SshAnswers lib) (fun _ _ => True) (fun bytes => request (.writeLocal bytes))
      (Receiving path content before received) := by
  intro bytes sent files hreceiving
  refine must_perform.2 ⟨trivial, fun reply next hnext => ?_⟩
  cases reply with
  | error error =>
      have hsame : next = files := hnext
      rw [hsame]
      exact hreceiving
  | ok count =>
      have htaken : next = files.taken (bytes.take count) := hnext
      rw [htaken]
      refine ⟨hreceiving.unchanged, hreceiving.served, hreceiving.position,
        hreceiving.beginning, ?_⟩
      show files.received ++ bytes.take count = _
      rw [hreceiving.taken, List.append_assoc]

/-- What has been received is the beginning of a download. -/
theorem Receiving.downloads {received sent : List UInt8} {files : RemoteFiles}
    (h : Receiving path content before received sent files) (hsent : sent <+: received)
    (hcontent : before.file path = some content) {succeeded : Prop}
    (hcomplete : succeeded → sent = content) : Downloads path before files succeeded := by
  refine ⟨h.unchanged, sent, h.taken, ?_, fun hsucceeded => ?_⟩
  · rw [hcontent]
    exact hsent.trans h.beginning
  · rw [hcomplete hsucceeded, hcontent]

end Receiving

/-- The part of `download` with a session. -/
theorem must_download_session (fuel : Nat) (path : String) (files : RemoteFiles) :
    Must SshAnswers (fun _ _ => True) (ExceptT.run (do
        callSsh (request .sftp)
        callSsh (request (.openPath path))
        ExceptT.adapt .io
          (copy (request (.read copyBufferLength)) (fun bytes => request (.writeLocal bytes)) fuel)
        callSsh (request .close) : ConnectProgram lib Unit))
      (fun result after => Downloads path files after (result = .ok ())) files := by
  refine must_run_bind.2 (must_run_adapt.2 (must_perform.2 ⟨trivial, fun reply next hnext => ?_⟩))
  have hsame : next = files := hnext
  rcases reply with _ | _
  · subst hsame
    exact .nothing path rfl rfl nofun
  subst hsame
  refine must_run_bind.2 (must_run_adapt.2 (must_perform.2 ⟨trivial, fun reply opened ho => ?_⟩))
  rcases reply with _ | _
  · rcases ho with ⟨_, hopened⟩ | ⟨_, hopened⟩ <;> subst hopened <;>
      exact .nothing path rfl rfl nofun
  have hopened : next.file path ≠ none ∧ opened = next.openedAt path := by
    rcases ho with hopened | ⟨hfailed, _⟩
    · exact hopened
    · exact absurd rfl hfailed
  obtain ⟨hexists, rfl⟩ := hopened
  obtain ⟨content, hcontent⟩ := Option.ne_none_iff_exists'.1 hexists
  have hstart : Receiving path content next [] [] (next.openedAt path) := by
    refine ⟨rfl, ?_, rfl, List.nil_prefix, (List.append_nil _).symm⟩
    show (next.file path).getD [] = content
    rw [hcontent]
    rfl
  refine must_run_bind.2 (must_run_adapt.2 ((must_copy readsFrom_receiving writesTo_receiving fuel
    hstart).mono fun result copied hcopied => ?_))
  cases result with
  | error error =>
      obtain ⟨received, sent, hbeginning, hreceiving⟩ := hcopied
      exact hreceiving.downloads hbeginning hcontent nofun
  | ok value =>
      obtain ⟨received, hreceiving, hended⟩ := hcopied
      refine must_run_adapt.2 (must_perform.2 ⟨trivial, fun reply closed hclosed => ?_⟩)
      have hclosed' : closed = copied := by cases reply <;> exact hclosed
      subst hclosed'
      exact hreceiving.downloads (List.prefix_refl _) hcontent fun _ => hended

/-- In every behaviour of a download the remote files stay as they are. -/
theorem must_download (fuel : Nat) (config : SftpConfig) (credentials : SftpCredentials)
    (object : RemoteObject) (before : RemoteFiles) :
    Must SshAnswers (fun _ _ => True)
      (download fuel config credentials object : ExceptT (SftpInboxError lib) _ Unit).run
      (fun result after => Downloads (joinPath config.receiveDirectory object.name) before after
        (result = .ok ())) before := by
  unfold download
  cases safeRemoteBasename object.name with
  | false => exact .nothing _ rfl rfl nofun
  | true =>
      refine must_run_adapt.2 (must_run_bind.2 ((must_connectSession config credentials
        before).mono fun result files hfiles => ?_))
      subst hfiles
      cases result with
      | error error => exact .nothing _ rfl rfl nofun
      | ok _ =>
          refine (must_download_session fuel _ files).mono fun result after hafter => ?_
          obtain ⟨got, hgot, hbeginning, hcomplete⟩ := hafter.taken
          refine ⟨hafter.unchanged, got, hgot, hbeginning, fun hok => hcomplete ?_⟩
          cases result with
          | error error => cases hok
          | ok value => rfl

/-- In every run of a download the remote files stay as they are, the writer has been given some
beginning of the one file, and all of it if the download succeeds. -/
theorem download_exact {fuel : Nat} {config : SftpConfig} {credentials : SftpCredentials}
    {object : RemoteObject} {before after : RemoteFiles}
    {result : Except (SftpInboxError lib) Unit}
    (h : Runs SshAnswers (download fuel config credentials object).run before result after) :
    Downloads (joinPath config.receiveDirectory object.name) before after (result = .ok ()) :=
  (must_download fuel config credentials object before).runs h

/-- A download of three bytes. -/
def sampleDownload :
    Program (sshSignature sampleLibrary) (Except (SftpInboxError sampleLibrary) Unit) ×
      RemoteFiles :=
  sampleServer.runUntil (fun _ _ => ()) (fun _ => false)
    (download 3 sampleConfig sampleCredentials ⟨"ProcessResult.xml", 3⟩).run sampleFiles

theorem sample_download_exact :
    sampleDownload.2.received = [60, 47, 62] := by
  have hreturns : sampleServer.Returns (fun _ _ => ())
      (download 3 sampleConfig sampleCredentials ⟨"ProcessResult.xml", 3⟩).run sampleFiles (.ok ())
      sampleDownload.2 := Prod.ext (by rfl) rfl
  obtain ⟨got, hgot, _, hcomplete⟩ := (download_exact (hreturns.runs_of sampleServer_answers)).taken
  have hcontent : some [60, 47, 62] = some got := hcomplete rfl
  rw [hgot, ← Option.some.inj hcontent]
  rfl

/-- What the open file still has to give. -/
def RemoteFiles.remaining (files : RemoteFiles) : Nat :=
  files.content.length - files.position

/-- A read of a steady server is not interrupted, and uses up what it returns. -/
theorem must_read_remaining (files : RemoteFiles) :
    Must SteadyAnswers (fun _ _ => True)
      (request (.read copyBufferLength) : Program (sshSignature lib) _) (fun reply after =>
        reply ≠ .error .interrupted ∧ ∀ chunk, reply = .ok chunk →
          after.remaining + chunk.val.length ≤ files.remaining) files := by
  refine must_perform.2 ⟨trivial, fun reply after h => ⟨h.2, fun chunk hchunk => ?_⟩⟩
  subst hchunk
  obtain ⟨⟨hbeginning, _, rfl⟩, _⟩ := h
  have hlength := hbeginning.length_le
  rw [List.length_drop] at hlength
  show files.content.length - (files.position + chunk.val.length) + _ ≤ files.content.length - _
  omega

/-- Writing to the local file reads nothing. -/
theorem uninterrupted_writeLocal (bytes : List UInt8) (files : RemoteFiles) :
    Uninterrupted SteadyAnswers (request (.writeLocal bytes) : Program (sshSignature lib) _) files
      fun after => after.remaining = files.remaining := by
  refine ⟨halts_perform, must_perform.2 ⟨trivial, fun reply after h => ⟨h.2, ?_⟩⟩⟩
  obtain ⟨hanswer, _⟩ := h
  cases reply with
  | error error =>
      have hsame : after = files := hanswer
      rw [hsame]
  | ok count =>
      have htaken : after = files.taken (bytes.take count) := hanswer
      rw [htaken]
      rfl

/-- A download that is not interrupted ends: every read moves on in the file, or is the last one. -/
theorem halts_download {fuel : Nat} {config : SftpConfig} {credentials : SftpCredentials}
    {object : RemoteObject} {before : RemoteFiles}
    (hfuel : ((before.file (joinPath config.receiveDirectory object.name)).getD []).length + 1 <
      fuel) :
    Halts SteadyAnswers
      (download fuel config credentials object : ExceptT (SftpInboxError lib) _ Unit).run
      before := by
  unfold download
  cases safeRemoteBasename object.name with
  | false => trivial
  | true =>
      have hsession : Must SteadyAnswers (fun _ _ => True)
          (connectSession config credentials : ConnectProgram lib _).run
          (fun _ after => after = before) before :=
        (only_connectSession config credentials).keeps
          (fun _ _ _ _ hop h hstate => (SshAnswers.keeps hop h.1).trans hstate) rfl
      refine halts_run_adapt.2 (halts_run_bind.2 ⟨halts_connectSession config credentials,
        hsession.mono fun result files hfiles => ?_⟩)
      subst hfiles
      cases result with
      | error error => trivial
      | ok value =>
          refine halts_run_bind.2 ⟨halts_run_adapt.2 halts_perform, must_run_adapt.2
            (must_perform.2 ⟨trivial, fun reply next h => ?_⟩)⟩
          have hsame : next = files := h.1
          subst hsame
          rcases reply with _ | _
          · trivial
          refine halts_run_bind.2 ⟨halts_run_adapt.2 halts_perform, must_run_adapt.2
            (must_perform.2 ⟨trivial, fun reply opened h => ?_⟩)⟩
          rcases reply with _ | _
          · trivial
          have hopened : opened =
              next.openedAt (joinPath config.receiveDirectory object.name) := by
            rcases h.1 with ⟨_, hopened⟩ | ⟨hfailed, _⟩
            · exact hopened
            · exact absurd rfl hfailed
          subst hopened
          refine .run_bind (halts_run_adapt.2 (halts_copy RemoteFiles.remaining
            (fun files => ⟨halts_perform, must_read_remaining files⟩)
            uninterrupted_writeLocal hfuel)) fun _ _ => ?_
          exact halts_run_adapt.2 halts_perform

end TwEinvoice.Sftp
