import TwEinvoice.Sftp.Client

/-!
# Nothing is sent to an unknown host

In every run of every operation, whatever the network and the library reply: the password is sent
once the host key of this very session has matched the known hosts for the configured host and
port, and files are touched once the password has been accepted. An operation with an unsafe name
makes no call at all, and no path leads out of the configured directory.
-/

namespace TwEinvoice.Sftp

open Effects Rust Transport

variable {lib : SshLibrary}

/-! ## What has happened in a session -/

/-- Calls before the handshake: resolving the host, connecting and setting up the session. -/
def IsConnecting : SshEvent lib → Prop
  | ⟨.toSocketAddrs .., _⟩ | ⟨.connectTimeout .., _⟩ | ⟨.setReadTimeout .., _⟩
  | ⟨.setWriteTimeout .., _⟩ | ⟨.newSession, _⟩ | ⟨.setTimeout _, _⟩ | ⟨.setTcpStream _, _⟩ => True
  | _ => False

/-- Calls about files. -/
def IsFileCall : SshOp lib → Prop
  | .sftp | .create _ | .openPath _ | .readdir _ | .unlink _ | .write _ | .flush | .close | .read _
  | .writeLocal _ => True
  | _ => False

/-- The calls so far only connect to the configured host. -/
def Connecting (trace : List (SshEvent lib)) : Prop :=
  ∀ event ∈ trace, IsConnecting event

/-- The last calls are a handshake, and the host key that it brought is the known one. -/
def Verified (config : SftpConfig) (trace : List (SshEvent lib)) : Prop :=
  ∃ before key, Connecting before ∧
    trace = before ++ [⟨.handshake, .ok ()⟩, ⟨.hostKey, some key⟩, ⟨.knownHosts, .ok ()⟩,
      ⟨.readFile config.knownHostsPath, .ok ()⟩,
      ⟨.checkPort config.host config.port key, .match⟩]

/-- The password was accepted by a verified host, and since then there were only calls about
files. -/
def LoggedIn (config : SftpConfig) (credentials : SftpCredentials)
    (trace : List (SshEvent lib)) : Prop :=
  ∃ verified files, Verified config verified ∧ (∀ event ∈ files, IsFileCall event.1) ∧
    trace = verified ++ ⟨.userauthPassword credentials.username credentials.password, .ok ()⟩ ::
      ⟨.authenticated, true⟩ :: files

/-- What the client may call after which calls, when it may only name certain paths. -/
def Guarded (config : SftpConfig) (credentials : SftpCredentials) (paths : SshOp lib → Prop)
    (op : SshOp lib) (trace : List (SshEvent lib)) : Prop :=
  match op with
  | .toSocketAddrs host port => host = config.host ∧ port = config.port ∧ trace = []
  | .userauthPassword username password =>
      username = credentials.username ∧ password = credentials.password ∧ Verified config trace
  | .create _ | .openPath _ | .readdir _ | .unlink _ =>
      paths op ∧ LoggedIn config credentials trace
  | .sftp | .write _ | .flush | .close | .read _ | .writeLocal _ =>
      LoggedIn config credentials trace
  | _ => True

/-- Calls about files keep the login. -/
theorem LoggedIn.append {config : SftpConfig} {credentials : SftpCredentials}
    {trace : List (SshEvent lib)} {event : SshEvent lib} (h : LoggedIn config credentials trace)
    (hevent : IsFileCall event.1) : LoggedIn config credentials (trace ++ [event]) := by
  obtain ⟨verified, files, hverified, hfiles, rfl⟩ := h
  refine ⟨verified, files ++ [event], hverified, fun other hother => ?_, ?_⟩
  · rcases List.mem_append.1 hother with hother | hother
    · exact hfiles other hother
    · rw [List.mem_singleton.1 hother]
      exact hevent
  · rw [List.append_assoc]
    rfl

theorem Connecting.append {trace : List (SshEvent lib)} {event : SshEvent lib}
    (h : Connecting trace) (hevent : IsConnecting event) : Connecting (trace ++ [event]) := by
  intro other hother
  rcases List.mem_append.1 hother with hother | hother
  · exact h other hother
  · rw [List.mem_singleton.1 hother]
    exact hevent

/-! ## Opening a session -/

section Session

variable {config : SftpConfig} {credentials : SftpCredentials} {paths : SshOp lib → Prop}
variable {trace : List (SshEvent lib)}

/-- In every run the guard is kept, and a result leaves this behind. -/
abbrev Guards {δ α : Type} (config : SftpConfig) (credentials : SftpCredentials)
    (paths : SshOp lib → Prop) (program : ExceptT δ (Program (sshSignature lib)) α)
    (post : List (SshEvent lib) → Prop) (trace : List (SshEvent lib)) : Prop :=
  Must (recording _) (Guarded config credentials paths) program.run
    (onResult (fun _ => post) fun _ _ => True) trace

/-- Guarded programs one after the other. -/
theorem Guards.bind {δ α β : Type} {program : ExceptT δ (Program (sshSignature lib)) α}
    {next : α → ExceptT δ (Program (sshSignature lib)) β} {middle post : List (SshEvent lib) → Prop}
    (h : Guards config credentials paths program middle trace)
    (hnext : ∀ value trace, middle trace →
      Guards config credentials paths (next value) post trace) :
    Guards config credentials paths (program >>= next) post trace := by
  refine must_run_bind.2 (Must.mono h fun result after hresult => ?_)
  cases result with
  | error error => trivial
  | ok value => exact hnext value after hresult

theorem Guards.adapt {δ δ' α : Type} {program : ExceptT δ (Program (sshSignature lib)) α}
    {convert : δ → δ'} {post : List (SshEvent lib) → Prop}
    (h : Guards config credentials paths program post trace) :
    Guards config credentials paths (ExceptT.adapt convert program) post trace := by
  refine must_run_adapt.2 (Must.mono h fun result after hresult => ?_)
  cases result with
  | error error => trivial
  | ok value => exact hresult

/-- Trying the addresses is connecting, and no more. -/
theorem guards_connectAddresses {lastError : Option IoFailure} {addresses : List lib.Address}
    (h : Connecting trace) :
    Guards config credentials paths (connectAddresses config lastError addresses) Connecting
      trace := by
  induction addresses generalizing lastError trace with
  | nil => trivial
  | cons address rest ih =>
      refine must_run_bind.2 (must_run_lift.2 (must_perform_recording.2 ⟨trivial, fun reply => ?_⟩))
      have hnext : Connecting (trace ++ [⟨.connectTimeout address config.timeout, reply⟩]) :=
        h.append trivial
      cases reply with
      | error error => exact ih hnext
      | ok stream =>
          refine must_run_bind.2 (must_run_adapt.2 (must_perform_recording.2
            ⟨trivial, fun reply => ?_⟩))
          rcases reply with _ | _
          · trivial
          refine must_run_bind.2 (must_run_adapt.2 (must_perform_recording.2
            ⟨trivial, fun reply => ?_⟩))
          rcases reply with _ | _
          · trivial
          · refine Connecting.append (Connecting.append hnext ?_) ?_ <;> trivial

/-- A connection is made before anything is sent over it. -/
theorem guards_connectTcp :
    Guards config credentials paths (connectTcp config : ConnectProgram lib lib.Stream) Connecting
      [] := by
  refine must_run_bind.2 (must_run_adapt.2 (must_perform_recording.2
    ⟨⟨rfl, rfl, rfl⟩, fun reply => ?_⟩))
  rcases reply with _ | addresses
  · trivial
  · exact guards_connectAddresses (Connecting.append (fun _ hevent => by cases hevent) trivial)

/-- Only a host key that matches leads on. -/
theorem guards_verifyHostKey (h : Connecting trace) :
    Guards config credentials paths (verifyHostKey config : ConnectProgram lib Unit)
      (Verified config) (trace ++ [⟨.handshake, .ok ()⟩]) := by
  refine must_run_bind.2 (must_run_lift.2 (must_perform_recording.2 ⟨trivial, fun reply => ?_⟩))
  cases reply with
  | none => trivial
  | some key =>
      refine must_run_bind.2 (must_run_adapt.2 (must_perform_recording.2
        ⟨trivial, fun reply => ?_⟩))
      rcases reply with _ | _
      · trivial
      refine must_run_bind.2 (must_run_adapt.2 (must_perform_recording.2
        ⟨trivial, fun reply => ?_⟩))
      rcases reply with _ | _
      · trivial
      refine must_run_bind.2 (must_run_lift.2 (must_perform_recording.2 ⟨trivial, fun reply => ?_⟩))
      cases reply with
      | «match» =>
          refine ⟨trace, key, h, ?_⟩
          simp only [List.append_assoc, List.cons_append, List.nil_append]
      | mismatch => trivial
      | notFound => trivial
      | failure => trivial

/-- A session is only returned after the password of the credentials has been accepted. -/
theorem guards_connectSession :
    Guards config credentials paths
      (connectSession config credentials : ConnectProgram lib Unit)
      (LoggedIn config credentials) [] := by
  refine guards_connectTcp.bind fun stream trace hconnecting => ?_
  refine must_run_bind.2 (must_run_adapt.2 (must_perform_recording.2 ⟨trivial, fun reply => ?_⟩))
  rcases reply with _ | _
  · trivial
  refine must_run_bind.2 (must_run_lift.2 (must_perform_recording.2 ⟨trivial, fun _ => ?_⟩))
  refine must_run_bind.2 (must_run_lift.2 (must_perform_recording.2 ⟨trivial, fun _ => ?_⟩))
  refine must_run_bind.2 (must_run_adapt.2 (must_perform_recording.2 ⟨trivial, fun reply => ?_⟩))
  rcases reply with _ | _
  · trivial
  have hready : Connecting (trace ++ [⟨.newSession, .ok ()⟩] ++
      [⟨.setTimeout config.timeoutMs, ()⟩] ++ [⟨.setTcpStream stream, ()⟩]) := by
    refine Connecting.append (Connecting.append (Connecting.append hconnecting ?_) ?_) ?_ <;>
      trivial
  refine Guards.bind (guards_verifyHostKey hready) fun _ trace hverified => ?_
  refine must_run_bind.2 (must_run_adapt.2 (must_perform_recording.2
    ⟨⟨rfl, rfl, hverified⟩, fun reply => ?_⟩))
  rcases reply with _ | _
  · trivial
  refine must_run_bind.2 (must_run_lift.2 (must_perform_recording.2 ⟨trivial, fun accepted => ?_⟩))
  cases accepted with
  | false => trivial
  | true =>
      refine ⟨trace, [], hverified, List.forall_mem_nil _, ?_⟩
      rw [List.append_assoc]
      rfl

/-! ## Calls about files -/

/-- The session stays logged in while it only makes calls about files. -/
abbrev StaysLoggedIn {δ α : Type} (config : SftpConfig) (credentials : SftpCredentials)
    (paths : SshOp lib → Prop) (program : ExceptT δ (Program (sshSignature lib)) α) : Prop :=
  ∀ trace, LoggedIn config credentials trace →
    Must (recording _) (Guarded config credentials paths) program.run
      (fun _ => LoggedIn config credentials) trace

/-- A login lasts over a sequence. -/
theorem StaysLoggedIn.bind {δ α β : Type} {program : ExceptT δ (Program (sshSignature lib)) α}
    {next : α → ExceptT δ (Program (sshSignature lib)) β}
    (h : StaysLoggedIn config credentials paths program)
    (hnext : ∀ value, StaysLoggedIn config credentials paths (next value)) :
    StaysLoggedIn config credentials paths (program >>= next) := by
  intro trace htrace
  refine must_run_bind.2 ((h trace htrace).mono fun result after hafter => ?_)
  cases result with
  | error error => exact hafter
  | ok value => exact hnext value after hafter

theorem StaysLoggedIn.adapt {δ δ' α : Type} {program : ExceptT δ (Program (sshSignature lib)) α}
    {convert : δ → δ'} (h : StaysLoggedIn config credentials paths program) :
    StaysLoggedIn config credentials paths (ExceptT.adapt convert program) :=
  fun trace htrace => must_run_adapt.2 (h trace htrace)

/-- One call about files, of a path that may be named. -/
theorem must_file_call (op : SshOp lib) (hop : IsFileCall op)
    (hpaths : match op with
      | .create _ | .openPath _ | .readdir _ | .unlink _ => paths op
      | _ => True)
    (h : LoggedIn config credentials trace) :
    Must (recording _) (Guarded config credentials paths) (request op)
      (fun _ => LoggedIn config credentials) trace := by
  refine must_perform_recording.2 ⟨?_, fun reply => h.append hop⟩
  cases op <;> first | exact hop.elim | exact ⟨hpaths, h⟩ | exact h

/-- A writer whose calls are about files. -/
theorem writesTo_loggedIn {write : Writer (sshSignature lib)}
    (hwrite : ∀ bytes trace, LoggedIn config credentials trace →
      Must (recording _) (Guarded config credentials paths) (write bytes)
        (fun _ => LoggedIn config credentials) trace) :
    WritesTo (recording _) (Guarded config credentials paths) write
      (fun _ => LoggedIn config credentials) := by
  intro bytes done trace htrace
  refine (hwrite bytes trace htrace).mono fun reply after hafter => ?_
  cases reply <;> exact hafter

/-- The part of `upload` with a session. -/
theorem staysLoggedIn_upload (fuel : Nat) (path : String) (bytes : List UInt8)
    (hpath : paths (.create path)) :
    StaysLoggedIn config credentials paths (do
      callSsh (request .sftp)
      callSsh (request (.create path))
      ExceptT.adapt .io (writeAll (fun bytes => request (.write bytes)) fuel bytes)
      callIo (request .flush)
      callSsh (request .close) : ConnectProgram lib Unit) := by
  refine .bind (.adapt fun _ h => must_file_call .sftp trivial trivial h) fun _ => ?_
  refine .bind (.adapt fun _ h => must_file_call (.create path) trivial hpath h) fun _ => ?_
  refine .bind (.adapt fun _ h => ?_) fun _ => ?_
  · have hwrite := writesTo_loggedIn fun bytes trace htrace =>
      @must_file_call lib config credentials paths trace (.write bytes) trivial trivial htrace
    refine (@must_writeAll _ _ _ _ _ _ hwrite fuel bytes [] _ h).mono ?_
    intro result after hafter
    rcases result with error | value
    · obtain ⟨_, _, hlogged⟩ := hafter
      exact hlogged
    · exact hafter
  refine .bind (.adapt fun _ h => must_file_call .flush trivial trivial h) fun _ => ?_
  exact .adapt fun _ h => must_file_call .close trivial trivial h

/-- The part of `download` with a session. -/
theorem staysLoggedIn_download (fuel : Nat) (path : String) (hpath : paths (.openPath path)) :
    StaysLoggedIn config credentials paths (do
      callSsh (request .sftp)
      callSsh (request (.openPath path))
      ExceptT.adapt .io
        (copy (request (.read copyBufferLength)) (fun bytes => request (.writeLocal bytes)) fuel)
      callSsh (request .close) : ConnectProgram lib Unit) := by
  refine .bind (.adapt fun _ h => must_file_call .sftp trivial trivial h) fun _ => ?_
  refine .bind (.adapt fun _ h => must_file_call (.openPath path) trivial hpath h) fun _ => ?_
  refine .bind (.adapt fun _ h => ?_) fun _ => ?_
  · have hread : ReadsFrom (recording _) (Guarded config credentials paths)
        (request (.read copyBufferLength)) (fun _ _ => LoggedIn config credentials)
        (fun _ _ => True) := by
      intro received sent trace htrace
      refine (must_file_call (.read copyBufferLength) trivial trivial htrace).mono ?_
      intro reply after hafter
      rcases reply with error | chunk
      · exact hafter
      · exact ⟨hafter, fun _ => trivial⟩
    have hwrite := fun _ : List UInt8 => writesTo_loggedIn fun bytes trace htrace =>
      @must_file_call lib config credentials paths trace (.writeLocal bytes) trivial trivial htrace
    refine (@must_copy _ _ _ _ _ _ _ _ hread hwrite fuel [] _ h).mono fun result after hafter => ?_
    rcases result with error | value
    · obtain ⟨_, _, _, hlogged⟩ := hafter
      exact hlogged
    · obtain ⟨_, hlogged, _⟩ := hafter
      exact hlogged
  exact .adapt fun _ h => must_file_call .close trivial trivial h

/-- A list of the remote directory. -/
theorem staysLoggedIn_readdir (path : String) (hpath : paths (.readdir path)) :
    StaysLoggedIn config credentials paths (do
      callSsh (request .sftp)
      callSsh (request (.readdir path)) : ConnectProgram lib (List DirectoryEntry)) := by
  refine .bind (.adapt fun _ h => must_file_call .sftp trivial trivial h) fun _ => ?_
  exact .adapt fun _ h => must_file_call (.readdir path) trivial hpath h

/-- The part of `delete` with a session. -/
theorem staysLoggedIn_unlink (path : String) (hpath : paths (.unlink path)) :
    StaysLoggedIn config credentials paths (do
      callSsh (request .sftp)
      callSsh (request (.unlink path)) : ConnectProgram lib Unit) := by
  refine .bind (.adapt fun _ h => must_file_call .sftp trivial trivial h) fun _ => ?_
  exact .adapt fun _ h => must_file_call (.unlink path) trivial hpath h

/-- A session is opened for calls about files. -/
theorem guards_session {δ α : Type} {program : ConnectProgram lib α}
    {convert : SftpConnectionError lib → δ}
    (h : StaysLoggedIn config credentials paths program) :
    Guards config credentials paths (ExceptT.adapt convert do
      connectSession config credentials
      program) (fun _ => True) [] := by
  refine .adapt (guards_connectSession.bind fun _ trace htrace => ?_)
  refine (h trace htrace).mono fun result after _ => ?_
  cases result <;> trivial

end Session

/-! ## Sessions make no calls about files -/

/-- Trying the addresses touches no file. -/
theorem only_connectAddresses (config : SftpConfig) (lastError : Option IoFailure)
    (addresses : List lib.Address) :
    Only (fun op : SshOp lib => ¬ IsFileCall op)
      (connectAddresses config lastError addresses).run := by
  induction addresses generalizing lastError with
  | nil => trivial
  | cons address rest ih =>
      refine ⟨id, fun reply _ _ => ?_⟩
      rcases reply with error | stream
      · exact ih (some error)
      refine ⟨id, fun reply _ _ => ?_⟩
      rcases reply with _ | _
      · trivial
      refine ⟨id, fun reply _ _ => ?_⟩
      rcases reply with _ | _ <;> trivial

/-- Checking the host key touches no file of the server. -/
theorem only_verifyHostKey (config : SftpConfig) :
    Only (fun op : SshOp lib => ¬ IsFileCall op)
      (verifyHostKey config : ConnectProgram lib _).run := by
  refine ⟨id, fun reply _ _ => ?_⟩
  rcases reply with _ | key
  · trivial
  refine ⟨id, fun reply _ _ => ?_⟩
  rcases reply with _ | _
  · trivial
  refine ⟨id, fun reply _ _ => ?_⟩
  rcases reply with _ | _
  · trivial
  refine ⟨id, fun reply _ _ => ?_⟩
  cases reply <;> trivial

/-- Logging in touches no file of the server. -/
theorem only_connectSession (config : SftpConfig) (credentials : SftpCredentials) :
    Only (fun op : SshOp lib => ¬ IsFileCall op)
      (connectSession config credentials : ConnectProgram lib _).run := by
  refine Only.run_bind (Only.run_bind ⟨id, fun reply _ _ => ?_⟩ fun addresses =>
    only_connectAddresses config none addresses) fun stream => ?_
  · rcases reply with _ | _ <;> trivial
  refine ⟨id, fun reply _ _ => ?_⟩
  rcases reply with _ | _
  · trivial
  refine ⟨id, fun _ _ _ => ⟨id, fun _ _ _ => ⟨id, fun reply _ _ => ?_⟩⟩⟩
  rcases reply with _ | _
  · trivial
  refine Only.run_bind (only_verifyHostKey config) fun _ => ⟨id, fun reply _ _ => ?_⟩
  rcases reply with _ | _
  · trivial
  refine ⟨id, fun accepted _ _ => ?_⟩
  cases accepted <;> trivial

/-! ## The operations -/

/-- What the client may be asked to do. -/
inductive Operation where
  | upload (remoteFilename : String) (bytes : List UInt8)
  | list
  | download (object : RemoteObject)
  | delete (object : RemoteObject)

namespace Operation

/-- The name of the remote object. -/
def name : Operation → Option String
  | .upload remoteFilename _ => some remoteFilename
  | .list => none
  | .download object | .delete object => some object.name

/-- The one path that the operation may name, in one of the configured directories. -/
def Paths (config : SftpConfig) : Operation → SshOp lib → Prop
  | .upload remoteFilename _, op => op = .create (joinPath config.uploadDirectory remoteFilename)
  | .list, op => op = .readdir config.receiveDirectory
  | .download object, op => op = .openPath (joinPath config.receiveDirectory object.name)
  | .delete object, op => op = .unlink (joinPath config.receiveDirectory object.name)

/-- The operation, of which only the success is returned. -/
def program (fuel : Nat) (config : SftpConfig) (credentials : SftpCredentials) :
    Operation → Program (sshSignature lib) Bool
  | .upload remoteFilename bytes => do
      return (← (Sftp.upload fuel config credentials remoteFilename bytes).run).isOk
  | .list => do return (← (Sftp.list config credentials).run).isOk
  | .download object => do return (← (Sftp.download fuel config credentials object).run).isOk
  | .delete object => do return (← (Sftp.delete config credentials object).run).isOk

end Operation

/-- A safe name joined to a directory is a file of this directory. -/
theorem joinPath_eq {name : String} (hname : IsComponent name) (directory : String) :
    ∃ separator, (separator = "" ∨ separator = "/") ∧
      joinPath directory name = directory ++ separator ++ name ∧
      fileName (joinPath directory name) = some name := by
  obtain ⟨hempty, hcurrent, hparent, hslash, _⟩ := hname
  have hhead : name.toList.head? ≠ some '/' := fun h => hslash (List.mem_of_mem_head? h)
  have hne : ∀ other : String, name ≠ other → name.toList ≠ other.toList :=
    fun other h heq => h (String.toList_injective heq)
  -- Whatever comes before the last separator, the name is the last component.
  have hlast : ∀ before : List Char, ∀ path : String, path.toList = before ++ '/' :: name.toList →
      fileName path = some name := by
    intro before path hpath
    have hkept : (decide (name.toList ≠ [] ∧ name.toList ≠ ['.']) : Bool) = true :=
      decide_eq_true ⟨hne "" hempty, hne "." hcurrent⟩
    simp only [fileName, hpath, List.splitOn_append_cons_self, List.splitOn_eq_singleton hslash,
      List.filter_append, List.filter_cons, hkept, if_true, List.filter_nil,
      List.getLast?_concat]
    have hdots : name.toList ≠ ['.', '.'] := hne ".." hparent
    rw [if_neg hdots, String.ofList_toList]
  unfold joinPath
  rw [if_neg hhead]
  split_ifs with hdirectory
  · refine ⟨"", .inl rfl, by rw [String.append_empty], ?_⟩
    rcases hdirectory with rfl | hslashed
    · rw [String.empty_append]
      exact file_name_eq_self hempty hcurrent hparent hslash
    · obtain ⟨before, hbefore⟩ := List.getLast?_eq_some_iff.1 hslashed
      refine hlast before _ ?_
      rw [String.toList_append, hbefore, List.append_assoc]
      rfl
  · refine ⟨"/", .inr rfl, rfl, hlast directory.toList _ ?_⟩
    rw [String.toList_append, String.toList_append, List.append_assoc]
    rfl

section Program

variable {config : SftpConfig} {credentials : SftpCredentials}

/-- A guarded program whose result is only looked at. -/
theorem must_isOk {δ α : Type} {paths : SshOp lib → Prop}
    {program : ExceptT δ (Program (sshSignature lib)) α}
    (h : Guards config credentials paths program (fun _ => True) []) :
    Must (recording _) (Guarded config credentials paths) (do return (← program.run).isOk)
      (fun _ _ => True) [] :=
  must_bind.2 (Must.mono h fun _ _ _ => trivial)

/-- With a check of a name before it. -/
theorem must_checked {δ α : Type} {paths : SshOp lib → Prop} {name : String} {failure : δ}
    {program : ExceptT δ (Program (sshSignature lib)) α}
    (h : Guards config credentials paths program (fun _ => True) []) :
    Must (recording _)
      (fun op trace => Guarded config credentials paths op trace ∧ safeRemoteBasename name = true)
      (do return (← ExceptT.run do
        if !safeRemoteBasename name then throw failure
        program).isOk) (fun _ _ => True) [] := by
  cases hsafe : safeRemoteBasename name with
  | false => trivial
  | true => exact (must_isOk h).permits_mono fun op trace hop => ⟨hop, rfl⟩

/-- Every call of an operation is guarded, and made for a safe name only. -/
theorem must_program (fuel : Nat) (config : SftpConfig) (credentials : SftpCredentials)
    (operation : Operation) :
    Must (recording (sshSignature lib))
      (fun op trace => Guarded config credentials (operation.Paths config) op trace ∧
        ∀ name, operation.name = some name → safeRemoteBasename name = true)
      (operation.program fuel config credentials) (fun _ _ => True) [] := by
  have hnamed : ∀ {name : String} {op : SshOp lib} {trace : List (SshEvent lib)}
      {paths : SshOp lib → Prop},
      Guarded config credentials paths op trace ∧ safeRemoteBasename name = true →
      Guarded config credentials paths op trace ∧
        ∀ other, some name = some other → safeRemoteBasename other = true := by
    intro name op trace paths h
    refine ⟨h.1, fun other hother => ?_⟩
    rw [← Option.some.inj hother]
    exact h.2
  cases operation with
  | upload name bytes =>
      have hupload := @staysLoggedIn_upload lib config credentials
        (Operation.Paths config (.upload name bytes)) fuel _ bytes rfl
      exact (must_checked (guards_session hupload)).permits_mono fun _ _ => hnamed
  | download object =>
      have hdownload := @staysLoggedIn_download lib config credentials
        (Operation.Paths config (.download object)) fuel _ rfl
      exact (must_checked (guards_session hdownload)).permits_mono fun _ _ => hnamed
  | delete object =>
      have hdelete := @staysLoggedIn_unlink lib config credentials
        (Operation.Paths config (.delete object)) _ rfl
      exact (must_checked (guards_session hdelete)).permits_mono fun _ _ => hnamed
  | list =>
      have hlist : Guards config credentials (Operation.list.Paths config)
          (list config credentials : ExceptT (SftpInboxError lib) _ _) (fun _ => True) [] := by
        have hreaddir := @staysLoggedIn_readdir lib config credentials
          (Operation.Paths config .list) _ rfl
        refine (guards_session hreaddir).bind ?_
        intro entries trace _
        refine must_run_bind.2 ?_
        cases (listEntries entries : Except (SftpInboxError lib) _) <;> trivial
      exact (must_isOk hlist).permits_mono fun _ _ hop => ⟨hop, fun _ hname => by cases hname⟩

end Program

/-- In every run of an operation, whatever is replied to its calls: each call is guarded, and if
the operation is about a name, this is a single component that stays the last one of the path. -/
theorem calls_guarded {fuel : Nat} {config : SftpConfig} {credentials : SftpCredentials}
    {operation : Operation} {op : SshOp lib} {trace : List (SshEvent lib)}
    (h : Calls (recording _) (operation.program fuel config credentials) [] op trace) :
    Guarded config credentials (operation.Paths config) op trace ∧
      ∀ name, operation.name = some name → IsComponent name ∧ '\x00' ∉ name.toList ∧
        ∀ directory, fileName (joinPath directory name) = some name := by
  obtain ⟨hguarded, hsafe⟩ := (must_program fuel config credentials operation).calls h
  refine ⟨hguarded, fun name hname => ?_⟩
  obtain ⟨hcomponent, hnul⟩ := (safe_remote_basename_iff name).1 (hsafe name hname)
  refine ⟨hcomponent, hnul, fun directory => ?_⟩
  obtain ⟨_, _, _, hlast⟩ := joinPath_eq hcomponent directory
  exact hlast

/-- A library with one address and one host key. -/
def sampleLibrary : SshLibrary := ⟨Unit, Unit, Unit, Unit⟩

/-- The settings of the samples. -/
def sampleConfig : SftpConfig := .new "tsftp.einvoice.nat.gov.tw" "known_hosts"

/-- A file `out/SummaryResult`, a directory `out/old` and a file `out/ProcessResult`, the files
of three bytes. -/
def sampleEntries : List DirectoryEntry :=
  [⟨[111, 117, 116, 47, 83, 117, 109, 109, 97, 114, 121, 82, 101, 115, 117, 108, 116],
      some 0o100644, some 3⟩,
    ⟨[111, 117, 116, 47, 111, 108, 100], some 0o040755, none⟩,
    ⟨[111, 117, 116, 47, 80, 114, 111, 99, 101, 115, 115, 82, 101, 115, 117, 108, 116],
      some 0o100644, some 3⟩]

/-- A known host that accepts everything. -/
def sampleReply : (op : SshOp sampleLibrary) → (sshSignature sampleLibrary).Reply op
  | .toSocketAddrs .. => .ok [()]
  | .setTimeout _ | .setTcpStream _ => ()
  | .hostKey => some ()
  | .checkPort .. => .match
  | .authenticated => true
  | .readdir _ => .ok sampleEntries
  | .write bytes | .writeLocal bytes => .ok (Fin.last bytes.length)
  | .read _ => .ok ⟨[], Nat.zero_le _⟩
  | .connectTimeout .. | .setReadTimeout .. | .setWriteTimeout .. | .flush => .ok ()
  | .newSession | .handshake | .knownHosts | .readFile _ | .userauthPassword .. | .sftp
  | .create _ | .openPath _ | .unlink _ | .close => .ok ()

/-- The calls are recorded. -/
def sampleHandler : Handler (sshSignature sampleLibrary) (List (SshEvent sampleLibrary)) where
  Choice _ := Unit
  respond op _ trace := (sampleReply op, trace ++ [⟨op, sampleReply op⟩])

/-- A listing up to its password. -/
def sampleLogin : Program (sshSignature sampleLibrary) Bool × List (SshEvent sampleLibrary) :=
  sampleHandler.runUntil (fun _ _ => ()) (fun op => op matches .userauthPassword ..)
    (Operation.list.program 0 sampleConfig ⟨"transport-id", "secret"⟩) []

theorem sample_calls_guarded :
    Guarded sampleConfig ⟨"transport-id", "secret"⟩ (Operation.list.Paths sampleConfig)
      (.userauthPassword "transport-id" "secret") sampleLogin.2 :=
  (calls_guarded (Handler.runUntil_calls (fun _ _ => rfl)
    (show sampleLogin.1.pending = some (.userauthPassword "transport-id" "secret") from rfl))).1

end TwEinvoice.Sftp
