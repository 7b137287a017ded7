import TwEinvoice.Effects.Views
import TwEinvoice.Rust.Io
import TwEinvoice.Rust.Text
import TwEinvoice.Transport.Basenames

/-!
# The SFTP client

`Ssh2SftpUploader` and `Ssh2RemoteInbox` as programs of calls to the network and to the SSH
library, whose types are parameters. Each operation opens a session of its own, so the calls do
not name it. What the library does when a session or a file is dropped is not a call of the client.
-/

namespace TwEinvoice.Sftp

open Effects Rust Transport

/-- What the client only passes on. -/
structure SshLibrary where
  Address : Type
  Stream : Type
  HostKey : Type
  Error : Type

variable {lib : SshLibrary}

/-- The result of comparing a host key with the known hosts. -/
inductive CheckResult where
  | match
  | mismatch
  | notFound
  | failure
  deriving DecidableEq

/-- An entry of a remote directory: the bytes of its path, and what is known of the file. -/
structure DirectoryEntry where
  path : List UInt8
  perm : Option UInt32
  size : Option UInt64

/-- A username and a password. -/
structure SftpCredentials where
  username : String
  password : String

/-- The settings of the connection. The timeout is in nanoseconds. -/
structure SftpConfig where
  host : String
  port : UInt16
  knownHostsPath : String
  timeout : Nat
  uploadDirectory : String
  receiveDirectory : String

/-- `SftpConfig::new`. -/
def SftpConfig.new (host knownHostsPath : String) : SftpConfig where
  host := host
  port := 2222
  knownHostsPath := knownHostsPath
  timeout := 120 * 10 ^ 9
  uploadDirectory := "in"
  receiveDirectory := "out"

/-- The timeout of the session in milliseconds, or the largest one. -/
def SftpConfig.timeoutMs (config : SftpConfig) : UInt32 :=
  if config.timeout / 10 ^ 6 < 2 ^ 32 then .ofNat (config.timeout / 10 ^ 6) else -1

/-- A call of the client. -/
inductive SshOp (lib : SshLibrary) where
  | toSocketAddrs (host : String) (port : UInt16)
  | connectTimeout (address : lib.Address) (timeout : Nat)
  | setReadTimeout (stream : lib.Stream) (timeout : Nat)
  | setWriteTimeout (stream : lib.Stream) (timeout : Nat)
  | newSession
  | setTimeout (milliseconds : UInt32)
  | setTcpStream (stream : lib.Stream)
  | handshake
  | hostKey
  | knownHosts
  | readFile (path : String)
  | checkPort (host : String) (port : UInt16) (key : lib.HostKey)
  | userauthPassword (username password : String)
  | authenticated
  | sftp
  | create (path : String)
  | openPath (path : String)
  | readdir (path : String)
  | unlink (path : String)
  | write (bytes : List UInt8)
  | flush
  | close
  | read (bufferLength : Nat)
  | writeLocal (bytes : List UInt8)

/-- The replies to the calls. -/
abbrev sshSignature (lib : SshLibrary) : Signature where
  Op := SshOp lib
  Reply
    | .toSocketAddrs .. => Except IoFailure (List lib.Address)
    | .connectTimeout .. => Except IoFailure lib.Stream
    | .setReadTimeout .. | .setWriteTimeout .. | .flush => Except IoFailure Unit
    | .setTimeout _ | .setTcpStream _ => Unit
    | .hostKey => Option lib.HostKey
    | .checkPort .. => CheckResult
    | .authenticated => Bool
    | .readdir _ => Except lib.Error (List DirectoryEntry)
    | .write bytes | .writeLocal bytes => Except IoFailure (Written bytes)
    | .read bufferLength => Except IoFailure (Chunk bufferLength)
    | .newSession | .handshake | .knownHosts | .readFile _ | .userauthPassword .. | .sftp
    | .create _ | .openPath _ | .unlink _ | .close => Except lib.Error Unit

/-- A call and its reply. -/
abbrev SshEvent (lib : SshLibrary) : Type := Exchange (sshSignature lib)

/-- One call. -/
abbrev request (op : SshOp lib) : Program (sshSignature lib) ((sshSignature lib).Reply op) :=
  Program.perform (S := sshSignature lib) op

/-! ## Connecting -/

/-- Why no session was opened, or why the calls on its files failed. -/
inductive SftpConnectionError (lib : SshLibrary) where
  | missingHostKey
  | hostKeyNotFound (host : String) (port : UInt16)
  | hostKeyMismatch (host : String) (port : UInt16)
  | hostKeyCheckFailed (host : String) (port : UInt16)
  | authenticationFailed
  | io (error : IoFailure)
  | ssh (error : lib.Error)

/-- The steps of an operation. -/
abbrev ConnectProgram (lib : SshLibrary) :=
  ExceptT (SftpConnectionError lib) (Program (sshSignature lib))

/-- A call that fails with an error of the SSH library. -/
def callSsh {α : Type} (call : Program (sshSignature lib) (Except lib.Error α)) :
    ConnectProgram lib α :=
  ExceptT.adapt .ssh (ExceptT.mk call)

/-- A call that fails with an I/O error. -/
def callIo {α : Type} (call : Program (sshSignature lib) (Except IoFailure α)) :
    ConnectProgram lib α :=
  ExceptT.adapt .io (ExceptT.mk call)

/-- The loop of `connect_tcp`. -/
def connectAddresses (config : SftpConfig) :
    Option IoFailure → List lib.Address → ConnectProgram lib lib.Stream
  | lastError, [] =>
      throw (.io (lastError.getD (.notFound "SFTP host resolved to no addresses")))
  | _, address :: rest => do
      match ← ExceptT.lift (request (.connectTimeout address config.timeout)) with
      | .ok stream =>
          callIo (request (.setReadTimeout stream config.timeout))
          callIo (request (.setWriteTimeout stream config.timeout))
          return stream
      | .error error => connectAddresses config (some error) rest

/-- `connect_tcp`. -/
def connectTcp (config : SftpConfig) : ConnectProgram lib lib.Stream := do
  let addresses ← callIo (request (.toSocketAddrs config.host config.port))
  connectAddresses config none addresses

/-- `verify_host_key`. -/
def verifyHostKey (config : SftpConfig) : ConnectProgram lib Unit := do
  match ← ExceptT.lift (request .hostKey) with
  | none => throw .missingHostKey
  | some hostKey =>
      callSsh (request .knownHosts)
      callSsh (request (.readFile config.knownHostsPath))
      match ← ExceptT.lift (request (.checkPort config.host config.port hostKey)) with
      | .match => return ()
      | .notFound => throw (.hostKeyNotFound config.host config.port)
      | .mismatch => throw (.hostKeyMismatch config.host config.port)
      | .failure => throw (.hostKeyCheckFailed config.host config.port)

/-- `connect_session`. -/
def connectSession (config : SftpConfig) (credentials : SftpCredentials) :
    ConnectProgram lib Unit := do
  let tcp ← connectTcp config
  callSsh (request .newSession)
  ExceptT.lift (request (.setTimeout config.timeoutMs))
  ExceptT.lift (request (.setTcpStream tcp))
  callSsh (request .handshake)
  verifyHostKey config
  callSsh (request (.userauthPassword credentials.username credentials.password))
  if !(← ExceptT.lift (request .authenticated)) then throw .authenticationFailed

/-! ## Files -/

/-- `Path::join` on Unix. -/
def joinPath (directory name : String) : String :=
  if name.toList.head? = some '/' then name
  else if directory = "" ∨ directory.toList.getLast? = some '/' then directory ++ name
  else directory ++ "/" ++ name

/-- `SftpUploadError`. -/
inductive SftpUploadError (lib : SshLibrary) where
  | invalidRemoteFilename
  | connection (error : SftpConnectionError lib)

/-- `Ssh2SftpUploader::upload`. -/
def upload (fuel : Nat) (config : SftpConfig) (credentials : SftpCredentials)
    (remoteFilename : String) (bytes : List UInt8) :
    ExceptT (SftpUploadError lib) (Program (sshSignature lib)) Unit := do
  if !safeRemoteBasename remoteFilename then throw .invalidRemoteFilename
  ExceptT.adapt .connection do
    connectSession config credentials
    callSsh (request .sftp)
    callSsh (request (.create (joinPath config.uploadDirectory remoteFilename)))
    ExceptT.adapt .io (writeAll (fun bytes => request (.write bytes)) fuel bytes)
    callIo (request .flush)
    callSsh (request .close)

/-- `SftpInboxError`. -/
inductive SftpInboxError (lib : SshLibrary) where
  | invalidRemoteEntryName
  | missingRemoteSize (name : String)
  | connection (error : SftpConnectionError lib)

/-- `Ssh2RemoteInbox::download`, with the caller's writer. -/
def download (fuel : Nat) (config : SftpConfig) (credentials : SftpCredentials)
    (object : RemoteObject) :
    ExceptT (SftpInboxError lib) (Program (sshSignature lib)) Unit := do
  if !safeRemoteBasename object.name then throw .invalidRemoteEntryName
  ExceptT.adapt .connection do
    connectSession config credentials
    callSsh (request .sftp)
    callSsh (request (.openPath (joinPath config.receiveDirectory object.name)))
    ExceptT.adapt .io
      (copy (request (.read copyBufferLength)) (fun bytes => request (.writeLocal bytes)) fuel)
    callSsh (request .close)

/-- `Ssh2RemoteInbox::delete`. -/
def delete (config : SftpConfig) (credentials : SftpCredentials) (object : RemoteObject) :
    ExceptT (SftpInboxError lib) (Program (sshSignature lib)) Unit := do
  if !safeRemoteBasename object.name then throw .invalidRemoteEntryName
  ExceptT.adapt .connection do
    connectSession config credentials
    callSsh (request .sftp)
    callSsh (request (.unlink (joinPath config.receiveDirectory object.name)))

/-! ## Listing -/

/-- `Path::file_name` on Unix, of the bytes of a path. -/
def entryFileName (path : List UInt8) : Option (List UInt8) :=
  let components := (path.splitOn 47).filter fun part => part ≠ [] ∧ part ≠ [46]
  match components.getLast? with
  | none => none
  | some last => if last = [46, 46] then none else some last

/-- `OsStr::to_str` of the name of an entry. -/
def entryName (entry : DirectoryEntry) : Option String :=
  (entryFileName entry.path).bind fromUtf8

/-- The mode says that the entry is a directory. -/
def isDirectory (entry : DirectoryEntry) : Bool :=
  match entry.perm with
  | some mode => mode &&& 0o170000 = 0o040000
  | none => false

/-- The loop of `list`. -/
def listEntries : List DirectoryEntry → Except (SftpInboxError lib) (List RemoteObject)
  | [] => .ok []
  | entry :: rest => do
      if isDirectory entry then listEntries rest
      else
        match entryName entry with
        | none => .error .invalidRemoteEntryName
        | some name =>
            if !safeRemoteBasename name then .error .invalidRemoteEntryName
            else
              match entry.size with
              | none => .error (.missingRemoteSize name)
              | some size =>
                  let objects ← listEntries rest
                  return ⟨name, size⟩ :: objects

/-- `Ssh2RemoteInbox::list`. -/
def list (config : SftpConfig) (credentials : SftpCredentials) :
    ExceptT (SftpInboxError lib) (Program (sshSignature lib)) (List RemoteObject) := do
  let entries ← ExceptT.adapt .connection do
    connectSession config credentials
    callSsh (request .sftp)
    callSsh (request (.readdir config.receiveDirectory))
  let objects ← ExceptT.mk (pure (listEntries entries))
  return objects.mergeSort fun left right => left.name ≤ right.name

end TwEinvoice.Sftp
