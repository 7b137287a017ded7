import Mathlib.Data.Nat.Basic
import TwEinvoice.Transport.Inbox

/-!
# The durable receiver

`DurableReceiver::receive` as a program of calls to the inbox world. A path in the inbox
directory is the name of the file. The two loops take fuel: `IncomingFile.create`, which tries
one temporary name after another, and `filesEqual`, which reads two files chunk by chunk.
-/

namespace TwEinvoice.Transport

open Effects Storage

variable {ε : Type}

/-- What receiving one object did. -/
inductive ReceiveOutcome where
  | persisted (path : String)
  | alreadyPersisted (path : String)
  deriving DecidableEq

/-- The path of a received object. -/
def ReceiveOutcome.durablePath : ReceiveOutcome → String
  | .persisted path | .alreadyPersisted path => path

/-- The remote operation that failed. -/
inductive RemoteOperation where
  | download
  | delete
  deriving DecidableEq

/-- Why an object was not received, or not deleted remotely. -/
inductive ReceiveError (ε : Type) where
  | invalidRemoteName (name : String)
  | emptyObject (name : String)
  | sizeMismatch (name : String) (expected : UInt64) (actual : Nat)
  | conflictingLocalObject (name path : String)
  | io (error : IoError)
  | remote (operation : RemoteOperation) (source : ε)

/-- One call. -/
abbrev request (op : InboxOp) : Program (inboxSignature ε) ((inboxSignature ε).Reply op) :=
  Program.perform (S := inboxSignature ε) op

/-- The fallible calls of the file system. -/
abbrev FileProgram (ε : Type) := ExceptT IoError (Program (inboxSignature ε))

/-! ## `IncomingFile` -/

/-- A temporary file and the handle it is written through. -/
structure IncomingFile where
  path : String
  file : Nat

/-- The name of a temporary file, `.incoming-<pid>-<id>`. -/
def incomingName (processId : UInt32) (id : UInt64) : String :=
  ".incoming-" ++ toString processId ++ "-" ++ toString id

/-- `IncomingFile::create`. -/
def IncomingFile.create : Nat → FileProgram ε IncomingFile
  | 0 => ExceptT.mk .outOfFuel
  | fuel + 1 => ExceptT.mk do
      let id ← request .fetchAddTempId
      let processId ← request .processId
      let path := incomingName processId id
      match ← request (.createNew path) with
      | .ok file => return .ok ⟨path, file⟩
      | .error .alreadyExists => (IncomingFile.create fuel).run
      | .error error => return .error error

/-- `IncomingFile::flush_and_sync`. -/
def IncomingFile.flushAndSync (incoming : IncomingFile) : FileProgram ε Unit := do
  ExceptT.mk (request (.flush incoming.file))
  ExceptT.mk (request (.syncAll incoming.file))

/-- `IncomingFile::size`. -/
def IncomingFile.size (incoming : IncomingFile) : FileProgram ε Nat :=
  ExceptT.mk (request (.metadata incoming.file))

/-- `IncomingFile::drop`, which ignores the error of the removal. -/
def IncomingFile.drop (incoming : IncomingFile) : Program (inboxSignature ε) Unit := do
  let _ ← request (.removeFile incoming.path)

/-! ## Publication -/

/-- `Path::file_name` on Unix: the last component of the path, unless it is `..`. -/
def fileName (path : String) : Option String :=
  let components := (path.toList.splitOn '/').filter fun part => part ≠ [] ∧ part ≠ ['.']
  match components.getLast? with
  | none => none
  | some last => if last = ['.', '.'] then none else some (String.ofList last)

/-- `validate_remote_name`. -/
def validateRemoteName (name : String) : Except (ReceiveError ε) Unit :=
  let safe := name ≠ "" ∧ name ≠ "." ∧ name ≠ ".." ∧ '/' ∉ name.toList ∧ '\\' ∉ name.toList ∧
    fileName name = some name
  if safe then .ok () else .error (.invalidRemoteName name)

/-- `publish_no_clobber`. -/
def publishNoClobber (source destination : String) : FileProgram ε Unit :=
  ExceptT.mk (request (.hardLink source destination))

/-- An open file that is read, with the position that the next read starts at. -/
structure Reader where
  file : Nat
  position : Nat

/-- `File::open`. -/
def Reader.openPath (path : String) : FileProgram ε Reader := do
  let file ← ExceptT.mk (request (.openFile path))
  return ⟨file, 0⟩

/-- The length of `files_equal`'s buffers. -/
def bufferLength : Nat := 16 * 1024

/-- `File::read` into one of the buffers, with the reader moved forward. -/
def Reader.read (reader : Reader) : FileProgram ε (List UInt8 × Reader) := do
  let chunk ← ExceptT.mk (request (.read reader.file reader.position bufferLength))
  return (chunk, { reader with position := reader.position + chunk.length })

/-- The loop of `files_equal`. -/
def readersEqual : Nat → Reader → Reader → FileProgram ε Bool
  | 0, _, _ => ExceptT.mk .outOfFuel
  | fuel + 1, left, right => do
      let (leftRead, left) ← left.read
      let (rightRead, right) ← right.read
      if leftRead.length ≠ rightRead.length then return false
      else if leftRead.length = 0 then return true
      else if leftRead ≠ rightRead then return false
      else readersEqual fuel left right

/-- `files_equal`. -/
def filesEqual (fuel : Nat) (left right : String) : FileProgram ε Bool := do
  let leftLength ← ExceptT.mk (request (.pathMetadata left))
  let rightLength ← ExceptT.mk (request (.pathMetadata right))
  if leftLength ≠ rightLength then return false
  else
    let left ← Reader.openPath left
    let right ← Reader.openPath right
    readersEqual fuel left right

/-- `sync_parent_directory` on Unix. -/
def syncParentDirectory : FileProgram ε Unit := do
  ExceptT.mk (request .openDirectory)
  ExceptT.mk (request .syncDirectory)

/-! ## `DurableReceiver::receive` -/

/-- The steps of `receive`. -/
abbrev ReceiveProgram (ε : Type) := ExceptT (ReceiveError ε) (Program (inboxSignature ε))

/-- The checks of `receive` on the size of the download. -/
def checkSize (object : RemoteObject) (actual : Nat) : Except (ReceiveError ε) Unit :=
  if actual = 0 then .error (.emptyObject object.name)
  else if actual ≠ object.size.toNat then
    .error (.sizeMismatch object.name object.size actual)
  else .ok ()

/-- The `outcome` of `receive`: publish the download, or find it published already. -/
def publish (fuel : Nat) (object : RemoteObject) (incoming : IncomingFile) :
    ReceiveProgram ε ReceiveOutcome := ExceptT.mk do
  let finalPath := object.name
  match ← (publishNoClobber incoming.path finalPath).run with
  | .ok () => ExceptT.run do
      ExceptT.adapt .io syncParentDirectory
      return .persisted finalPath
  | .error .alreadyExists => ExceptT.run do
      if ← ExceptT.adapt .io (filesEqual fuel incoming.path finalPath) then
        return .alreadyPersisted finalPath
      else throw (.conflictingLocalObject object.name finalPath)
  | .error error => return .error (.io error)

/-- The part of `receive` in which `incoming` is in scope. -/
def receiveInto (fuel : Nat) (object : RemoteObject) (incoming : IncomingFile) :
    ReceiveProgram ε ReceiveOutcome := do
  ExceptT.adapt (.remote .download)
    (ExceptT.mk (request (.download object incoming.file)))
  ExceptT.adapt .io incoming.flushAndSync
  let actualSize ← ExceptT.adapt .io incoming.size
  ExceptT.mk (pure (checkSize object actualSize))
  let outcome ← publish fuel object incoming
  ExceptT.adapt (.remote .delete) (ExceptT.mk (request (.delete object)))
  return outcome

/-- `DurableReceiver::receive`. The temporary file is dropped on every way out of its scope. -/
def receive (fuel : Nat) (object : RemoteObject) : ReceiveProgram ε ReceiveOutcome := do
  ExceptT.mk (pure (validateRemoteName object.name))
  let incoming ← ExceptT.adapt .io (IncomingFile.create fuel)
  ExceptT.mk do
    let result ← (receiveInto fuel object incoming).run
    incoming.drop
    return result

end TwEinvoice.Transport
