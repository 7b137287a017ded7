import TwEinvoice.Effects.Program
import TwEinvoice.Storage.Directory

/-!
# The world of the durable receiver

The calls that `DurableReceiver` makes: to the file system, to its process and to the remote
inbox, which is a parameter with error type `ε`. `World.handler` computes each reply. A choice
is what the receiver does not control: injected faults, how many bytes one `read` returns, and
what the remote inbox does. The remote calls are logged.
-/

namespace TwEinvoice.Transport

open Effects Storage

/-- An error of the file system, as far as the receiver tells kinds apart. -/
inductive IoError where
  | alreadyExists
  | notFound
  | other (code : Nat)
  deriving DecidableEq

/-- Metadata of one object visible in the remote inbox. -/
structure RemoteObject where
  name : String
  size : UInt64
  deriving DecidableEq

/-- A call of the receiver. A path is a name in the inbox directory, an open file its inode. -/
inductive InboxOp where
  | fetchAddTempId
  | processId
  | createNew (path : String)
  | download (object : RemoteObject) (file : Nat)
  | flush (file : Nat)
  | syncAll (file : Nat)
  | metadata (file : Nat)
  | hardLink (source destination : String)
  | pathMetadata (path : String)
  | openFile (path : String)
  | read (file position bufferLength : Nat)
  | openDirectory
  | syncDirectory
  | delete (object : RemoteObject)
  | removeFile (path : String)
  deriving DecidableEq

variable {ε : Type}

/-- The replies to the calls. Of metadata only the length is used. -/
abbrev inboxSignature (ε : Type) : Signature where
  Op := InboxOp
  Reply
    | .fetchAddTempId => UInt64
    | .processId => UInt32
    | .createNew _ | .openFile _ | .metadata _ | .pathMetadata _ => Except IoError Nat
    | .download .. | .delete _ => Except ε Unit
    | .read .. => Except IoError (List UInt8)
    | .flush _ | .syncAll _ | .hardLink .. | .openDirectory | .syncDirectory | .removeFile _ =>
        Except IoError Unit

/-- A call of the remote inbox, with what was written to the local file and the reply. -/
inductive RemoteCall (ε : Type) where
  | download (object : RemoteObject) (written : List UInt8) (reply : Except ε Unit)
  | delete (object : RemoteObject) (reply : Except ε Unit)

/-- The inbox directory, the process with its static counter `NEXT_TEMP_ID`, and the remote
calls so far. -/
structure World (ε : Type) where
  directory : Directory
  processId : UInt32
  nextTempId : UInt64
  remote : List (RemoteCall ε)

/-- The fault that an operation may meet: an error code of the operating system. -/
abbrev Fault := Option Nat

/-- The error that a new name always meets: it contains a NUL character, or has more than 255
bytes. -/
def nameFault (name : String) : Fault :=
  if '\x00' ∈ name.toList then some 22
  else if 255 < name.utf8ByteSize then some 36
  else none

namespace World

/-- Change the directory. -/
def withDirectory (world : World ε) (directory : Directory) : World ε :=
  { world with directory }

/-- Log a call of the remote inbox. -/
def logged (world : World ε) (call : RemoteCall ε) : World ε :=
  { world with remote := world.remote ++ [call] }

@[simp]
theorem withDirectory_directory (world : World ε) (directory : Directory) :
    (world.withDirectory directory).directory = directory := rfl

@[simp]
theorem withDirectory_remote (world : World ε) (directory : Directory) :
    (world.withDirectory directory).remote = world.remote := rfl

@[simp]
theorem logged_directory (world : World ε) (call : RemoteCall ε) :
    (world.logged call).directory = world.directory := rfl

@[simp]
theorem logged_remote (world : World ε) (call : RemoteCall ε) :
    (world.logged call).remote = world.remote ++ [call] := rfl

/-- What the receiver does not control about a call. For a download it is the bytes written and
the reply, for a read how many bytes it returns after the first. -/
abbrev Choice (ε : Type) : InboxOp → Type
  | .fetchAddTempId | .processId => Unit
  | .download .. => List UInt8 × Except ε Unit
  | .delete _ => Except ε Unit
  | .read .. => Fault × Nat
  | _ => Fault

/-- `OpenOptions::new().write(true).create_new(true).open`. -/
def createNew (world : World ε) (path : String) : Except IoError Nat × World ε :=
  match world.directory.entry path with
  | some _ => (.error .alreadyExists, world)
  | none => (.ok world.directory.next, world.withDirectory (world.directory.create path))

/-- `fs::hard_link`. -/
def hardLink (world : World ε) (source destination : String) : Except IoError Unit × World ε :=
  match hsource : world.directory.entry source with
  | none => (.error .notFound, world)
  | some found =>
      match world.directory.entry destination with
      | some _ => (.error .alreadyExists, world)
      | none =>
          (.ok (), world.withDirectory
            (world.directory.link found (world.directory.entry_lt source found hsource)
              destination))

/-- `fs::remove_file`. -/
def removeFile (world : World ε) (path : String) : Except IoError Unit × World ε :=
  match world.directory.entry path with
  | none => (.error .notFound, world)
  | some _ => (.ok (), world.withDirectory (world.directory.remove path))

/-- A reply about the file under a path. -/
def lookup (world : World ε) (path : String) (reply : Nat → Nat) : Except IoError Nat × World ε :=
  match world.directory.entry path with
  | none => (.error .notFound, world)
  | some found => (.ok (reply found.inode), world)

/-- The bytes that one `read` returns: at least one unless the file ends at the position, and
at most as many as the buffer holds. -/
def chunk (bytes : List UInt8) (position bufferLength more : Nat) : List UInt8 :=
  (bytes.drop position).take (min bufferLength (more + 1))

/-- An operation of the file system, unless a fault stops it. -/
def unlessFault {α : Type} (world : World ε) (fault : Fault) (result : Except IoError α × World ε) :
    Except IoError α × World ε :=
  match fault with
  | some code => (.error (.other code), world)
  | none => result

/-- The world's reply to each call, and the world after it. -/
def respond (op : InboxOp) (choice : Choice ε op) (world : World ε) :
    (inboxSignature ε).Reply op × World ε :=
  match op with
  | .fetchAddTempId => (world.nextTempId, { world with nextTempId := world.nextTempId + 1 })
  | .processId => (world.processId, world)
  | .createNew path => world.unlessFault choice (world.createNew path)
  | .download object file =>
      (choice.2, (world.withDirectory (world.directory.append file choice.1)).logged
        (.download object choice.1 choice.2))
  | .flush _ => world.unlessFault choice (.ok (), world)
  | .syncAll file =>
      world.unlessFault choice (.ok (), world.withDirectory (world.directory.sync file))
  | .metadata file =>
      world.unlessFault choice (.ok (world.directory.file file).bytes.length, world)
  | .hardLink source destination =>
      -- The one call with a name that the server has chosen.
      world.unlessFault (choice.or (nameFault destination)) (world.hardLink source destination)
  | .pathMetadata path =>
      world.unlessFault choice
        (world.lookup path fun inode => (world.directory.file inode).bytes.length)
  | .openFile path => world.unlessFault choice (world.lookup path id)
  | .read file position bufferLength =>
      world.unlessFault choice.1
        (.ok (chunk (world.directory.file file).bytes position bufferLength choice.2), world)
  | .openDirectory => world.unlessFault choice (.ok (), world)
  | .syncDirectory =>
      world.unlessFault choice (.ok (), world.withDirectory world.directory.syncEntries)
  | .delete object => (choice, world.logged (.delete object choice))
  | .removeFile path => world.unlessFault choice (world.removeFile path)

/-- The choice without a fault. A download writes nothing and a read returns one byte. -/
def noFault : (op : InboxOp) → Choice ε op
  | .fetchAddTempId | .processId => ()
  | .createNew _ | .flush _ | .syncAll _ | .metadata _ | .hardLink .. | .pathMetadata _
  | .openFile _ | .openDirectory | .syncDirectory | .removeFile _ => none
  | .download .. => ([], .ok ())
  | .delete _ => .ok ()
  | .read .. => (none, 0)

/-- The world as an environment of the receiver. -/
def handler (ε : Type) : Handler (inboxSignature ε) (World ε) where
  Choice := Choice ε
  respond := respond

end World

end TwEinvoice.Transport
