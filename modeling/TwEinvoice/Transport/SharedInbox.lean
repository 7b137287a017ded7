import TwEinvoice.Concurrency.Threads
import TwEinvoice.Transport.ReceiverRules

/-!
# Receivers that share an inbox

Any number of receivers work on one inbox directory, each with its own connection to the remote
inbox. The receivers of one process share its counter `NEXT_TEMP_ID`; processes have distinct
IDs. A download writes to the temporary file in as many pieces as it likes, so it is not one
step here: its bytes arrive while it is pending. Every other call is one step.

The second half is the discipline that `receive` keeps, whatever the replies to its calls.
-/

namespace TwEinvoice.Transport

open Concurrency Effects Storage

variable {ε ι : Type} [DecidableEq ι]

/-- The inbox directory, the counter of each process, what the pending download of each receiver
has written so far, and the remote calls of each receiver. -/
structure SharedInbox (ι ε : Type) where
  directory : Directory
  nextTempId : UInt32 → UInt64
  written : ι → List UInt8
  remote : ι → List (RemoteCall ε)

namespace SharedInbox

variable (processOf : ι → UInt32) (shared : SharedInbox ι ε) (receiver : ι)

/-- The world that a receiver sees. -/
def view : World ε where
  directory := shared.directory
  processId := processOf receiver
  nextTempId := shared.nextTempId (processOf receiver)
  remote := shared.remote receiver

/-- The inbox after a receiver has changed its world. -/
def absorb (world : World ε) : SharedInbox ι ε :=
  { shared with
    directory := world.directory
    nextTempId := Function.update shared.nextTempId (processOf receiver) world.nextTempId
    remote := Function.update shared.remote receiver world.remote }

/-- The inbox after a pending download has written some bytes. -/
def write (file : Nat) (bytes : List UInt8) : SharedInbox ι ε :=
  { shared with
    directory := shared.directory.append file bytes
    written := Function.update shared.written receiver (shared.written receiver ++ bytes) }

/-- The inbox after a download has returned. -/
def finishDownload (object : RemoteObject) (reply : Except ε Unit) : SharedInbox ι ε :=
  { shared with
    written := Function.update shared.written receiver []
    remote := Function.update shared.remote receiver
      (shared.remote receiver ++ [.download object (shared.written receiver) reply]) }

end SharedInbox

/-- The call is a download. -/
def InboxOp.isDownload : InboxOp → Bool
  | .download .. => true
  | _ => false

/-- The replies to the calls of one receiver. -/
inductive InboxReplies (processOf : ι → UInt32) (receiver : ι) :
    Environment (inboxSignature ε) (SharedInbox ι ε) where
  | download {shared object file} (reply : Except ε Unit) :
      InboxReplies processOf receiver (.download object file) shared reply
        (shared.finishDownload receiver object reply)
  | other {op shared} (choice : World.Choice ε op) :
      op.isDownload = false →
      InboxReplies processOf receiver op shared
        (World.respond op choice (shared.view processOf receiver)).1
        (shared.absorb processOf receiver
          (World.respond op choice (shared.view processOf receiver)).2)

/-- What a pending call does to the inbox. -/
def InboxWork (receiver : ι) (op : InboxOp) (shared next : SharedInbox ι ε) : Prop :=
  match op with
  | .download _ file => ∃ bytes, next = shared.write receiver file bytes
  | _ => False

/-- Receivers call `receive` for any objects, any number of times. -/
def receivers (processOf : ι → UInt32) :
    Rules ι (inboxSignature ε) (Except (ReceiveError ε) ReceiveOutcome) (SharedInbox ι ε) where
  begins _ program := ∃ fuel object, program = (receive fuel object).run
  pending := InboxWork
  replies := InboxReplies processOf

/-! ## The discipline of `receive` -/

/-- How far a receiver is with an object, with the path of its temporary file and the file. -/
inductive Phase where
  | resting
  | receiving (object : RemoteObject)
  | created (object : RemoteObject) (path : String) (file : Nat)
  | downloaded (object : RemoteObject) (path : String) (file : Nat)
  | measured (object : RemoteObject) (path : String) (file length : Nat)
  | closing (path : String) (file : Nat)

/-- The temporary file. -/
def Phase.holds : Phase → Option (String × Nat)
  | .resting | .receiving _ => none
  | .created _ path file | .downloaded _ path file | .measured _ path file _
  | .closing path file => some (path, file)

/-- The temporary file, once its download has returned. -/
def Phase.filled : Phase → Option (String × Nat)
  | .resting | .receiving _ | .created .. => none
  | .downloaded _ path file | .measured _ path file _ | .closing path file => some (path, file)

/-- A receiver creates one temporary file, downloads the object to it, publishes it once its
length is that of the object, and may remove it at any time after the download. -/
def receiverDiscipline (ε : Type) : Discipline (inboxSignature ε) Phase where
  permits
    | .createNew _, .receiving _ => True
    | .createNew _, _ => False
    | .download object file, .created object' _ file' => object = object' ∧ file = file'
    | .download .., _ => False
    | .metadata file, .downloaded _ _ file' => file = file'
    | .hardLink source destination, .measured object path _ length =>
        source = path ∧ destination = object.name ∧ length ≠ 0 ∧ length = object.size.toNat
    | .hardLink .., _ => False
    | .delete _, .closing .. => True
    | .delete _, _ => False
    | .removeFile path, phase => ∃ file, phase.filled = some (path, file)
    | _, _ => True
  after
    | .createNew path, .ok file, .receiving object => .created object path file
    | .download .., .ok _, .created object path file => .downloaded object path file
    | .download .., .error _, .created _ path file => .closing path file
    | .metadata _, .ok length, .downloaded object path file => .measured object path file length
    | .hardLink .., _, .measured _ path file _ => .closing path file
    | .removeFile _, _, _ => .resting
    | _, _, phase => phase
  resting phase := phase.holds = none

/-- In every behaviour of the program from the phase on the discipline is kept. -/
abbrev Disciplined {α : Type} (program : Program (inboxSignature ε) α)
    (post : α → Phase → Prop) (phase : Phase) : Prop :=
  Must (receiverDiscipline ε).environment (receiverDiscipline ε).permits program post phase

/-- A call that is permitted in its phase. -/
theorem disciplined_request {op : InboxOp} {post : (inboxSignature ε).Reply op → Phase → Prop}
    {phase : Phase} (hpermits : (receiverDiscipline ε).permits op phase)
    (hpost : ∀ reply, post reply ((receiverDiscipline ε).after op reply phase)) :
    Disciplined (request op) post phase :=
  Discipline.must_perform.2 ⟨hpermits, hpost⟩

/-- A temporary file belongs to the receiver that has created it. -/
theorem disciplined_create (fuel : Nat) (object : RemoteObject) :
    Disciplined (IncomingFile.create fuel : FileProgram ε IncomingFile).run
      (onResult (fun incoming phase => phase = .created object incoming.path incoming.file)
        fun _ phase => phase = .receiving object) (.receiving object) := by
  induction fuel with
  | zero => exact must_outOfFuel
  | succ fuel ih =>
      refine must_bind.2 (disciplined_request trivial fun id => ?_)
      refine must_bind.2 (disciplined_request trivial fun processId => ?_)
      refine must_bind.2 (disciplined_request trivial fun reply => ?_)
      rcases reply with (_ | _ | code) | file
      · exact ih
      · exact rfl
      · exact rfl
      · exact rfl

/-- A fallible program that leaves the phase alone. -/
def KeepsPhase {δ α : Type} (program : ExceptT δ (Program (inboxSignature ε)) α)
    (phase : Phase) : Prop :=
  Disciplined program.run (fun _ after => after = phase) phase

/-- Programs that keep the phase, one after the other. -/
theorem KeepsPhase.bind {δ α β : Type} {program : ExceptT δ (Program (inboxSignature ε)) α}
    {next : α → ExceptT δ (Program (inboxSignature ε)) β} {phase : Phase}
    (h : KeepsPhase program phase) (hnext : ∀ value, KeepsPhase (next value) phase) :
    KeepsPhase (program >>= next) phase := by
  refine must_run_bind.2 (Must.mono h fun result after hafter => ?_)
  subst hafter
  cases result with
  | error error => rfl
  | ok value => exact hnext value

theorem KeepsPhase.adapt {δ δ' α : Type} {program : ExceptT δ (Program (inboxSignature ε)) α}
    {convert : δ → δ'} {phase : Phase} (h : KeepsPhase program phase) :
    KeepsPhase (ExceptT.adapt convert program) phase :=
  must_run_adapt.2 h

theorem keepsPhase_pure {δ α : Type} (value : α) (phase : Phase) :
    KeepsPhase (pure value : ExceptT δ (Program (inboxSignature ε)) α) phase := rfl

theorem keepsPhase_read (reader : Reader) (phase : Phase) :
    KeepsPhase (reader.read : FileProgram ε _) phase :=
  KeepsPhase.bind (disciplined_request trivial fun _ => rfl) fun _ => keepsPhase_pure _ _

theorem keepsPhase_readersEqual (fuel : Nat) (left right : Reader) (phase : Phase) :
    KeepsPhase (readersEqual fuel left right : FileProgram ε Bool) phase := by
  induction fuel generalizing left right with
  | zero => trivial
  | succ fuel ih =>
      refine (keepsPhase_read left phase).bind fun _ => ?_
      refine (keepsPhase_read right phase).bind fun _ => ?_
      dsimp only
      split_ifs
      · exact keepsPhase_pure _ _
      · exact keepsPhase_pure _ _
      · exact keepsPhase_pure _ _
      · exact ih _ _

theorem keepsPhase_openPath (path : String) (phase : Phase) :
    KeepsPhase (Reader.openPath path : FileProgram ε Reader) phase :=
  KeepsPhase.bind (disciplined_request trivial fun _ => rfl) fun _ => keepsPhase_pure _ _

theorem keepsPhase_filesEqual (fuel : Nat) (left right : String) (phase : Phase) :
    KeepsPhase (filesEqual fuel left right : FileProgram ε Bool) phase := by
  refine KeepsPhase.bind (disciplined_request trivial fun _ => rfl) fun leftLength => ?_
  refine KeepsPhase.bind (disciplined_request trivial fun _ => rfl) fun rightLength => ?_
  split_ifs
  · exact keepsPhase_pure _ _
  · exact (keepsPhase_openPath left phase).bind fun _ =>
      (keepsPhase_openPath right phase).bind fun _ => keepsPhase_readersEqual fuel _ _ phase

theorem keepsPhase_syncParentDirectory (phase : Phase) :
    KeepsPhase (syncParentDirectory : FileProgram ε Unit) phase :=
  KeepsPhase.bind (disciplined_request trivial fun _ => rfl) fun _ =>
    disciplined_request trivial fun _ => rfl

/-- The hard link, then the synchronization or the comparison. -/
theorem disciplined_publish (fuel : Nat) {object : RemoteObject} {incoming : IncomingFile}
    {length : Nat} (hpositive : length ≠ 0) (hsize : length = object.size.toNat) :
    Disciplined (publish fuel object incoming : ReceiveProgram ε ReceiveOutcome).run
      (fun _ phase => phase = .closing incoming.path incoming.file)
      (.measured object incoming.path incoming.file length) := by
  refine must_bind.2 (disciplined_request ⟨rfl, rfl, hpositive, hsize⟩ fun reply => ?_)
  rcases reply with (_ | _ | code) | _
  · refine (keepsPhase_filesEqual fuel _ _ _).adapt.bind fun equal => ?_
    cases equal <;> rfl
  · rfl
  · rfl
  · exact (keepsPhase_syncParentDirectory _).adapt.bind fun _ => keepsPhase_pure _ _

/-- With the temporary file in scope. -/
theorem disciplined_receiveInto (fuel : Nat) (object : RemoteObject) (incoming : IncomingFile) :
    Disciplined (receiveInto fuel object incoming : ReceiveProgram ε ReceiveOutcome).run
      (fun _ phase => ∃ file, phase.filled = some (incoming.path, file))
      (.created object incoming.path incoming.file) := by
  -- Whichever call fails, the temporary file is still held and is removed by the guard.
  have hheld : ∀ phase : Phase, phase.filled = some (incoming.path, incoming.file) →
      ∃ file, phase.filled = some (incoming.path, file) := fun _ h => ⟨_, h⟩
  refine must_run_bind.2 (must_run_adapt.2 (disciplined_request ⟨rfl, rfl⟩ fun reply => ?_))
  cases reply with
  | error error => exact hheld _ rfl
  | ok _ =>
      have hflush : KeepsPhase (incoming.flushAndSync : FileProgram ε Unit)
          (.downloaded object incoming.path incoming.file) :=
        KeepsPhase.bind (disciplined_request trivial fun _ => rfl) fun _ =>
          disciplined_request trivial fun _ => rfl
      refine must_run_bind.2 (must_run_adapt.2 (hflush.mono fun result after hafter => ?_))
      subst hafter
      cases result with
      | error error => exact hheld _ rfl
      | ok _ =>
          refine must_run_bind.2 (must_run_adapt.2 (disciplined_request rfl fun reply => ?_))
          cases reply with
          | error error => exact hheld _ rfl
          | ok length =>
              refine must_run_bind.2 ?_
              cases hcheck : (checkSize object length : Except (ReceiveError ε) Unit) with
              | error error => exact hheld _ rfl
              | ok _ =>
                  obtain ⟨hpositive, hsize⟩ := check_size_ok hcheck
                  refine must_run_bind.2 ((disciplined_publish fuel hpositive hsize).mono
                    fun result after hafter => ?_)
                  subst hafter
                  cases result with
                  | error error => exact hheld _ rfl
                  | ok outcome =>
                      refine must_run_bind.2 (must_run_adapt.2 (disciplined_request trivial
                        fun reply => ?_))
                      cases reply <;> exact hheld _ rfl

/-- Whatever the replies to its calls, `receive` keeps the discipline. -/
theorem receive_follows (fuel : Nat) (object : RemoteObject) :
    (receiverDiscipline ε).Follows (receive fuel object).run (.receiving object) := by
  refine must_run_bind.2 ?_
  cases (validateRemoteName object.name : Except (ReceiveError ε) Unit) with
  | error error => rfl
  | ok _ =>
      refine must_run_bind.2 (must_run_adapt.2 ((disciplined_create fuel object).mono ?_))
      intro result phase hphase
      cases result with
      | error error =>
          rw [onResult_error] at hphase
          subst hphase
          rfl
      | ok incoming =>
          rw [onResult_ok] at hphase
          subst hphase
          refine must_bind.2 ((disciplined_receiveInto fuel object incoming).mono ?_)
          rintro result phase hheld
          exact must_bind.2 (must_bind.2 (disciplined_request hheld fun _ => rfl))

end TwEinvoice.Transport
