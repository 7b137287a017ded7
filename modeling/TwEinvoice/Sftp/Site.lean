import TwEinvoice.Effects.Substitution
import TwEinvoice.Sftp.Transfers
import TwEinvoice.Transport.PollerRuns

/-!
# A poller over SFTP

The poller, the receiver and the SFTP client put together: each download and each deletion of the
receiver is carried out by the client, whose writer is the receiver's temporary file, and the
listing is the client's. A site is what they all work on: the local inbox and the remote files.
-/

namespace TwEinvoice.Sftp

open Effects Rust Storage Transport

variable {lib : SshLibrary}

/-! ## The site -/

/-- The receiver's errors are those of the client. -/
abbrev SiteWorld (lib : SshLibrary) : Type := World (SftpInboxError lib)

/-- The local inbox and the remote files. -/
structure Site (lib : SshLibrary) where
  world : SiteWorld lib
  files : RemoteFiles

/-- A call of the receiver to its own machine, one of the client, or a write to a local file. -/
inductive SiteOp (lib : SshLibrary) where
  | inbox (op : InboxOp)
  | ssh (op : SshOp lib)
  | writeFile (file : Nat) (bytes : List UInt8)

/-- The replies to the calls. -/
abbrev siteSignature (lib : SshLibrary) : Signature where
  Op := SiteOp lib
  Reply
    | .inbox op => (inboxSignature (SftpInboxError lib)).Reply op
    | .ssh op => (sshSignature lib).Reply op
    | .writeFile _ bytes => Except IoFailure (Written bytes)

/-- One call. -/
abbrev siteCall (op : SiteOp lib) : Program (siteSignature lib) ((siteSignature lib).Reply op) :=
  Program.perform (S := siteSignature lib) op

/-- How the machine and the server answer. Calls of one leave the other alone. -/
def SiteAnswers : Environment (siteSignature lib) (Site lib) :=
  fun op site reply next =>
    match op, reply with
    | .inbox op, reply =>
        World.assuming (fun _ _ _ => True) op site.world reply next.world ∧
          next.files = site.files
    | .ssh op, reply => SshAnswers op site.files reply next.files ∧ next.world = site.world
    | .writeFile file bytes, .ok count =>
        next.files = site.files.taken (bytes.take count) ∧
          next.world = site.world.withDirectory
            (site.world.directory.append file (bytes.take count))
    | .writeFile .., .error _ => next = site

/-! ## The programs -/

/-- A call of the client whose writer is a local file. -/
def clientCall (file : Nat) :
    (op : SshOp lib) → Program (siteSignature lib) ((sshSignature lib).Reply op)
  | .writeLocal bytes => siteCall (.writeFile file bytes)
  | op => siteCall (.ssh op)

/-- A call of the receiver, with its inbox in place. -/
def inboxCall (fuel : Nat) (config : SftpConfig) (credentials : SftpCredentials) :
    (op : InboxOp) →
      Program (siteSignature lib) ((inboxSignature (SftpInboxError lib)).Reply op)
  | .download object file =>
      (download fuel config credentials object).run.substitute (clientCall file)
  | .delete object =>
      (delete config credentials object).run.substitute fun op => siteCall (.ssh op)
  | op => siteCall (.inbox op)

/-- `ReconciliationPoller::poll_once` with `Ssh2RemoteInbox` as its inbox. -/
def pollSite {ξ : Type} (parsers : ResultParsers ξ) (fuel : Nat) (config : SftpConfig)
    (credentials : SftpCredentials) :
    ExceptT (PollError (SftpInboxError lib)) (Program (siteSignature lib))
      (List (PollAttempt (SftpInboxError lib) ξ)) := ExceptT.mk do
  let listed ← (list config credentials).run.substitute fun op => siteCall (.ssh op)
  (pollOnce parsers fuel listed).run.substitute (inboxCall fuel config credentials)

/-! ## The receiver's own calls -/

/-- The worlds differ at most in their logs and in which files are synchronized. -/
structure Alike {ε : Type} (world other : World ε) : Prop where
  entry : other.directory.entry = world.directory.entry
  next : other.directory.next = world.directory.next
  bytes : ∀ inode, (other.directory.file inode).bytes = (world.directory.file inode).bytes
  processId : other.processId = world.processId
  nextTempId : other.nextTempId = world.nextTempId

section Alike

variable {ε : Type} {world other : World ε}

theorem Alike.refl (world : World ε) : Alike world world :=
  ⟨rfl, rfl, fun _ => rfl, rfl, rfl⟩

theorem Alike.trans {third : World ε} (h : Alike world other)
    (hother : Alike other third) : Alike world third :=
  ⟨hother.entry.trans h.entry, hother.next.trans h.next,
    fun inode => (hother.bytes inode).trans (h.bytes inode),
    hother.processId.trans h.processId, hother.nextTempId.trans h.nextTempId⟩

/-- Worlds that are alike have the same files. -/
theorem Alike.read (h : Alike world other) (name : String) :
    other.directory.read name = world.directory.read name := by
  unfold Directory.read
  rw [h.entry]
  exact congrArg (Option.map · _) (funext fun found => h.bytes found.inode)

/-- Another directory on both sides. -/
theorem Alike.withDirectory (h : Alike world other) {directory changed : Directory}
    (hentry : changed.entry = directory.entry) (hnext : changed.next = directory.next)
    (hbytes : ∀ inode, (changed.file inode).bytes = (directory.file inode).bytes) :
    Alike (world.withDirectory directory) (other.withDirectory changed) :=
  ⟨hentry, hnext, hbytes, h.processId, h.nextTempId⟩

/-- Files with the same bytes stay so when both get the same bytes. -/
theorem bytes_update {file changed : Nat → File} {inode : Nat} {value value' : File}
    (h : ∀ inode, (changed inode).bytes = (file inode).bytes) (hvalue : value'.bytes = value.bytes)
    (other : Nat) :
    (Function.update changed inode value' other).bytes =
      (Function.update file inode value other).bytes := by
  by_cases hother : other = inode
  · subst hother
    rw [Function.update_self, Function.update_self, hvalue]
  · rw [Function.update_of_ne hother, Function.update_of_ne hother, h other]

/-- Bytes are written to one file on both sides. -/
theorem Alike.append (h : Alike world other) (file : Nat)
    (bytes : List UInt8) :
    Alike (world.withDirectory (world.directory.append file bytes))
      (other.withDirectory (other.directory.append file bytes)) := by
  refine h.withDirectory h.entry h.next (bytes_update h.bytes ?_)
  exact congrArg (· ++ bytes) (h.bytes file)

/-- Writing nothing changes nothing. -/
theorem alike_append_nil (world : World ε) (file : Nat) :
    Alike (world.withDirectory (world.directory.append file [])) world := by
  refine ⟨rfl, rfl, fun inode => ?_, rfl, rfl⟩
  show _ = (Function.update world.directory.file file _ inode).bytes
  by_cases hinode : inode = file
  · subst hinode
    rw [Function.update_self, List.append_nil]
  · rw [Function.update_of_ne hinode]

/-- Two writes are like one of both. -/
theorem alike_append_append (world : World ε) (file : Nat) (bytes more : List UInt8) :
    Alike (world.withDirectory (world.directory.append file (bytes ++ more)))
      (world.withDirectory ((world.directory.append file bytes).append file more)) := by
  refine ⟨rfl, rfl, fun inode => ?_, rfl, rfl⟩
  show (Function.update (Function.update world.directory.file file _) file _ inode).bytes =
    (Function.update world.directory.file file _ inode).bytes
  rw [Function.update_idem]
  refine bytes_update (fun _ => rfl) ?_ inode
  show (Function.update world.directory.file file _ file).bytes ++ more = _ ++ (bytes ++ more)
  rw [Function.update_self, List.append_assoc]

/-- A log changes nothing else. -/
theorem Alike.logged (h : Alike world other) (call : RemoteCall ε) :
    Alike (world.logged call) other :=
  ⟨h.entry, h.next, h.bytes, h.processId, h.nextTempId⟩

/-- The replies and the worlds that two calls leave behind. -/
def AlikeResults {α : Type} (result other : α × World ε) : Prop :=
  other.1 = result.1 ∧ Alike result.2 other.2

/-- A fault is the same for both. -/
theorem Alike.unlessFault {α : Type} (h : Alike world other) (fault : Fault)
    {result changed : Except IoError α × World ε} (hresult : AlikeResults result changed) :
    AlikeResults (world.unlessFault fault result) (other.unlessFault fault changed) := by
  cases fault with
  | some code => exact ⟨rfl, h⟩
  | none => exact hresult

/-- A file is created in both or in neither. -/
theorem Alike.createNew (h : Alike world other) (path : String) :
    AlikeResults (world.createNew path) (other.createNew path) := by
  unfold World.createNew
  rw [h.entry]
  cases world.directory.entry path with
  | some found => exact ⟨rfl, h⟩
  | none =>
      refine ⟨congrArg Except.ok h.next, h.withDirectory ?_ (congrArg (· + 1) h.next) ?_⟩
      · show Function.update other.directory.entry path _ = Function.update _ path _
        rw [h.entry, h.next]
      · show ∀ inode, (Function.update other.directory.file _ _ inode).bytes = _
        rw [h.next]
        exact bytes_update h.bytes rfl

theorem Alike.removeFile (h : Alike world other) (path : String) :
    AlikeResults (world.removeFile path) (other.removeFile path) := by
  unfold World.removeFile
  rw [h.entry]
  cases world.directory.entry path with
  | none => exact ⟨rfl, h⟩
  | some found =>
      refine ⟨rfl, h.withDirectory ?_ h.next h.bytes⟩
      show Function.update other.directory.entry path none = Function.update _ path none
      rw [h.entry]

/-- A file that is not there cannot be linked. -/
theorem hardLink_eq_none {source destination : String}
    (hsource : world.directory.entry source = none) :
    world.hardLink source destination = (.error .notFound, world) := by
  unfold World.hardLink
  split
  · rfl
  · next found hfound => cases hfound.symm.trans hsource

theorem Alike.hardLink (h : Alike world other) (source destination : String) :
    AlikeResults (world.hardLink source destination) (other.hardLink source destination) := by
  cases hsource : world.directory.entry source with
  | none =>
      have hother : other.directory.entry source = none := by rw [h.entry, hsource]
      rw [hardLink_eq_none hsource, hardLink_eq_none hother]
      exact ⟨rfl, h⟩
  | some found =>
      have hother : other.directory.entry source = some found := by rw [h.entry, hsource]
      rw [hardLink_eq hsource, hardLink_eq hother, h.entry]
      split_ifs
      · refine ⟨rfl, h.withDirectory ?_ h.next h.bytes⟩
        show Function.update other.directory.entry destination _ = Function.update _ destination _
        rw [h.entry]
      · exact ⟨rfl, h⟩

theorem Alike.lookup (h : Alike world other) (path : String) {reply reply' : Nat → Nat}
    (hreply : reply' = reply) :
    AlikeResults (world.lookup path reply) (other.lookup path reply') := by
  unfold World.lookup
  rw [h.entry, hreply]
  cases world.directory.entry path with
  | none => exact ⟨rfl, h⟩
  | some found => exact ⟨rfl, h⟩

/-- A call that the client carries out. -/
def IsRemote : InboxOp → Prop
  | .download .. | .delete _ => True
  | _ => False

/-- What the receiver asks its own machine is answered alike. -/
theorem Alike.respond (h : Alike world other) {op : InboxOp} (hremote : ¬ IsRemote op)
    (choice : World.Choice ε op) :
    AlikeResults (World.respond op choice world) (World.respond op choice other) := by
  cases op with
  | download | delete => exact absurd trivial hremote
  | fetchAddTempId =>
      exact ⟨h.nextTempId, h.entry, h.next, h.bytes, h.processId, congrArg (· + 1) h.nextTempId⟩
  | processId => exact ⟨h.processId, h⟩
  | flush | openDirectory => exact h.unlessFault choice ⟨rfl, h⟩
  | createNew path => exact h.unlessFault choice (h.createNew path)
  | removeFile path => exact h.unlessFault choice (h.removeFile path)
  | hardLink source destination => exact h.unlessFault _ (h.hardLink source destination)
  | openFile path => exact h.unlessFault choice (h.lookup path rfl)
  | pathMetadata path =>
      refine h.unlessFault choice (h.lookup path (funext fun inode => ?_))
      rw [h.bytes]
  | metadata file =>
      exact h.unlessFault choice ⟨congrArg (Except.ok ∘ List.length) (h.bytes file), h⟩
  | read file position bufferLength =>
      refine h.unlessFault choice.1 ⟨?_, h⟩
      rw [h.bytes]
  | syncAll file =>
      refine h.unlessFault choice ⟨rfl, h.withDirectory h.entry h.next ?_⟩
      exact bytes_update h.bytes (h.bytes file)
  | syncDirectory =>
      refine h.unlessFault choice ⟨rfl, h.withDirectory ?_ h.next h.bytes⟩
      exact congrArg (fun entry name => (entry name).map fun found : Entry =>
        { found with synced := true }) h.entry

end Alike

end TwEinvoice.Sftp
