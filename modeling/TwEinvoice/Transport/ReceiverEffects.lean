import TwEinvoice.Transport.ReceiverRules

/-!
# What one object costs

The remote calls of one call of `receive` and what it does to each file of the inbox, whatever
the remote inbox answers and whichever calls fail. Only the temporary file may be left over, and
only if its removal fails.
-/

namespace TwEinvoice.Transport

open Effects Storage

variable {ε : Type} {assume : (op : InboxOp) → World.Choice ε op → World ε → Prop}

/-- A download that passes the checks of `receive`. -/
structure Complete (object : RemoteObject) (bytes : List UInt8) : Prop where
  nonempty : bytes ≠ []
  size : bytes.length = object.size.toNat

theorem Complete.length_lt {object : RemoteObject} {bytes : List UInt8}
    (h : Complete object bytes) : bytes.length < 2 ^ 64 :=
  h.size ▸ object.size.toNat_lt

/-- The last remote call is a complete download of the object, and the directory has its bytes
under the object's name. -/
def DeleteJustified (object : RemoteObject) (world : World ε) : Prop :=
  ∃ earlier bytes, world.remote = earlier ++ [.download object bytes (.ok ())] ∧
    Complete object bytes ∧ world.directory.read object.name = some bytes

/-- `delete` is called for these objects only, and only when it is justified. -/
def DeletesOnly (objects : List RemoteObject) (op : InboxOp) (world : World ε) : Prop :=
  ∀ object, op = .delete object → object ∈ objects ∧ DeleteJustified object world

/-- Local calls delete nothing from the server. -/
theorem permitsAt_deletesOnly (objects : List RemoteObject) (directory : Directory) :
    PermitsAt (DeletesOnly objects : InboxOp → World ε → Prop) directory :=
  fun _ _ hop _ object hdelete => absurd hdelete (hop object)

/-- The remote calls of one call of `receive`. -/
inductive ReceiveCalls (object : RemoteObject) :
    List (RemoteCall ε) → Except (ReceiveError ε) ReceiveOutcome → Prop where
  | none (error) : ReceiveCalls object [] (.error error)
  | downloaded (bytes reply error) :
      ReceiveCalls object [.download object bytes reply] (.error error)
  | deleted {bytes outcome} : Complete object bytes → outcome.durablePath = object.name →
      ReceiveCalls object [.download object bytes (.ok ()), .delete object (.ok ())] (.ok outcome)
  | undeleted {bytes error} : Complete object bytes →
      ReceiveCalls object [.download object bytes (.ok ()), .delete object (.error error)]
        (.error (.remote .delete error))

/-- With both calls made, the reply to the second decides. -/
theorem ReceiveCalls.of_reply {object : RemoteObject} {bytes : List UInt8}
    {outcome : ReceiveOutcome} (hcomplete : Complete object bytes)
    (hpath : outcome.durablePath = object.name) (reply : Except ε Unit) :
    ReceiveCalls object [.download object bytes (.ok ()), .delete object reply]
      ((reply.map fun _ => outcome).mapError (.remote .delete)) := by
  cases reply with
  | ok _ => exact .deleted hcomplete hpath
  | error error => exact .undeleted hcomplete

/-- Under the name is the file from before, or it is a new file with a complete download of the
object of this name. -/
def FileAfter (object : RemoteObject) (calls : List (RemoteCall ε)) (before after : Directory)
    (name : String) : Prop :=
  after.read name = before.read name ∨
    name = object.name ∧ before.read name = none ∧
      ∃ bytes, after.read name = some bytes ∧ Complete object bytes ∧
        .download object bytes (.ok ()) ∈ calls

/-- More calls may explain a file. -/
theorem FileAfter.mono {object : RemoteObject} {calls more : List (RemoteCall ε)}
    {before after : Directory} {name : String} (h : FileAfter object calls before after name)
    (hcalls : calls ⊆ more) : FileAfter object more before after name := by
  rcases h with hsame | ⟨hname, hnone, bytes, hread, hcomplete, hmem⟩
  · exact .inl hsame
  · exact .inr ⟨hname, hnone, bytes, hread, hcomplete, hcalls hmem⟩

/-- What one call of `receive` does. A temporary file may be left over. -/
structure ReceiveEffect (object : RemoteObject) (before : World ε) (leftover : Option String)
    (result : Except (ReceiveError ε) ReceiveOutcome) (after : World ε) : Prop where
  process : after.processId = before.processId
  files : ∃ calls, after.remote = before.remote ++ calls ∧ ReceiveCalls object calls result ∧
    ∀ name, leftover ≠ some name → FileAfter object calls before.directory after.directory name
  loadable : ∀ outcome bytes, result = .ok outcome →
    after.directory.read object.name = some bytes → Complete object bytes

/-- Removing the temporary file restores its name. -/
theorem ReceiveEffect.remove {object : RemoteObject} {before middle : World ε} {path : String}
    {result : Except (ReceiveError ε) ReceiveOutcome}
    (h : ReceiveEffect object before (some path) result middle)
    (hpath : before.directory.entry path = none) :
    ReceiveEffect object before none result
      (middle.withDirectory (middle.directory.remove path)) := by
  obtain ⟨calls, hremote, hcalls, hfiles⟩ := h.files
  refine ⟨h.process, ⟨calls, hremote, hcalls, fun name _ => ?_⟩, fun outcome bytes hok hread => ?_⟩
  · by_cases hname : name = path
    · subst hname
      left
      show (middle.directory.remove name).read name = before.directory.read name
      rw [Directory.read_remove_self, Directory.read_eq_none.2 hpath]
    · have hfile := hfiles name fun heq => hname (Option.some.inj heq).symm
      simpa [FileAfter, Directory.read_remove_of_ne hname] using hfile
  · have hname : object.name ≠ path := by
      rintro rfl
      rw [World.withDirectory_directory, Directory.read_remove_self] at hread
      cases hread
    rw [World.withDirectory_directory, Directory.read_remove_of_ne hname] at hread
    exact h.loadable outcome bytes hok hread

/-- What is written to a new file is not seen under other names. -/
theorem read_written {directory : Directory} {path name : String} (h : name ≠ path)
    (bytes : List UInt8) :
    ((directory.create path).append directory.next bytes).read name = directory.read name := by
  rw [Directory.read_append_of_ne, Directory.read_create_of_ne h]
  intro found hfound
  rw [show (directory.create path).entry name = directory.entry name from
    Function.update_of_ne h _ _] at hfound
  exact Nat.ne_of_lt (directory.entry_lt name found hfound)

theorem read_created_received {before : World ε} {path name : String} (h : name ≠ path)
    (id : UInt64) (object : RemoteObject) (bytes : List UInt8) :
    ((before.created id path).received object before.directory.next bytes).directory.read name =
      before.directory.read name := by
  show (((before.directory.create path).append before.directory.next bytes).sync
    before.directory.next).read name = _
  rw [Directory.read_sync, read_written h]

/-- The hard link of a complete download adds the object's name, and no other. -/
theorem fileAfter_link {object : RemoteObject} {before : World ε} {path name : String}
    {bytes : List UInt8} (id : UInt64) (hcomplete : Complete object bytes) (hname : name ≠ path)
    (hfree : (before.created id path).directory.entry object.name = none)
    (hfound : before.directory.next < ((before.created id path).received object
      before.directory.next bytes).directory.next) :
    FileAfter object [.download object bytes (.ok () : Except ε Unit)] before.directory
      (((before.created id path).received object before.directory.next bytes).directory.link
        ⟨before.directory.next, false, false⟩ hfound object.name) name := by
  by_cases hobject : name = object.name
  · subst hobject
    refine .inr ⟨rfl, Directory.read_eq_none.2 ?_, bytes, ?_, hcomplete, List.mem_singleton.2 rfl⟩
    · exact (Function.update_of_ne hname _ _).symm.trans hfree
    · rw [Directory.read_link_self, received_bytes (created_bytes id path)]
  · left
    rw [Directory.read_link_of_ne hobject, read_created_received hname]

/-- Once the directory has the complete download under the object's name, `delete` is called and
its reply is the result. -/
theorem ReceiveEffect.of_delete {object : RemoteObject} {before middle : World ε} {path : String}
    {bytes : List UInt8} {outcome : ReceiveOutcome}
    (hprocess : middle.processId = before.processId)
    (hremote : middle.remote = before.remote ++ [.download object bytes (.ok ())])
    (hcomplete : Complete object bytes) (hread : middle.directory.read object.name = some bytes)
    (hpath : outcome.durablePath = object.name)
    (hfiles : ∀ name ≠ path, FileAfter object [.download object bytes (.ok () : Except ε Unit)]
      before.directory middle.directory name) :
    DeletesOnly [object] (.delete object) middle ∧
      ∀ reply, ReceiveEffect object before (some path)
        ((reply.map fun _ => outcome).mapError (.remote .delete))
        (middle.logged (.delete object reply)) := by
  refine ⟨fun other hother => ?_, fun reply => ⟨hprocess, ⟨[.download object bytes (.ok ()),
    .delete object reply], ?_, .of_reply hcomplete hpath reply, fun name hname => ?_⟩, ?_⟩⟩
  · cases hother
    exact ⟨List.mem_singleton.2 rfl, before.remote, bytes, hremote, hcomplete, hread⟩
  · rw [World.logged_remote, hremote, List.append_assoc]
    rfl
  · have hother : name ≠ path := fun heq => hname (by rw [heq])
    exact (hfiles name hother).mono (by simp)
  · intro value found _ hfile
    cases hread.symm.trans hfile
    exact hcomplete

/-- With the temporary file in scope. -/
theorem must_receiveInto_effect {object : RemoteObject} {before : World ε} (fuel : Nat)
    (path : String) (id : UInt64) :
    Must (World.assuming assume) (DeletesOnly [object])
      (receiveInto fuel object ⟨path, before.directory.next⟩).run
      (ReceiveEffect object before (some path)) (before.created id path) := by
  refine must_receiveInto (fun _ => True) fuel (created_entry id path) (created_bytes id path)
    (fun directory _ => permitsAt_deletesOnly [object] directory) trivial (fun _ => trivial)
    (fun _ => trivial) (fun _ _ => trivial) ?_ ?_ ?_ ?_
  · -- The download failed, or it was not complete.
    rintro error final ⟨bytes, reply, hremote, hprocess, hdirectory⟩
    refine ⟨hprocess, ⟨_, hremote, .downloaded bytes reply error, fun name hname => .inl ?_⟩,
      fun _ _ hok => by cases hok⟩
    have hother : name ≠ path := fun heq => hname (by rw [heq])
    rcases hdirectory with hdirectory | hdirectory
    · rw [hdirectory]
      exact read_written hother bytes
    · rw [hdirectory, Directory.read_sync]
      exact read_written hother bytes
  · -- The directory could not be synchronized.
    intro _ bytes hfound error hbytes hsize hunlinked
    refine ⟨rfl, ⟨[.download object bytes (.ok ())], rfl, .downloaded bytes _ error, ?_⟩,
      fun _ _ hok => by cases hok⟩
    intro name hname
    exact fileAfter_link id ⟨hbytes, hsize⟩ (fun heq => hname (by rw [heq])) hunlinked hfound
  · -- The download was published.
    intro bytes hfound hbytes hsize hunlinked
    refine ReceiveEffect.of_delete rfl rfl ⟨hbytes, hsize⟩ ?_ rfl fun name hname => ?_
    · simp [World.published, received_bytes (created_bytes id path)]
    · have hfile := fileAfter_link id ⟨hbytes, hsize⟩ hname hunlinked hfound
      simpa [FileAfter, World.published] using hfile
  · -- The bytes were there already.
    intro bytes existing hbytes hsize hleft hright _
    refine ReceiveEffect.of_delete rfl rfl ⟨hbytes, hsize⟩ ?_ rfl fun name hname => ?_
    · exact hright.trans (hleft.symm.trans (created_received_read id path object bytes))
    · exact .inl (read_created_received hname id object bytes)

/-- Some removal of the file may fail. -/
def MayRemain (assume : (op : InboxOp) → World.Choice ε op → World ε → Prop) (path : String) :
    Prop :=
  ∃ code world, assume (.removeFile path) (some code) world

/-- Every call of `receive`. -/
theorem must_receive_effect (fuel : Nat) (object : RemoteObject) (before : World ε) :
    Must (World.assuming assume) (DeletesOnly [object]) (receive fuel object).run
      (fun result after => ∃ leftover, ReceiveEffect object before leftover result after ∧
        ∀ path, leftover = some path → MayRemain assume path) before := by
  have hnone : ∀ error after, after.processId = before.processId →
      after.remote = before.remote → after.directory = before.directory →
      ∃ leftover, ReceiveEffect object before leftover (.error error) after ∧
        ∀ path, leftover = some path → MayRemain assume path := by
    intro error after hprocess hremote hdirectory
    refine ⟨none, ⟨hprocess, ⟨[], by simp [hremote], .none error, fun name _ => ?_⟩,
      fun _ _ hok => by cases hok⟩, fun _ hpath => by cases hpath⟩
    rw [hdirectory]
    exact .inl rfl
  refine must_receive fuel (permitsAt_deletesOnly [object] _) ?_ ?_ fun path id hnext => ?_
  · exact fun error => hnone error before rfl rfl rfl
  · exact fun error id => hnone error _ rfl rfl rfl
  · obtain ⟨_, _, hfree, _⟩ := hnext
    refine (must_receiveInto_effect fuel path id).mono fun result middle heffect => ?_
    refine ⟨permitsAt_deletesOnly [object] _, fun code hassume => ?_, ?_⟩
    · refine ⟨some path, heffect, fun other hother => ?_⟩
      cases hother
      exact ⟨code, middle, hassume⟩
    · exact ⟨none, heffect.remove hfree, fun _ hother => by cases hother⟩

end TwEinvoice.Transport
