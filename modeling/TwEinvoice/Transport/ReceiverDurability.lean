import TwEinvoice.Effects.Restart
import TwEinvoice.Effects.Substitution
import TwEinvoice.Transport.ReceiverRules

/-!
# Durability before the remote deletion

A receiver process works through objects, is killed between two calls and is started again with
a new process ID and a new counter. A fresh publication is always durable before `delete`. A
copy that `receive` finds under the object's name need not be: nothing synchronizes the
directory on that path, so the copy is as durable as an earlier attempt left it.
`delete_after_durable` proves the order for the runs that only ever find durable entries,
`settled_delete_after_durable` for those without a fault or a kill between a hard link and its
synchronization, and `delete_before_durable` is a run that finds another entry.
-/

namespace TwEinvoice.Transport

open Effects Storage

variable {ε : Type}

/-- A hard link onto an existing name of the same bytes meets an entry that a hard link made and
that was synchronized with the directory since. -/
def FindsDurable : (op : InboxOp) → World.Choice ε op → World ε → Prop
  | .hardLink source destination, fault, world =>
      ∀ found, fault = none → world.directory.entry destination = some found →
        world.directory.read source = world.directory.read destination →
        found.linked ∧ found.synced
  | _, _, _ => True

/-- Hard links are synchronized at every call, and the local copy is durable at each `delete`. -/
def DeletesDurable (op : InboxOp) (world : World ε) : Prop :=
  world.directory.LinksSynced ∧
    ∀ object, op = .delete object → world.directory.CrashDurable object.name

/-- A directory whose links are synchronized permits every deletion. -/
theorem permitsAt_of_linksSynced {directory : Directory} (h : directory.LinksSynced) :
    PermitsAt (DeletesDurable : InboxOp → World ε → Prop) directory := by
  rintro op world hop rfl
  exact ⟨h, fun object hdelete => absurd hdelete (hop object)⟩

/-- The directory after the creation of a temporary file has no hard link to it. -/
theorem created_inode_ne {directory : Directory} {path name : String} {found : Entry}
    (hfound : (directory.create path).entry name = some found) (hlinked : found.linked) :
    found.inode ≠ directory.next := by
  by_cases hname : name = path
  · subst hname
    simp only [Directory.create, Function.update_self, Option.some.injEq] at hfound
    subst hfound
    exact absurd hlinked Bool.false_ne_true
  · simp only [Directory.create, Function.update_of_ne hname] at hfound
    exact Nat.ne_of_lt (directory.entry_lt name found hfound)

section Receive

variable {assume : (op : InboxOp) → World.Choice ε op → World ε → Prop}
variable {object : RemoteObject} {initial : World ε}

/-- The world once the bytes are downloaded into a new temporary file. -/
abbrev World.fetched (initial : World ε) (id : UInt64) (path : String) (object : RemoteObject)
    (bytes : List UInt8) : World ε :=
  (initial.created id path).received object initial.directory.next bytes

/-- Before the deletion, a copy that is found under the object's name is a durable entry. -/
def FindsCopies (assume : (op : InboxOp) → World.Choice ε op → World ε → Prop)
    (object : RemoteObject) (initial : World ε) (path : String) : Prop :=
  ∀ id bytes existing,
    (initial.fetched id path object bytes).directory.read path = some existing →
    (initial.fetched id path object bytes).directory.read object.name = some existing →
    assume (.hardLink path object.name) none (initial.fetched id path object bytes) →
    ∃ found, (initial.fetched id path object bytes).directory.entry object.name = some found ∧
      found.linked ∧ found.synced

/-- With the temporary file in scope. -/
theorem must_receiveInto_durable (fuel : Nat) (path : String) (id : UInt64)
    (hsynced : initial.directory.LinksSynced) (hfinds : FindsCopies assume object initial path) :
    Must (World.assuming assume) DeletesDurable
      (receiveInto fuel object ⟨path, initial.directory.next⟩).run
      (fun _ final => final.directory.LinksSynced) (initial.created id path) := by
  have hempty := @created_bytes _ initial id path
  have hentry := @created_entry _ initial id path
  have hcreated : (initial.created id path).directory.LinksSynced := hsynced.create path
  have happend : ∀ bytes, ((initial.created id path).directory.append initial.directory.next
      bytes).LinksSynced := by
    intro bytes
    exact hcreated.append (fun name found hfound hlinked => created_inode_ne hfound hlinked) bytes
  have hsync : ∀ bytes, (initial.fetched id path object bytes).directory.LinksSynced :=
    fun bytes => (happend bytes).sync _
  have hlink : ∀ bytes hfound, ((initial.fetched id path object bytes).directory.link
      ⟨initial.directory.next, false, false⟩ hfound object.name).LinksSynced := by
    intro bytes hfound
    refine (hsync bytes).link hfound ?_ object.name
    simp [World.received, Directory.sync]
  refine must_receiveInto Directory.LinksSynced fuel hentry hempty
    (fun _ h => permitsAt_of_linksSynced h) hcreated happend hsync hlink
    (fun _ _ hunpublished => hunpublished.directory happend hsync)
    (fun _ bytes hfound _ _ _ _ => hlink bytes hfound) ?_ ?_
  · intro bytes hfound _ _ _
    have hdirectory := (hlink bytes hfound).syncEntries
    refine ⟨⟨hdirectory, fun other hdelete => ?_⟩, fun _ => hdirectory⟩
    cases hdelete
    -- The deletion follows the sync of the file and that of the directory.
    have hpublished : ((initial.fetched id path object bytes).published
        ⟨initial.directory.next, false, false⟩ hfound object.name).directory.entry object.name =
        some ⟨initial.directory.next, true, true⟩ := by
      simp [World.published, Directory.syncEntries, Directory.link]
    exact hdirectory.crashDurable hpublished rfl rfl
  · intro bytes existing _ _ hleft hright hassume
    refine ⟨⟨hsync bytes, fun other hdelete => ?_⟩, fun _ => hsync bytes⟩
    cases hdelete
    -- The name holds the same bytes already, in an entry that is durable.
    obtain ⟨found, hfound, hlinked, hentries⟩ := hfinds id bytes existing hleft hright hassume
    exact (hsync bytes).crashDurable hfound hlinked hentries

/-- One call of `receive`. -/
theorem must_receive_durable (fuel : Nat) (hsynced : initial.directory.LinksSynced)
    (hfinds : ∀ path, NextIncomingName initial path → FindsCopies assume object initial path) :
    Must (World.assuming assume) DeletesDurable (receive fuel object).run
      (fun _ final => final.directory.LinksSynced) initial := by
  refine must_receive fuel (permitsAt_of_linksSynced hsynced) (fun _ => hsynced)
    (fun _ _ => hsynced) fun path id hnext => ?_
  refine (must_receiveInto_durable fuel path id hsynced (hfinds path hnext)).mono
    fun _ middle hmiddle => ?_
  exact ⟨permitsAt_of_linksSynced hmiddle, fun _ _ => hmiddle, hmiddle.remove path⟩

/-- A run that only finds durable entries finds durable copies. -/
theorem findsCopies_of_findsDurable (path : String) :
    FindsCopies FindsDurable object initial path := by
  intro id bytes existing hleft hright hfinds
  obtain ⟨found, hfound, _⟩ := Option.map_eq_some_iff.1 hright
  exact ⟨found, hfound, hfinds found rfl hfound (hleft.trans hright.symm)⟩

/-- Where only lasting names are settled, a lasting object has settled copies. -/
theorem findsCopies_of_settled (hsettled : initial.directory.Settled IsIncomingName)
    (hobject : ¬ IsIncomingName object.name) {path : String} (hpath : IsIncomingName path) :
    FindsCopies assume object initial path := by
  intro id bytes existing _ hright _
  obtain ⟨found, hfound, _⟩ := Option.map_eq_some_iff.1 hright
  exact ⟨found, hfound, hsettled.create hpath object.name found hobject hfound⟩

/-- While synchronizations of the directory succeed, an attempt leaves settled entries. -/
theorem must_receive_settled (fuel : Nat) (hassume : ¬ MayNotSync assume)
    (hsettled : initial.directory.Settled IsIncomingName) :
    Must (World.assuming assume) (fun _ _ => True) (receive fuel object).run
      (fun _ final => final.directory.Settled IsIncomingName) initial := by
  have hquiet : ∀ directory, PermitsAt (fun _ _ => True : InboxOp → World ε → Prop) directory :=
    fun _ _ _ _ _ => trivial
  refine must_receive fuel (hquiet _) (fun _ => hsettled) (fun _ _ => hsettled)
    fun path id hnext => ?_
  have hcreated : (initial.directory.create path).Settled IsIncomingName :=
    hsettled.create hnext.isIncomingName
  have hbody : Must (World.assuming assume) (fun _ _ => True)
      (receiveInto fuel object ⟨path, initial.directory.next⟩).run
      (fun _ final => final.directory.Settled IsIncomingName) (initial.created id path) := by
    refine must_receiveInto (fun _ => True) fuel (created_entry id path) (created_bytes id path)
      (fun directory _ => hquiet directory) trivial (fun _ => trivial) (fun _ => trivial)
      (fun _ _ => trivial) (fun _ _ hunpublished => ?_) (fun hmay => absurd hmay hassume) ?_ ?_
    · -- Writing and synchronizing the file touches no entry.
      exact hunpublished.directory (fun _ => hcreated) fun _ => hcreated
    · exact fun bytes hfound _ _ _ => ⟨trivial, fun _ => hcreated.published hfound object.name⟩
    · exact fun bytes _ _ _ _ _ _ => ⟨trivial, fun _ => hcreated⟩
  exact hbody.mono fun _ middle hmiddle =>
    ⟨hquiet _, fun _ _ => hmiddle, hmiddle.remove path⟩

end Receive

/-! ## Runs of many attempts -/

/-- An attempt to receive some object. -/
def Attempt (program : Program (inboxSignature ε) (Except (ReceiveError ε) ReceiveOutcome)) :
    Prop :=
  ∃ fuel object, program = (receive fuel object).run

/-- A new process has another ID and its own counter of temporary names. -/
def NewProcess (world next : World ε) : Prop :=
  ∃ processId, next = { world with processId, nextTempId := 0 }

/-- In every run of attempts from the empty inbox that finds only durable entries, the local
copy of an object is durable whenever `delete` is called for it. -/
theorem delete_after_durable (processId : UInt32) (object : RemoteObject)
    (next : Except ε Unit →
      Program (inboxSignature ε) (Except (ReceiveError ε) ReceiveOutcome))
    (world : World ε)
    (hreach : ProcessReachable (World.assuming FindsDurable) Attempt NewProcess
      ⟨.empty, processId, 0, []⟩ ⟨some (.call (.delete object) next), world⟩) :
    world.directory.CrashDurable object.name := by
  have hpermits : DeletesDurable (.delete object) world := by
    refine ProcessReachable.permits_call DeletesDurable
      (fun world => world.directory.LinksSynced) ?_ ?_ ?_ Directory.linksSynced_empty hreach
    · rintro program state ⟨fuel, object, rfl⟩ hsynced
      exact must_receive_durable fuel hsynced fun path _ => findsCopies_of_findsDurable path
    · rintro op state final hdeletes ⟨_, rfl⟩
      exact hdeletes.1
    · rintro state final ⟨_, rfl⟩ hsynced
      exact hsynced
  exact hpermits.2 object rfl

/-- Calls that synchronize the directory meet no fault. -/
def SyncsDirectory : (op : InboxOp) → World.Choice ε op → World ε → Prop
  | .openDirectory, fault, _ | .syncDirectory, fault, _ => fault = none
  | _, _, _ => True

/-- An attempt to receive an object whose name is not a temporary one. -/
def LastingAttempt
    (program : Program (inboxSignature ε) (Except (ReceiveError ε) ReceiveOutcome)) : Prop :=
  ∃ fuel object, ¬ IsIncomingName object.name ∧ program = (receive fuel object).run

/-- A process that has published is not killed before the directory is synchronized. -/
def NewSettledProcess (world next : World ε) : Prop :=
  world.directory.Settled IsIncomingName ∧ NewProcess world next

theorem not_mayNotSync : ¬ MayNotSync (@SyncsDirectory ε) := by
  rintro ⟨code, world, hopen | hsync⟩
  · cases hopen
  · cases hsync

/-- Without a fault or a kill between a hard link and the synchronization of the directory, the
local copy of an object is durable whenever `delete` is called for it. -/
theorem settled_delete_after_durable (processId : UInt32) (object : RemoteObject)
    (next : Except ε Unit →
      Program (inboxSignature ε) (Except (ReceiveError ε) ReceiveOutcome))
    (world : World ε)
    (hreach : ProcessReachable (World.assuming SyncsDirectory) LastingAttempt NewSettledProcess
      ⟨.empty, processId, 0, []⟩ ⟨some (.call (.delete object) next), world⟩) :
    world.directory.CrashDurable object.name := by
  have hpermits : DeletesDurable (.delete object) world := by
    refine ProcessReachable.permits_call DeletesDurable
      (fun world => world.directory.LinksSynced ∧ world.directory.Settled IsIncomingName) ?_ ?_ ?_
      ⟨Directory.linksSynced_empty, Directory.settled_empty⟩ hreach
    · rintro program state ⟨fuel, object, hobject, rfl⟩ ⟨hsynced, hsettled⟩
      refine (must_receive_durable fuel hsynced fun path hnext => ?_).and
        (must_receive_settled fuel not_mayNotSync hsettled)
      exact findsCopies_of_settled hsettled hobject hnext.isIncomingName
    · rintro op state final hdeletes ⟨hsettled, _, rfl⟩
      exact ⟨hdeletes.1, hsettled⟩
    · rintro state final ⟨_, _, rfl⟩ hinvariant
      exact hinvariant
  exact hpermits.2 object rfl

/-! ## Sample runs -/

/-- Choices for an object of these bytes, with one possible fault: opening the directory. -/
def choicesFor (bytes : List UInt8) (directoryFault : Fault) :
    (op : InboxOp) → World Unit → World.Choice Unit op
  | .fetchAddTempId, _ | .processId, _ => ()
  | .download .., _ => (bytes, .ok ())
  | .delete _, _ => .ok ()
  | .read .., _ => (none, bufferLength)
  | .openDirectory, _ => directoryFault
  | .createNew _, _ | .openFile _, _ | .metadata _, _ | .pathMetadata _, _ | .flush _, _
  | .syncAll _, _ | .hardLink .., _ | .syncDirectory, _ | .removeFile _, _ => (none : Fault)

/-- The object of the run below. -/
def sampleObject : RemoteObject := ⟨"ProcessResult.xml", 1⟩

/-- The same choices without a fault, with this reply to the deletion. A hard link onto an entry
that is not synchronized fails. -/
def durableChoices (deleted : Except Unit Unit) :
    (op : InboxOp) → World Unit → World.Choice Unit op
  | .delete _, _ => deleted
  | .hardLink _ destination, world =>
      match world.directory.entry destination with
      | none => none
      | some found => if found.linked && found.synced then none else some 17
  | op, world => choicesFor [65] none op world

/-- The sample meets no entry that is not durable. -/
theorem durableChoices_findsDurable (deleted : Except Unit Unit) (op : InboxOp)
    (world : World Unit) : FindsDurable op (durableChoices deleted op world) world := by
  cases op with
  | hardLink source destination =>
      intro found hfault hfound _
      simp only [durableChoices, hfound, ite_eq_left_iff, reduceCtorEq, imp_false, not_not,
        Bool.and_eq_true] at hfault
      exact hfault
  | _ => exact trivial

/-- The sample synchronizes the directory without a fault. -/
theorem durableChoices_syncsDirectory (deleted : Except Unit Unit) (op : InboxOp)
    (world : World Unit) : SyncsDirectory op (durableChoices deleted op world) world := by
  cases op with
  | openDirectory | syncDirectory => rfl
  | _ => exact trivial

/-- The first attempt publishes the object and fails to delete it. -/
def undeletedAttempt :
    Program (inboxSignature Unit) (Except (ReceiveError Unit) ReceiveOutcome) × World Unit :=
  (World.handler Unit).runUntil (durableChoices (.error ())) (fun _ => false)
    (receive 2 sampleObject).run ⟨.empty, 7, 0, []⟩

/-- The next process. -/
def nextProcess : World Unit :=
  { undeletedAttempt.2 with processId := 8, nextTempId := 0 }

/-- It finds the synchronized copy; here it is about to call `delete`. -/
def retriedAttempt :
    Program (inboxSignature Unit) (Except (ReceiveError Unit) ReceiveOutcome) × World Unit :=
  (World.handler Unit).runUntil (durableChoices (.ok ())) (· = .delete sampleObject)
    (receive 2 sampleObject).run nextProcess

/-- The two attempts, wherever their choices and the restart may be made. -/
theorem retried_reachable {assume : (op : InboxOp) → World.Choice Unit op → World Unit → Prop}
    {job : Program (inboxSignature Unit) (Except (ReceiveError Unit) ReceiveOutcome) → Prop}
    {restart : World Unit → World Unit → Prop}
    (hassume : ∀ deleted op world, assume op (durableChoices deleted op world) world)
    (hjob : job (receive 2 sampleObject).run) (hrestart : restart undeletedAttempt.2 nextProcess) :
    ∃ next, ProcessReachable (World.assuming assume) job restart
      (⟨.empty, 7, 0, []⟩ : World Unit)
      ⟨some (.call (.delete sampleObject) next), retriedAttempt.2⟩ := by
  have hfirst : undeletedAttempt.1 = .pure (.error (.remote .delete ())) := by rfl
  have hpending : retriedAttempt.1.pending = some (.delete sampleObject) := by decide
  have hreach : ProcessReachable (World.assuming assume) job restart
      (⟨.empty, 7, 0, []⟩ : World Unit) ⟨none, undeletedAttempt.2⟩ :=
    ProcessReachable.returned .refl (hassume _) hjob hfirst
  exact ProcessReachable.pending (hreach.tail (.restart hrestart)) (hassume _) hjob hpending

/-- A retry reaches `delete` with the durable copy that the first attempt has left. -/
theorem retried_delete_after_durable :
    ∃ next world, ProcessReachable (World.assuming FindsDurable) Attempt NewProcess
        (⟨.empty, 7, 0, []⟩ : World Unit) ⟨some (.call (.delete sampleObject) next), world⟩ ∧
      undeletedAttempt.2.directory.entry sampleObject.name = some ⟨0, true, true⟩ ∧
      world.directory.CrashDurable sampleObject.name := by
  obtain ⟨next, hretried⟩ := @retried_reachable FindsDurable Attempt NewProcess
    durableChoices_findsDurable ⟨2, sampleObject, rfl⟩ ⟨8, rfl⟩
  exact ⟨next, retriedAttempt.2, hretried, by decide,
    delete_after_durable 7 sampleObject next retriedAttempt.2 hretried⟩

/-- The first attempt leaves nothing that is not synchronized. -/
theorem settled_undeletedAttempt : undeletedAttempt.2.directory.Settled IsIncomingName := by
  have hreturns : (World.handler Unit).Returns (durableChoices (.error ()))
      (receive 2 sampleObject).run ⟨.empty, 7, 0, []⟩ (.error (.remote .delete ()))
      undeletedAttempt.2 := Prod.ext (by rfl) rfl
  exact (must_receive_settled 2 not_mayNotSync Directory.settled_empty).runs
    (hreturns.runs (durableChoices_syncsDirectory _))

/-- The same retry, by the next process. -/
theorem retried_settled_delete :
    ∃ next world, ProcessReachable (World.assuming SyncsDirectory) LastingAttempt
        NewSettledProcess (⟨.empty, 7, 0, []⟩ : World Unit)
        ⟨some (.call (.delete sampleObject) next), world⟩ ∧
      world.processId = 8 ∧ world.directory.CrashDurable sampleObject.name := by
  have hlasting : ¬ IsIncomingName sampleObject.name := fun h => absurd h.head (by decide)
  obtain ⟨next, hretried⟩ := @retried_reachable SyncsDirectory LastingAttempt NewSettledProcess
    durableChoices_syncsDirectory ⟨2, sampleObject, hlasting, rfl⟩
    ⟨settled_undeletedAttempt, 8, rfl⟩
  exact ⟨next, retriedAttempt.2, hretried, by decide,
    settled_delete_after_durable 7 sampleObject next retriedAttempt.2 hretried⟩

/-! ## A copy that is not durable -/

/-- The first attempt links the object and then fails to open the directory. -/
def firstAttempt :
    Program (inboxSignature Unit) (Except (ReceiveError Unit) ReceiveOutcome) × World Unit :=
  (World.handler Unit).runUntil (choicesFor [65] (some 5)) (fun _ => false)
    (receive 2 sampleObject).run ⟨.empty, 7, 0, []⟩

/-- The second attempt meets no fault; here it is about to call `delete`. -/
def secondAttempt :
    Program (inboxSignature Unit) (Except (ReceiveError Unit) ReceiveOutcome) × World Unit :=
  (World.handler Unit).runUntil (choicesFor [65] none) (· = .delete sampleObject)
    (receive 2 sampleObject).run firstAttempt.2

/-- A directory synchronization fails, and the retry deletes the remote object although the
entry of the local copy was never synchronized. -/
theorem delete_before_durable :
    ∃ next world, ProcessReachable (World.assuming fun _ _ _ => True) Attempt NewProcess
        (⟨.empty, 7, 0, []⟩ : World Unit) ⟨some (.call (.delete sampleObject) next), world⟩ ∧
      ¬ world.directory.CrashDurable sampleObject.name := by
  have hattempt : Attempt (receive 2 sampleObject : ReceiveProgram Unit ReceiveOutcome).run :=
    ⟨2, sampleObject, rfl⟩
  have hfirst : firstAttempt.1 = .pure (.error (.io (.other 5))) := by rfl
  have hpending : secondAttempt.1.pending = some (.delete sampleObject) := by decide
  have hentry : secondAttempt.2.directory.entry sampleObject.name = some ⟨0, true, false⟩ := by
    decide
  have hreach : ProcessReachable (World.assuming fun _ _ _ => True) Attempt NewProcess
      (⟨.empty, 7, 0, []⟩ : World Unit) ⟨none, firstAttempt.2⟩ :=
    ProcessReachable.returned .refl (fun _ _ => trivial) hattempt hfirst
  obtain ⟨next, hsecond⟩ := hreach.pending (fun _ _ => trivial) hattempt hpending
  refine ⟨next, secondAttempt.2, hsecond, ?_⟩
  rintro ⟨found, hfound, _, hsynced, _⟩
  rw [hentry] at hfound
  cases hfound
  cases hsynced

end TwEinvoice.Transport
