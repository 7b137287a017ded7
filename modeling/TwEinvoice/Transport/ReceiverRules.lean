import Mathlib.Tactic.Ring
import TwEinvoice.Transport.Receiver

/-!
# Rules for the steps of the receiver

One rule for each function that `receive` calls: what must be shown of the results and of the
worlds that it may leave behind. `PermitsAt` collects the calls that need no thought, which is
every call but `delete`. The rules for `May` build one behaviour without faults.
-/

namespace TwEinvoice.Transport

open Effects Storage

variable {ε : Type} {assume : (op : InboxOp) → World.Choice ε op → World ε → Prop}
variable {permits : InboxOp → World ε → Prop} {world : World ε}

/-- The world, with the choices for which `assume` holds. -/
abbrev World.assuming (assume : (op : InboxOp) → World.Choice ε op → World ε → Prop) :
    Environment (inboxSignature ε) (World ε) :=
  (World.handler ε).environment assume

/-- While the directory is this one, every call but `delete` is permitted. -/
def PermitsAt (permits : InboxOp → World ε → Prop) (directory : Directory) : Prop :=
  ∀ op world, (∀ object, op ≠ .delete object) → world.directory = directory → permits op world

/-- A call other than `delete`. -/
theorem must_request {op : InboxOp} {post : (inboxSignature ε).Reply op → World ε → Prop}
    (hpermits : PermitsAt permits world.directory) (hop : ∀ object, op ≠ .delete object)
    (hpost : ∀ choice, assume op choice world →
      post (World.respond op choice world).1 (World.respond op choice world).2) :
    Must (World.assuming assume) permits (request op) post world :=
  must_perform_handler.2 ⟨hpermits op world hop rfl, hpost⟩

/-! ## Temporary files -/

/-- The name is one of the temporary names of a process. -/
def IsIncomingName (name : String) : Prop :=
  ∃ processId id, name = incomingName processId id

/-- A temporary name begins with a full stop. -/
theorem IsIncomingName.head {name : String} (h : IsIncomingName name) :
    name.toList.head? = some '.' := by
  obtain ⟨processId, id, rfl⟩ := h
  rw [incomingName, String.append_assoc, String.append_assoc, String.toList_append]
  rfl

/-- The name is the first of the process's next temporary names that is not taken. -/
def NextIncomingName (world : World ε) (name : String) : Prop :=
  ∃ tries : Nat,
    name = incomingName world.processId (world.nextTempId + .ofNat tries) ∧
    world.directory.entry name = none ∧
    ∀ earlier < tries, world.directory.entry
      (incomingName world.processId (world.nextTempId + .ofNat earlier)) ≠ none

theorem NextIncomingName.isIncomingName {name : String} (h : NextIncomingName world name) :
    IsIncomingName name := by
  obtain ⟨tries, hname, _⟩ := h
  exact ⟨world.processId, _, hname⟩

/-- The world after some temporary IDs have been drawn. -/
def World.drawn (world : World ε) (id : UInt64) : World ε :=
  { world with nextTempId := id }

theorem add_ofNat_zero (id : UInt64) : id + UInt64.ofNat 0 = id := UInt64.add_zero id

theorem add_one_add_ofNat (id : UInt64) (tries : Nat) :
    id + 1 + .ofNat tries = id + .ofNat (tries + 1) := by
  rw [UInt64.ofNat_add, UInt64.add_assoc, UInt64.add_comm 1]
  rfl

/-- A name that is next after one taken name. -/
theorem NextIncomingName.of_taken {name : String}
    (htaken : world.directory.entry (incomingName world.processId world.nextTempId) ≠ none)
    (h : NextIncomingName (world.drawn (world.nextTempId + 1)) name) :
    NextIncomingName world name := by
  obtain ⟨tries, hname, hfree, hearlier⟩ := h
  refine ⟨tries + 1, ?_, hfree, fun earlier hlt => ?_⟩
  · rw [← add_one_add_ofNat]
    exact hname
  · cases earlier with
    | zero => simpa using htaken
    | succ earlier =>
        have hprevious := hearlier earlier (by omega)
        rw [← add_one_add_ofNat]
        exact hprevious

/-- A new temporary file has the next free name. -/
theorem must_create {post : Except IoError IncomingFile → World ε → Prop} (fuel : Nat)
    (hpermits : PermitsAt permits world.directory)
    (herror : ∀ error id, post (.error error) (world.drawn id))
    (hok : ∀ path id, NextIncomingName world path →
      post (.ok ⟨path, world.directory.next⟩)
        ((world.drawn id).withDirectory (world.directory.create path))) :
    Must (World.assuming assume) permits (IncomingFile.create fuel).run post world := by
  induction fuel generalizing world with
  | zero => exact must_outOfFuel
  | succ fuel ih =>
      refine must_bind.2 (must_request hpermits (by simp) fun _ _ => ?_)
      refine must_bind.2 (must_request hpermits (by simp) fun _ _ => ?_)
      refine must_bind.2 (must_request hpermits (by simp) fun fault _ => ?_)
      cases fault with
      | some code => exact herror (.other code) (world.nextTempId + 1)
      | none =>
          cases hentry : world.directory.entry
              (incomingName world.processId world.nextTempId) with
          | none =>
              have hnext : NextIncomingName world
                  (incomingName world.processId world.nextTempId) :=
                ⟨0, by simp, hentry, by simp⟩
              simpa [World.respond, World.unlessFault, World.createNew, hentry, World.drawn] using
                hok _ (world.nextTempId + 1) hnext
          | some found =>
              -- The loop goes on in a world that differs by one drawn ID.
              have htaken : world.directory.entry
                  (incomingName world.processId world.nextTempId) ≠ none := by simp [hentry]
              have hrest := @ih (world.drawn (world.nextTempId + 1)) hpermits
                (fun error id => herror error id)
                (fun path id hnext => hok path id (.of_taken htaken hnext))
              simpa [World.respond, World.unlessFault, World.createNew, hentry, World.drawn] using
                hrest

theorem must_flushAndSync {incoming : IncomingFile} {post : Except IoError Unit → World ε → Prop}
    (hpermits : PermitsAt permits world.directory) (herror : ∀ error, post (.error error) world)
    (hok : post (.ok ()) (world.withDirectory (world.directory.sync incoming.file))) :
    Must (World.assuming assume) permits incoming.flushAndSync.run post world := by
  refine must_run_bind.2 (must_request hpermits (by simp) fun fault _ => ?_)
  cases fault with
  | some code => exact herror (.other code)
  | none =>
      refine must_request hpermits (by simp) fun fault _ => ?_
      cases fault with
      | some code => exact herror (.other code)
      | none => exact hok

theorem must_size {incoming : IncomingFile} {post : Except IoError Nat → World ε → Prop}
    (hpermits : PermitsAt permits world.directory) (herror : ∀ error, post (.error error) world)
    (hok : post (.ok (world.directory.file incoming.file).bytes.length) world) :
    Must (World.assuming assume) permits incoming.size.run post world := by
  refine must_request hpermits (by simp) fun fault _ => ?_
  cases fault with
  | none => exact hok
  | some code => exact herror (.other code)

/-! ## Comparison -/

/-- A read returns the bytes that the reader then moves past. -/
theorem chunk_append_drop (bytes : List UInt8) (position bufferLength more : Nat) :
    World.chunk bytes position bufferLength more ++
        bytes.drop (position + (World.chunk bytes position bufferLength more).length) =
      bytes.drop position := by
  have hdrop := List.take_append_drop (min bufferLength (more + 1)) (bytes.drop position)
  rw [← List.drop_drop]
  unfold World.chunk
  rw [List.length_take]
  rcases Nat.le_total (min bufferLength (more + 1)) (bytes.drop position).length with hle | hle
  · rw [Nat.min_eq_left hle]
    exact hdrop
  · rw [Nat.min_eq_right hle, List.take_of_length_le hle, List.drop_length, List.append_nil]

/-- A read returns nothing only at the end of the file. -/
theorem drop_eq_nil_of_chunk {more : Nat} (bytes : List UInt8) (position : Nat)
    (h : (World.chunk bytes position bufferLength more).length = 0) :
    bytes.drop position = [] := by
  rw [World.chunk, List.length_take, bufferLength] at h
  exact List.length_eq_zero_iff.1 (by omega)

/-- A read returns some of the bytes behind the position. -/
theorem must_read {reader : Reader} {post : Except IoError (List UInt8 × Reader) → World ε → Prop}
    (hpermits : PermitsAt permits world.directory) (herror : ∀ error, post (.error error) world)
    (hok : ∀ more, post (.ok (World.chunk (world.directory.file reader.file).bytes
        reader.position bufferLength more,
      ⟨reader.file, reader.position + (World.chunk (world.directory.file reader.file).bytes
        reader.position bufferLength more).length⟩)) world) :
    Must (World.assuming assume) permits reader.read.run post world := by
  refine must_run_bind.2 (must_request hpermits (by simp) fun choice _ => ?_)
  obtain ⟨fault, more⟩ := choice
  cases fault with
  | some code => exact herror (.other code)
  | none => exact hok more

/-- The comparison answers `true` only for readers with the same bytes ahead of them. -/
theorem must_readersEqual {post : Except IoError Bool → World ε → Prop} (fuel : Nat)
    (left right : Reader) (hpermits : PermitsAt permits world.directory)
    (herror : ∀ error, post (.error error) world) (hfalse : post (.ok false) world)
    (htrue : (world.directory.file left.file).bytes.drop left.position =
        (world.directory.file right.file).bytes.drop right.position → post (.ok true) world) :
    Must (World.assuming assume) permits (readersEqual fuel left right).run post world := by
  induction fuel generalizing left right with
  | zero => exact must_outOfFuel
  | succ fuel ih =>
      refine must_run_bind.2 (must_read hpermits herror fun leftMore => ?_)
      refine must_run_bind.2 (must_read hpermits herror fun rightMore => ?_)
      have hleft := chunk_append_drop (world.directory.file left.file).bytes left.position
        bufferLength leftMore
      have hright := chunk_append_drop (world.directory.file right.file).bytes right.position
        bufferLength rightMore
      -- The two reads may return chunks of different lengths. Chunks of one length are empty
      -- together, and then both files are at their end.
      have hleftEnd := @drop_eq_nil_of_chunk leftMore (world.directory.file left.file).bytes
        left.position
      have hrightEnd := @drop_eq_nil_of_chunk rightMore (world.directory.file right.file).bytes
        right.position
      simp only [onResult_ok]
      generalize World.chunk (world.directory.file left.file).bytes left.position bufferLength
        leftMore = leftRead at *
      generalize World.chunk (world.directory.file right.file).bytes right.position bufferLength
        rightMore = rightRead at *
      split_ifs with hlength hempty hbytes
      · exact hfalse
      · exact htrue ((hleftEnd hempty).trans (hrightEnd (by omega)).symm)
      · exact hfalse
      · refine ih _ _ fun hrest => htrue ?_
        rw [← hleft, ← hright, hrest, not_not.1 hbytes]

/-- A path that is opened refers to a file, which is read from its start. -/
theorem must_openPath {path : String} {post : Except IoError Reader → World ε → Prop}
    (hpermits : PermitsAt permits world.directory) (herror : ∀ error, post (.error error) world)
    (hok : ∀ found, world.directory.entry path = some found → post (.ok ⟨found.inode, 0⟩) world) :
    Must (World.assuming assume) permits (Reader.openPath path).run post world := by
  refine must_run_bind.2 (must_request hpermits (by simp) fun fault _ => ?_)
  cases fault with
  | some code => exact herror (.other code)
  | none =>
      cases hentry : world.directory.entry path with
      | none =>
          simpa [World.respond, World.unlessFault, World.lookup, hentry] using herror .notFound
      | some found =>
          simpa [World.respond, World.unlessFault, World.lookup, hentry] using hok found hentry

/-- A path with metadata refers to a file of that size. -/
theorem must_pathMetadata {path : String} {post : Except IoError Nat → World ε → Prop}
    (hpermits : PermitsAt permits world.directory) (herror : ∀ error, post (.error error) world)
    (hok : ∀ found, world.directory.entry path = some found →
      post (.ok (world.directory.file found.inode).bytes.length) world) :
    Must (World.assuming assume) permits (request (.pathMetadata path)) post world := by
  refine must_request hpermits (by simp) fun fault _ => ?_
  cases fault with
  | some code => exact herror (.other code)
  | none =>
      cases hentry : world.directory.entry path with
      | none =>
          simpa [World.respond, World.unlessFault, World.lookup, hentry] using herror .notFound
      | some found =>
          simpa [World.respond, World.unlessFault, World.lookup, hentry] using hok found hentry

/-- The comparison answers `true` only for names of the same bytes. -/
theorem must_filesEqual {post : Except IoError Bool → World ε → Prop} (fuel : Nat)
    (left right : String) (hpermits : PermitsAt permits world.directory)
    (herror : ∀ error, post (.error error) world) (hfalse : post (.ok false) world)
    (htrue : ∀ bytes, world.directory.read left = some bytes →
      world.directory.read right = some bytes → post (.ok true) world) :
    Must (World.assuming assume) permits (filesEqual fuel left right).run post world := by
  refine must_run_bind.2 (must_pathMetadata hpermits herror fun leftFound hleft => ?_)
  refine must_run_bind.2 (must_pathMetadata hpermits herror fun rightFound hright => ?_)
  simp only [onResult_ok]
  split_ifs with hlength
  · exact hfalse
  · -- No call changes the world here, so the opened files are the ones that were measured.
    refine must_run_bind.2 (must_openPath hpermits herror fun found hfound => ?_)
    cases hleft.symm.trans hfound
    refine must_run_bind.2 (must_openPath hpermits herror fun found hfound => ?_)
    cases hright.symm.trans hfound
    refine must_readersEqual fuel _ _ hpermits herror hfalse fun hbytes => ?_
    refine htrue (world.directory.file leftFound.inode).bytes ?_ ?_
    · simp [Directory.read, hleft]
    · simpa [Directory.read, hright] using hbytes.symm

/-! ## Publication -/

/-- Some synchronization of the directory may fail. -/
def MayNotSync (assume : (op : InboxOp) → World.Choice ε op → World ε → Prop) : Prop :=
  ∃ code world, assume .openDirectory (some code) world ∨ assume .syncDirectory (some code) world

/-- A success has synchronized the entries. -/
theorem must_syncParentDirectory {post : Except IoError Unit → World ε → Prop}
    (hpermits : PermitsAt permits world.directory)
    (herror : MayNotSync assume → ∀ error, post (.error error) world)
    (hok : post (.ok ()) (world.withDirectory world.directory.syncEntries)) :
    Must (World.assuming assume) permits syncParentDirectory.run post world := by
  refine must_run_bind.2 (must_request hpermits (by simp) fun fault hassume => ?_)
  cases fault with
  | some code => exact herror ⟨code, world, .inl hassume⟩ (.other code)
  | none =>
      refine must_request hpermits (by simp) fun fault hassume => ?_
      cases fault with
      | some code => exact herror ⟨code, _, .inr hassume⟩ (.other code)
      | none => exact hok

/-- What `hard_link` does when the source exists. -/
theorem hardLink_eq {source destination : String} {found : Entry}
    (hsource : world.directory.entry source = some found) :
    world.hardLink source destination =
      if world.directory.entry destination = none then
        (.ok (), world.withDirectory
          (world.directory.link found (world.directory.entry_lt source found hsource) destination))
      else (.error .alreadyExists, world) := by
  unfold World.hardLink
  split
  · next hnone => cases hnone.symm.trans hsource
  · next other hother =>
      cases hother.symm.trans hsource
      cases hdestination : world.directory.entry destination <;> simp

/-- A hard link fails for a fault or for its name, and else links the file if it can. -/
theorem respond_hardLink (fault : Fault) (source destination : String) :
    (∃ code, World.respond (.hardLink source destination) fault world =
        (.error (.other code), world)) ∨
      fault = none ∧ nameFault destination = none ∧
        World.respond (.hardLink source destination) fault world =
          world.hardLink source destination := by
  cases hfault : fault.or (nameFault destination) with
  | some code =>
      refine .inl ⟨code, ?_⟩
      show world.unlessFault (fault.or (nameFault destination)) _ = _
      rw [hfault]
      rfl
  | none =>
      obtain ⟨hnone, hname⟩ := Option.or_eq_none_iff.1 hfault
      refine .inr ⟨hnone, hname, ?_⟩
      show world.unlessFault (fault.or (nameFault destination)) _ = _
      rw [hfault]
      rfl

/-- A name that is no fault by itself is linked. -/
theorem respond_hardLink_none {destination : String} (hname : nameFault destination = none)
    (source : String) :
    World.respond (.hardLink source destination) none world =
      world.hardLink source destination := by
  show world.unlessFault (Option.or none (nameFault destination)) _ = _
  rw [Option.none_or, hname]
  rfl

/-- A hard link that succeeds has found the name free. -/
theorem hardLink_ok {source destination : String} {found : Entry} {fault : Fault}
    {next : World ε} (hsource : world.directory.entry source = some found)
    (h : World.respond (.hardLink source destination) fault world = (.ok (), next)) :
    world.directory.entry destination = none ∧
      next = world.withDirectory
        (world.directory.link found (world.directory.entry_lt source found hsource)
          destination) := by
  rcases @respond_hardLink _ world fault source destination with
    ⟨code, hrespond⟩ | ⟨_, _, hrespond⟩
  · cases hrespond.symm.trans h
  · rw [hrespond, hardLink_eq hsource] at h
    split_ifs at h with hfree
    · exact ⟨hfree, (congrArg Prod.snd h).symm⟩
    · cases h

/-- Publication either links the name and synchronizes the directory, or finds the same bytes
under the name. -/
theorem must_publish {object : RemoteObject} {incoming : IncomingFile} {found : Entry}
    {post : Except (ReceiveError ε) ReceiveOutcome → World ε → Prop} (fuel : Nat)
    (hsource : world.directory.entry incoming.path = some found)
    (hpermits : PermitsAt permits world.directory)
    (hlinked : PermitsAt permits (world.directory.link found
      (world.directory.entry_lt incoming.path found hsource) object.name))
    (herror : ∀ error, post (.error error) world)
    (hunsynced : MayNotSync assume → world.directory.entry object.name = none → ∀ error,
      post (.error error) (world.withDirectory
        (world.directory.link found (world.directory.entry_lt incoming.path found hsource)
          object.name)))
    (hpersisted : world.directory.entry object.name = none →
      post (.ok (.persisted object.name)) (world.withDirectory
        (world.directory.link found (world.directory.entry_lt incoming.path found hsource)
          object.name).syncEntries))
    (halready : ∀ bytes, world.directory.read incoming.path = some bytes →
      world.directory.read object.name = some bytes →
      assume (.hardLink incoming.path object.name) none world →
      post (.ok (.alreadyPersisted object.name)) world) :
    Must (World.assuming assume) permits (publish fuel object incoming).run post world := by
  refine must_bind.2 (must_request hpermits (by simp) fun fault hassume => ?_)
  rcases @respond_hardLink _ world fault incoming.path object.name with
    ⟨code, hrespond⟩ | ⟨rfl, _, hrespond⟩
  · rw [hrespond]
    exact herror (.io (.other code))
  · rw [hrespond, hardLink_eq hsource]
    split_ifs with hfree
    · refine must_run_bind.2 (must_run_adapt.2 (must_syncParentDirectory hlinked ?_ ?_))
      · exact fun hmay error => hunsynced hmay hfree (.io error)
      · exact hpersisted hfree
    · refine must_run_bind.2 (must_run_adapt.2 (must_filesEqual fuel _ _ hpermits ?_ ?_ ?_))
      · exact fun error => herror (.io error)
      · exact herror (.conflictingLocalObject object.name object.name)
      · exact fun bytes hleft hright => halready bytes hleft hright hassume

/-! ## One object -/

/-- The object has been downloaded at most once since, and `delete` has not been called. -/
def OnlyDownloaded (object : RemoteObject) (world final : World ε) : Prop :=
  final.remote = world.remote ∨
    ∃ bytes reply, final.remote = world.remote ++ [.download object bytes reply]

/-- The world once the bytes are downloaded into the file and synchronized. -/
def World.received (world : World ε) (object : RemoteObject) (file : Nat) (bytes : List UInt8) :
    World ε :=
  ((world.withDirectory (world.directory.append file bytes)).logged
    (.download object bytes (.ok ()))).withDirectory
      ((world.directory.append file bytes).sync file)

/-- The world once the entry found for the temporary file is linked and synchronized. -/
def World.published (world : World ε) (found : Entry) (hfound : found.inode < world.directory.next)
    (name : String) : World ε :=
  world.withDirectory (world.directory.link found hfound name).syncEntries

/-- A download that passes the checks is not empty and has the advertised size. -/
theorem check_size_ok {object : RemoteObject} {actual : Nat}
    (h : (checkSize object actual : Except (ReceiveError ε) Unit) = .ok ()) :
    actual ≠ 0 ∧ actual = object.size.toNat := by
  unfold checkSize at h
  split_ifs at h with hzero hsize
  exact ⟨hzero, not_not.1 hsize⟩

/-- The new temporary file holds what has been downloaded. -/
theorem received_bytes {object : RemoteObject} {file : Nat} {bytes : List UInt8}
    (hempty : (world.directory.file file).bytes = []) :
    ((world.received object file bytes).directory.file file).bytes = bytes := by
  simp [World.received, Directory.sync, Directory.append, hempty]

/-- The deletion of the remote object, which is the last call with the temporary file in scope. -/
theorem must_delete {object : RemoteObject} {outcome : ReceiveOutcome}
    {post : Except (ReceiveError ε) ReceiveOutcome → World ε → Prop}
    (hpermits : permits (.delete object) world)
    (hpost : ∀ reply, post ((reply.map fun _ => outcome).mapError (.remote .delete))
      (world.logged (.delete object reply))) :
    Must (World.assuming assume) permits
      (ExceptT.run do
        ExceptT.adapt (.remote .delete) (ExceptT.mk (request (.delete object)))
        return outcome) post world := by
  refine must_run_bind.2 (must_run_adapt.2 (must_perform_handler.2 ⟨hpermits, ?_⟩))
  intro reply _
  have hreply := hpost reply
  cases reply <;> exact hreply

/-- The download has been written to the file and nothing else has happened, except that the
file may have been synchronized. -/
def Unpublished (object : RemoteObject) (file : Nat) (world final : World ε) : Prop :=
  ∃ bytes reply, final.remote = world.remote ++ [.download object bytes reply] ∧
    final.processId = world.processId ∧
    (final.directory = world.directory.append file bytes ∨
      final.directory = (world.directory.append file bytes).sync file)

theorem Unpublished.onlyDownloaded {object : RemoteObject} {file : Nat} {world final : World ε}
    (h : Unpublished object file world final) : OnlyDownloaded object world final := by
  obtain ⟨bytes, reply, hremote, _⟩ := h
  exact .inr ⟨bytes, reply, hremote⟩

/-- What holds of a directory before and after a synchronization holds of an unpublished one. -/
theorem Unpublished.directory {object : RemoteObject} {file : Nat} {world final : World ε}
    {invariant : Directory → Prop} (h : Unpublished object file world final)
    (happend : ∀ bytes, invariant (world.directory.append file bytes))
    (hsync : ∀ bytes, invariant ((world.directory.append file bytes).sync file)) :
    invariant final.directory := by
  obtain ⟨bytes, _, _, _, hdirectory⟩ := h
  rcases hdirectory with hdirectory | hdirectory
  · exact hdirectory ▸ happend bytes
  · exact hdirectory ▸ hsync bytes

/-- While the temporary file is in scope, `delete` is called in two situations only: the
download has just been published, or its bytes were found under the object's name. -/
theorem must_receiveInto {object : RemoteObject} {incoming : IncomingFile} {found : Entry}
    {post : Except (ReceiveError ε) ReceiveOutcome → World ε → Prop}
    (invariant : Directory → Prop) (fuel : Nat)
    (hsource : world.directory.entry incoming.path = some found)
    (hempty : (world.directory.file incoming.file).bytes = [])
    (hpermits : ∀ directory, invariant directory → PermitsAt permits directory)
    (hstart : invariant world.directory)
    (happend : ∀ bytes, invariant (world.directory.append incoming.file bytes))
    (hsync : ∀ bytes, invariant (world.received object incoming.file bytes).directory)
    (hlink : ∀ bytes hfound, invariant
      ((world.received object incoming.file bytes).directory.link found hfound object.name))
    (hfailed : ∀ error final, Unpublished object incoming.file world final →
      post (.error error) final)
    (hunsynced : MayNotSync assume → ∀ bytes hfound error, bytes ≠ [] →
      bytes.length = object.size.toNat → world.directory.entry object.name = none →
      post (.error error) ((world.received object incoming.file bytes).withDirectory
        ((world.received object incoming.file bytes).directory.link found hfound object.name)))
    (hpersisted : ∀ bytes hfound, bytes ≠ [] → bytes.length = object.size.toNat →
      world.directory.entry object.name = none →
      permits (.delete object)
        ((world.received object incoming.file bytes).published found hfound object.name) ∧
      ∀ reply, post
        ((reply.map fun _ => ReceiveOutcome.persisted object.name).mapError (.remote .delete))
        (((world.received object incoming.file bytes).published found hfound object.name).logged
          (.delete object reply)))
    (halready : ∀ bytes existing, bytes ≠ [] → bytes.length = object.size.toNat →
      (world.received object incoming.file bytes).directory.read incoming.path = some existing →
      (world.received object incoming.file bytes).directory.read object.name = some existing →
      assume (.hardLink incoming.path object.name) none
        (world.received object incoming.file bytes) →
      permits (.delete object) (world.received object incoming.file bytes) ∧
      ∀ reply, post
        ((reply.map fun _ => ReceiveOutcome.alreadyPersisted object.name).mapError
          (.remote .delete))
        ((world.received object incoming.file bytes).logged (.delete object reply))) :
    Must (World.assuming assume) permits (receiveInto fuel object incoming).run post world := by
  refine must_run_bind.2 (must_run_adapt.2 (must_request (hpermits _ hstart) (by simp)
    fun choice _ => ?_))
  obtain ⟨bytes, reply⟩ := choice
  cases reply with
  | error error => exact hfailed _ _ ⟨bytes, .error error, rfl, rfl, .inl rfl⟩
  | ok _ =>
      refine must_run_bind.2 (must_run_adapt.2 (must_flushAndSync (hpermits _ (happend bytes))
        (fun error => hfailed _ _ ⟨bytes, .ok (), rfl, rfl, .inl rfl⟩) ?_))
      show Must _ _ _ _ (world.received object incoming.file bytes)
      have hquiet := hpermits _ (hsync bytes)
      have hunpublished : Unpublished object incoming.file world
          (world.received object incoming.file bytes) := ⟨bytes, .ok (), rfl, rfl, .inr rfl⟩
      refine must_run_bind.2 (must_run_adapt.2 (must_size hquiet
        (fun error => hfailed _ _ hunpublished) ?_))
      rw [received_bytes hempty]
      refine must_run_bind.2 ?_
      cases hcheck : (checkSize object bytes.length : Except (ReceiveError ε) Unit) with
      | error error => exact hfailed _ _ hunpublished
      | ok _ =>
          obtain ⟨hpositive, hsize⟩ := check_size_ok hcheck
          have hbytes : bytes ≠ [] := fun hnil => hpositive (by rw [hnil, List.length_nil])
          have hfound : found.inode < (world.received object incoming.file bytes).directory.next :=
            world.directory.entry_lt incoming.path found hsource
          refine must_run_bind.2 (must_publish fuel hsource hquiet
            (hpermits _ (hlink bytes hfound))
            (fun error => hfailed _ _ hunpublished)
            (fun hmay hfree error => hunsynced hmay bytes hfound error hbytes hsize hfree) ?_ ?_)
          -- The two ways to publish both end in the deletion.
          · intro hfree
            obtain ⟨hdelete, hpost⟩ := hpersisted bytes hfound hbytes hsize hfree
            exact must_delete hdelete hpost
          · intro existing hleft hright hassume
            obtain ⟨hdelete, hpost⟩ := halready bytes existing hbytes hsize hleft hright hassume
            exact must_delete hdelete hpost

/-- Dropping the temporary file removes its name or, after a fault, does nothing. -/
theorem must_drop {incoming : IncomingFile} {post : Unit → World ε → Prop}
    (hpermits : PermitsAt permits world.directory)
    (hkept : ∀ code, assume (.removeFile incoming.path) (some code) world → post () world)
    (hremoved : post () (world.withDirectory (world.directory.remove incoming.path))) :
    Must (World.assuming assume) permits incoming.drop post world := by
  refine must_bind.2 (must_request hpermits (by simp) fun fault hassume => ?_)
  cases fault with
  | some code => exact hkept code hassume
  | none =>
      cases hentry : world.directory.entry incoming.path with
      | none =>
          have hsame : world.withDirectory (world.directory.remove incoming.path) = world := by
            rw [Directory.remove_of_none hentry]
            rfl
          rw [hsame] at hremoved
          simpa [World.respond, World.unlessFault, World.removeFile, hentry] using hremoved
      | some found =>
          simpa [World.respond, World.unlessFault, World.removeFile, hentry] using hremoved

/-- The world once the temporary file is created. -/
def World.created (world : World ε) (id : UInt64) (path : String) : World ε :=
  (world.drawn id).withDirectory (world.directory.create path)

section Created

variable (id : UInt64) (path : String)

/-- The temporary file is empty. -/
theorem created_bytes :
    ((world.created id path).directory.file world.directory.next).bytes = [] := by
  simp [World.created, Directory.create]

theorem created_entry :
    (world.created id path).directory.entry path = some ⟨world.directory.next, false, false⟩ := by
  simp [World.created, Directory.create]

/-- The download is seen under the temporary name. -/
theorem created_received_read (object : RemoteObject) (bytes : List UInt8) :
    ((world.created id path).received object world.directory.next bytes).directory.read path =
      some bytes := by
  show Option.map _ ((world.created id path).directory.entry path) = _
  rw [created_entry, Option.map_some, received_bytes (created_bytes id path)]

end Created

/-- A call of `receive` is the part with the temporary file in scope, between its creation and
its removal. -/
theorem must_receive {object : RemoteObject}
    {post : Except (ReceiveError ε) ReceiveOutcome → World ε → Prop} (fuel : Nat)
    (hpermits : PermitsAt permits world.directory)
    (hinvalid : ∀ error, post (.error error) world)
    (hcreate : ∀ error id, post (.error error) (world.drawn id))
    (hbody : ∀ path id, NextIncomingName world path →
      Must (World.assuming assume) permits
        (receiveInto fuel object ⟨path, world.directory.next⟩).run
        (fun result middle => PermitsAt permits middle.directory ∧
          (∀ code, assume (.removeFile path) (some code) middle → post result middle) ∧
          post result (middle.withDirectory (middle.directory.remove path)))
        (world.created id path)) :
    Must (World.assuming assume) permits (receive fuel object).run post world := by
  refine must_run_bind.2 ?_
  cases (validateRemoteName object.name : Except (ReceiveError ε) Unit) with
  | error error => exact hinvalid error
  | ok _ =>
      refine must_run_bind.2 (must_run_adapt.2 (must_create fuel hpermits ?_ ?_))
      · exact fun error id => hcreate (.io error) id
      · intro path id hnext
        refine must_bind.2 ((hbody path id hnext).mono ?_)
        rintro result middle ⟨hquiet, hkept, hremoved⟩
        exact must_bind.2 (must_drop hquiet hkept hremoved)

end TwEinvoice.Transport
