import TwEinvoice.Delivery.Footprint
import TwEinvoice.Delivery.Server
import TwEinvoice.Effects.Views
import TwEinvoice.Transport.Comparison
import TwEinvoice.Transport.TemporaryNames

/-!
# A receiver that nothing disturbs

With no faults and a server that serves what is in its directory, one call of `receive` downloads
the object, publishes it or finds it published already, deletes it remotely and cleans up.
-/

namespace TwEinvoice.Delivery

open Effects Storage Transport

variable {ε : Type} [Inhabited ε]

/-- The world of one receiver, and the server. -/
abbrev Served (ε : Type) := World ε × Server

/-- The server answers the remote calls. -/
def Served.handler (ε : Type) : Handler (inboxSignature ε) (Served ε) where
  Choice := World.Choice ε
  respond op choice served :=
    ((World.respond op choice served.1).1, (World.respond op choice served.1).2,
      served.2.after op)

/-- The run without faults. -/
abbrev Serves {α : Type} (program : Program (inboxSignature ε) α) (served : Served ε) (value : α)
    (final : Served ε) : Prop :=
  (Served.handler ε).Returns (fun op served => serving op served.2) program served value final

/-- A call of the remote inbox. -/
def remote : InboxOp → Bool
  | .download .. | .delete _ => true
  | _ => false

/-- A program without remote calls runs as it does in its world, and leaves the server alone. -/
theorem serves_of_noFault {α : Type} {program : Program (inboxSignature ε) α} {server : Server}
    (honly : Only (fun op => remote op = false) program) {world final : World ε} {value : α}
    (h : (World.handler ε).Returns (fun op _ => World.noFault op) program world value final) :
    Serves program (world, server) value (final, server) := by
  have hview : AnswersAs (Served.handler ε) (fun op _ => World.noFault op) (World.handler ε)
      (fun op _ => World.noFault op) Prod.fst := fun _ _ => rfl
  obtain ⟨hreturns, hfinal⟩ := @AnswersAs.exists_returns _ _ _ _ _ _ _ _ _ hview _ (world, server)
    _ _ h
  have hserver := hreturns.keeps (fun served => served.2 = server) (fun op served hop hkept => ?_)
    honly rfl
  · have hpair : _ = (final, server) := Prod.ext hfinal hserver
    rw [hpair] at hreturns
    refine hreturns.congr (fun op served hop => ?_) honly
    cases op with
    | download | delete => cases hop
    | _ => rfl
  · cases op with
    | delete => cases hop
    | _ => exact hkept

/-! ## The temporary file -/

omit [Inhabited ε] in
/-- A temporary file is created without the server. -/
theorem only_create (fuel : Nat) :
    Only (fun op : InboxOp => remote op = false)
      (IncomingFile.create fuel : FileProgram ε IncomingFile).run := by
  induction fuel with
  | zero => trivial
  | succ fuel ih =>
      refine ⟨rfl, fun id _ _ => ⟨rfl, fun processId _ _ => ⟨rfl, fun reply _ _ => ?_⟩⟩⟩
      rcases reply with (_ | _ | code) | file
      · exact ih
      · trivial
      · trivial
      · trivial

/-! ## The comparison -/

omit [Inhabited ε] in
/-- Reads of one byte at a time, as without faults. -/
theorem answersAs_noFault :
    AnswersAs (countingReads ε) (scheduled (fun _ => 0) fun _ => 0) (World.handler ε)
      (fun op _ => World.noFault op) Prod.fst := by
  intro op state
  cases op with
  | read file position length =>
      simp only [countingReads, scheduled, World.handler, World.noFault, ite_self]
  | _ => rfl

omit [Inhabited ε] in
/-- A comparison only looks. -/
theorem only_readersEqual (fuel : Nat) (left right : Reader) :
    Only (fun op : InboxOp => op.looks = true)
      (readersEqual fuel left right : FileProgram ε Bool).run := by
  induction fuel generalizing left right with
  | zero => trivial
  | succ fuel ih =>
      refine ⟨rfl, fun reply _ _ => ?_⟩
      rcases reply with _ | leftRead
      · trivial
      refine ⟨rfl, fun reply _ _ => ?_⟩
      rcases reply with _ | rightRead
      · trivial
      show Only _ (ExceptT.run (if leftRead.length ≠ rightRead.length then _ else _))
      split_ifs
      · trivial
      · trivial
      · trivial
      · exact ih _ _

omit [Inhabited ε] in
theorem only_filesEqual (fuel : Nat) (left right : String) :
    Only (fun op : InboxOp => op.looks = true)
      (filesEqual fuel left right : FileProgram ε Bool).run := by
  refine ⟨rfl, fun reply _ _ => ?_⟩
  rcases reply with _ | leftLength
  · trivial
  refine ⟨rfl, fun reply _ _ => ?_⟩
  rcases reply with _ | rightLength
  · trivial
  show Only _ (ExceptT.run (if leftLength ≠ rightLength then _ else _))
  split_ifs
  · trivial
  refine ⟨rfl, fun reply _ _ => ?_⟩
  rcases reply with _ | leftFile
  · trivial
  refine ⟨rfl, fun reply _ _ => ?_⟩
  rcases reply with _ | rightFile
  · trivial
  exact only_readersEqual fuel _ _

/-- Two files with the same bytes are found equal. -/
theorem serves_filesEqual {world : World ε} {server : Server} {left right : String}
    {bytes : List UInt8} {fuel : Nat} (hleft : world.directory.read left = some bytes)
    (hright : world.directory.read right = some bytes) (hfuel : bytes.length < fuel) :
    Serves (filesEqual fuel left right).run (world, server) (.ok true) (world, server) := by
  obtain ⟨answer, final, hrun, hanswer⟩ := @scheduled_filesEqual ε (fun _ => 0) (fun _ => 0) world
    left right bytes bytes fuel hleft hright hfuel
  have htrue : answer = true := hanswer.2 ⟨rfl, fun _ _ => rfl⟩
  subst htrue
  have hquiet := answersAs_noFault.returns hrun
  have hsame : final.1 = world := by
    refine hquiet.keeps (· = world) (fun op state hop hstate => ?_)
      (only_filesEqual fuel left right) rfl
    exact (respond_looks hop _ state).trans hstate
  rw [hsame] at hquiet
  refine serves_of_noFault ((only_filesEqual fuel left right).permits_mono ?_) hquiet
  intro op _ hop
  cases op <;> first | rfl | cases hop

/-! ## One object -/

section Receive

variable {world : World ε} {server : Server} {object : RemoteObject} {content : List UInt8}

/-- What is in the server's directory is downloaded. -/
theorem serves_download {file : Nat} (hoffered : server.offered object.name = some content) :
    Serves (request (.download object file)) (world, server) (.ok ())
      ((world.withDirectory (world.directory.append file content)).logged
        (.download object content (.ok ())), server) := by
  have hcall : Serves (request (.download object file)) (world, server)
      (World.respond (.download object file) (serving (.download object file) server) world).1
      ((World.respond (.download object file) (serving (.download object file) server) world).2,
        server) := rfl
  simp only [serving, hoffered] at hcall
  exact hcall

/-- What is in the server's directory is deleted. -/
theorem serves_delete (hoffered : server.offered object.name = some content) :
    Serves (request (.delete object)) (world, server) (.ok ())
      (world.logged (.delete object (.ok ())), server.removed object.name) := by
  have hcall : Serves (request (.delete object)) (world, server)
      (serving (.delete object) server)
      (world.logged (.delete object (serving (.delete object) server)),
        server.removed object.name) := rfl
  simp only [serving, hoffered] at hcall
  exact hcall

omit [Inhabited ε] in
/-- The size check passes. -/
theorem checkSize_of_length (hnonempty : content ≠ [])
    (hsize : content.length = object.size.toNat) :
    (checkSize object content.length : Except (ReceiveError ε) Unit) = .ok () := by
  unfold checkSize
  rw [if_neg (fun h => hnonempty (List.length_eq_zero_iff.1 h)), if_neg (not_not.2 hsize)]

/-- A link to a name that is not refused outright. -/
theorem serves_hardLink {source destination : String} (hname : nameFault destination = none) :
    Serves (request (.hardLink source destination)) (world, server)
      (world.hardLink source destination).1 ((world.hardLink source destination).2, server) := by
  have hcall : Serves (request (.hardLink source destination)) (world, server)
      (World.respond (.hardLink source destination) none world).1
      ((World.respond (.hardLink source destination) none world).2, server) := rfl
  rw [respond_hardLink_none hname] at hcall
  exact hcall

theorem serves_syncParentDirectory :
    Serves (ExceptT.adapt ReceiveError.io syncParentDirectory : ReceiveProgram ε Unit).run
      (world, server) (.ok ()) (world.withDirectory world.directory.syncEntries, server) := rfl

/-- Publication succeeds if the name is free or has the same bytes. -/
theorem serves_publish {incoming : IncomingFile} {found : Entry} {fuel : Nat}
    (hsource : world.directory.entry incoming.path = some found)
    (hbytes : (world.directory.file found.inode).bytes = content)
    (hfault : nameFault object.name = none)
    (hname : world.directory.read object.name = none ∨
      world.directory.read object.name = some content)
    (hfuel : content.length < fuel) :
    ∃ outcome final, Serves (publish fuel object incoming).run (world, server) (.ok outcome)
        (final, server) ∧
      final.directory.read object.name = some content ∧
      final.directory.entry incoming.path ≠ none := by
  have hcall := @serves_hardLink ε _ world server incoming.path object.name hfault
  rw [hardLink_eq hsource] at hcall
  rcases hname with hfree | htaken
  · have hentry := Directory.read_eq_none.1 hfree
    have hlt := world.directory.entry_lt incoming.path found hsource
    rw [if_pos hentry] at hcall
    have hne : incoming.path ≠ object.name := by
      intro heq
      rw [heq, hentry] at hsource
      cases hsource
    refine ⟨.persisted object.name, _, .bind hcall (.run_bind serves_syncParentDirectory
      (.pure _ _)), ?_, ?_⟩
    · show (world.directory.link found hlt object.name).syncEntries.read object.name = _
      rw [Directory.read_syncEntries, Directory.read_link_self, hbytes]
    · show (world.directory.link found hlt object.name).syncEntries.entry incoming.path ≠ none
      rw [Ne, ← Directory.read_eq_none, Directory.read_syncEntries, Directory.read_link_of_ne hne,
        Directory.read_eq_none, hsource]
      exact Option.some_ne_none _
  · have hentry : world.directory.entry object.name ≠ none := by
      intro hnone
      rw [Directory.read_eq_none.2 hnone] at htaken
      cases htaken
    rw [if_neg hentry] at hcall
    have hsourceRead : world.directory.read incoming.path = some content := by
      unfold Directory.read
      rw [hsource, Option.map_some, hbytes]
    have hequal := @serves_filesEqual ε _ world server incoming.path object.name content fuel
      hsourceRead htaken hfuel
    have hcompared : Serves
        (ExceptT.adapt ReceiveError.io (filesEqual fuel incoming.path object.name) :
          ReceiveProgram ε Bool).run (world, server) (.ok true) (world, server) :=
      .run_adapt hequal
    refine ⟨.alreadyPersisted object.name, world, .bind hcall (.run_bind hcompared (.pure _ _)),
      htaken, ?_⟩
    rw [hsource]
    exact Option.some_ne_none _

/-- With the temporary file in scope. -/
theorem serves_receiveInto {incoming : IncomingFile} {found : Entry} {fuel : Nat}
    (hoffered : server.offered object.name = some content)
    (hfault : nameFault object.name = none) (hnonempty : content ≠ [])
    (hsize : content.length = object.size.toNat)
    (hsource : world.directory.entry incoming.path = some found)
    (hinode : found.inode = incoming.file)
    (hempty : (world.directory.file incoming.file).bytes = [])
    (hname : (world.received object incoming.file content).directory.read object.name = none ∨
      (world.received object incoming.file content).directory.read object.name = some content)
    (hfuel : content.length < fuel) :
    ∃ outcome final,
      Serves (receiveInto fuel object incoming).run (world, server) (.ok outcome)
          (final, server.removed object.name) ∧
        final.directory.read object.name = some content ∧
        final.directory.entry incoming.path ≠ none := by
  let received := world.received object incoming.file content
  have hbytes : (received.directory.file found.inode).bytes = content := by
    rw [hinode]
    exact received_bytes hempty
  obtain ⟨outcome, middle, hpublish, hread, hentry⟩ :=
    @serves_publish ε _ received server object content incoming found fuel hsource hbytes hfault
      hname hfuel
  have hdownload : Serves (ExceptT.adapt (ReceiveError.remote .download)
      (ExceptT.mk (request (.download object incoming.file))) : ReceiveProgram ε Unit).run
      (world, server) (.ok ()) _ :=
    .run_adapt (serves_download hoffered)
  have hflush : Serves
      (ExceptT.adapt ReceiveError.io incoming.flushAndSync : ReceiveProgram ε Unit).run
      ((world.withDirectory (world.directory.append incoming.file content)).logged
        (.download object content (.ok ())), server) (.ok ()) (received, server) := rfl
  have hlength : Serves
      (ExceptT.adapt ReceiveError.io incoming.size : ReceiveProgram ε Nat).run
      (received, server) (.ok content.length) (received, server) := by
    have hsize : Serves
        (ExceptT.adapt ReceiveError.io incoming.size : ReceiveProgram ε Nat).run (received, server)
        (.ok (received.directory.file incoming.file).bytes.length) (received, server) := rfl
    have hreceived : (received.directory.file incoming.file).bytes = content :=
      received_bytes hempty
    rw [hreceived] at hsize
    exact hsize
  have hcheck : Serves
      (ExceptT.mk (pure (checkSize object content.length)) : ReceiveProgram ε Unit).run
      (received, server) (.ok ()) (received, server) := by
    rw [checkSize_of_length hnonempty hsize]
    exact .pure _ _
  have hdelete : Serves (ExceptT.adapt (ReceiveError.remote .delete)
      (ExceptT.mk (request (.delete object))) : ReceiveProgram ε Unit).run (middle, server)
      (.ok ()) (middle.logged (.delete object (.ok ())), server.removed object.name) :=
    .run_adapt (serves_delete hoffered)
  refine ⟨outcome, middle.logged (.delete object (.ok ())), ?_, hread, hentry⟩
  exact .run_bind hdownload (.run_bind hflush (.run_bind hlength (.run_bind hcheck
    (.run_bind hpublish (.run_bind hdelete (.pure _ _))))))

omit [Inhabited ε] in
/-- Where the temporary file and its download leave a name that is not temporary. -/
theorem read_createdAfter {tries : Nat} {name : String} (hlasting : ¬ IsIncomingName name) :
    ((world.createdAfter tries).received object world.directory.next content).directory.read
      name = world.directory.read name := by
  have hne : name ≠ incomingName world.processId (world.nextTempId + .ofNat tries) := by
    intro heq
    exact hlasting ⟨_, _, heq⟩
  show (((world.directory.create _).append world.directory.next content).sync
    world.directory.next).read name = _
  rw [Directory.read_sync, Directory.read_append_of_ne, Directory.read_create_of_ne hne]
  intro found hfound
  -- The entry is an old one, and the temporary file is new.
  have hold : world.directory.entry name = some found :=
    (Function.update_of_ne hne _ _).symm.trans hfound
  exact Nat.ne_of_lt (world.directory.entry_lt name found hold)

/-- The whole of `receive`. -/
theorem serves_receive (hoffered : server.offered object.name = some content)
    (hvalid : (validateRemoteName object.name : Except (ReceiveError ε) Unit) = .ok ())
    (hfault : nameFault object.name = none) (hlasting : ¬ IsIncomingName object.name)
    (hnonempty : content ≠ []) (hsize : content.length = object.size.toNat)
    (hname : world.directory.read object.name = none ∨
      world.directory.read object.name = some content)
    (hids : world.incomingNames.ncard < 2 ^ 64) :
    ∃ fuel outcome final,
      Serves (receive fuel object).run (world, server) (.ok outcome)
          (final, server.removed object.name) ∧
        final.directory.read object.name = some content := by
  obtain ⟨tries, htries, hfree, htaken⟩ := exists_first_free hids
  let fuel := tries + content.length + 1
  let path := incomingName world.processId (world.nextTempId + .ofNat tries)
  have hcreate : Serves (ExceptT.adapt ReceiveError.io (IncomingFile.create fuel) :
      ReceiveProgram ε IncomingFile).run (world, server) (.ok ⟨path, world.directory.next⟩)
      (world.createdAfter tries, server) :=
    .run_adapt (serves_of_noFault (only_create fuel)
      (runsQuietly_create fuel hfree htaken (by omega)))
  obtain ⟨outcome, middle, hinto, hread, hentry⟩ :=
    @serves_receiveInto ε _ (world.createdAfter tries) server object content
      ⟨path, world.directory.next⟩ ⟨world.directory.next, false, false⟩ fuel hoffered hfault
      hnonempty hsize (Function.update_self _ _ _) rfl
      (congrArg File.bytes (Function.update_self world.directory.next _ world.directory.file))
      (by rw [read_createdAfter hlasting]; exact hname) (by omega)
  obtain ⟨found, hfound⟩ := Option.ne_none_iff_exists'.1 hentry
  have hdrop : Serves (IncomingFile.drop ⟨path, world.directory.next⟩)
      (middle, server.removed object.name) ()
      (middle.withDirectory (middle.directory.remove path), server.removed object.name) := by
    have hremove : Serves (request (.removeFile path)) (middle, server.removed object.name)
        (middle.removeFile path).1 ((middle.removeFile path).2, server.removed object.name) := rfl
    simp only [World.removeFile, hfound] at hremove
    exact .bind hremove (.pure _ _)
  have hne : object.name ≠ path := fun heq => hlasting ⟨_, _, heq⟩
  refine ⟨fuel, outcome, middle.withDirectory (middle.directory.remove path), ?_, ?_⟩
  · have hchecked : Serves (ExceptT.mk (pure (validateRemoteName object.name)) :
        ReceiveProgram ε Unit).run (world, server) (.ok ()) (world, server) := by
      rw [hvalid]
      exact .pure _ _
    exact .run_bind hchecked (.run_bind hcreate (.bind hinto (.bind hdrop (.pure _ _))))
  · rw [World.withDirectory_directory, Directory.read_remove_of_ne hne]
    exact hread

end Receive

end TwEinvoice.Delivery
