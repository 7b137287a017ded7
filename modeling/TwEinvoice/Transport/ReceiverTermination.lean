import Mathlib.Data.Set.Card
import TwEinvoice.Rust.Text
import TwEinvoice.Transport.ReceiverSafety

/-!
# Termination of the receiver

`receive` has two loops. The first tries temporary names until one is free, the second reads two
files of one length to their ends. With a free name left and fuel for every length that a
download may have, neither runs out.
-/

namespace TwEinvoice.Transport

open Effects Rust Storage

variable {ε : Type} {assume : (op : InboxOp) → World.Choice ε op → World ε → Prop}

theorem halts_request {op : InboxOp} {world : World ε} :
    Halts (World.assuming assume) (request op) world :=
  halts_perform

/-- One try ends, and where its name is taken the next ones decide. -/
theorem halts_create_succ {world : World ε} {fuel : Nat}
    (hrest : world.directory.entry (incomingName world.processId world.nextTempId) ≠ none →
      Halts (World.assuming assume) (IncomingFile.create fuel).run
        (world.drawn (world.nextTempId + 1))) :
    Halts (World.assuming assume) (IncomingFile.create (fuel + 1)).run world := by
  refine halts_bind.2 ⟨halts_request, must_perform_handler.2 ⟨trivial, fun _ _ => ?_⟩⟩
  refine halts_bind.2 ⟨halts_request, must_perform_handler.2 ⟨trivial, fun _ _ => ?_⟩⟩
  refine halts_bind.2 ⟨halts_request, must_perform_handler.2 ⟨trivial, fun fault _ => ?_⟩⟩
  cases fault with
  | some code => trivial
  | none =>
      cases hentry : world.directory.entry (incomingName world.processId world.nextTempId) with
      | none =>
          simp only [World.handler, World.respond, World.unlessFault, World.createNew, hentry]
          trivial
      | some found =>
          rw [hentry] at hrest
          simp only [World.handler, World.respond, World.unlessFault, World.createNew, hentry]
          exact hrest (Option.some_ne_none found)

/-- Creation of the temporary file ends at the latest with a name that is free. -/
theorem halts_create {world : World ε} {tries : Nat} (fuel : Nat)
    (hfree : world.directory.entry
      (incomingName world.processId (world.nextTempId + .ofNat tries)) = none)
    (hfuel : tries < fuel) :
    Halts (World.assuming assume) (IncomingFile.create fuel).run world := by
  induction tries generalizing world fuel with
  | zero =>
      obtain ⟨fuel, rfl⟩ := Nat.exists_eq_add_one_of_ne_zero (by omega : fuel ≠ 0)
      apply halts_create_succ
      intro htaken
      rw [add_ofNat_zero] at hfree
      exact absurd hfree htaken
  | succ tries ih =>
      obtain ⟨fuel, rfl⟩ := Nat.exists_eq_add_one_of_ne_zero (by omega : fuel ≠ 0)
      apply halts_create_succ
      intro _
      apply ih
      · rw [World.drawn, add_one_add_ofNat]
        exact hfree
      · omega

theorem permitsAt_true {directory : Directory} :
    PermitsAt (fun _ _ => True : InboxOp → World ε → Prop) directory :=
  fun _ _ _ _ => trivial

theorem halts_read {world : World ε} {reader : Reader} :
    Halts (World.assuming assume) reader.read.run world :=
  halts_run_bind.2 ⟨halts_request, must_of_forall fun result _ => by cases result <;> trivial⟩

/-- Every read but the last moves forward. -/
theorem drop_chunk_length_lt {bytes : List UInt8} {position more : Nat}
    (h : (World.chunk bytes position bufferLength more).length ≠ 0) :
    (bytes.drop (position + (World.chunk bytes position bufferLength more).length)).length <
      (bytes.drop position).length := by
  have happend := congrArg List.length (chunk_append_drop bytes position bufferLength more)
  rw [List.length_append] at happend
  omega

/-- The comparison ends with the bytes of its first file. -/
theorem halts_readersEqual {world : World ε} {left right : Reader} (fuel : Nat)
    (hfuel : ((world.directory.file left.file).bytes.drop left.position).length < fuel) :
    Halts (World.assuming assume) (readersEqual fuel left right).run world := by
  induction fuel generalizing left right with
  | zero => omega
  | succ fuel ih =>
      refine halts_run_bind.2 ⟨halts_read,
        must_read permitsAt_true (fun _ => trivial) fun more => ?_⟩
      refine halts_run_bind.2 ⟨halts_read, must_read permitsAt_true (fun _ => trivial) fun _ => ?_⟩
      have hmove := @drop_chunk_length_lt (world.directory.file left.file).bytes left.position more
      simp only [onResult_ok]
      generalize World.chunk (world.directory.file left.file).bytes left.position bufferLength
        more = leftRead at hmove
      split_ifs with hlength hempty hbytes
      · trivial
      · trivial
      · trivial
      · exact ih (Nat.lt_of_lt_of_le (hmove hempty) (Nat.le_of_lt_succ hfuel))

theorem halts_openPath {world : World ε} {path : String} :
    Halts (World.assuming assume) (Reader.openPath path).run world :=
  halts_run_bind.2 ⟨halts_request, must_of_forall fun result _ => by cases result <;> trivial⟩

/-- A comparison of two files ends, with enough fuel for the first. -/
theorem halts_filesEqual {world : World ε} {fuel : Nat} {left right : String}
    (hfuel : ∀ bytes, world.directory.read left = some bytes → bytes.length < fuel) :
    Halts (World.assuming assume) (filesEqual fuel left right).run world := by
  refine halts_run_bind.2 ⟨halts_request, must_pathMetadata permitsAt_true (fun _ => trivial)
    fun leftFound hleft => ?_⟩
  refine halts_run_bind.2 ⟨halts_request, must_pathMetadata permitsAt_true (fun _ => trivial)
    fun rightFound _ => ?_⟩
  simp only [onResult_ok]
  split_ifs
  · trivial
  · refine halts_run_bind.2 ⟨halts_openPath, must_openPath permitsAt_true (fun _ => trivial)
      fun found hfound => ?_⟩
    refine halts_run_bind.2 ⟨halts_openPath, must_openPath permitsAt_true (fun _ => trivial)
      fun _ _ => ?_⟩
    refine halts_readersEqual fuel (hfuel _ ?_)
    simp [Directory.read, hfound]

/-- The publication of a temporary file ends. -/
theorem halts_publish {world : World ε} {fuel : Nat} {object : RemoteObject}
    {incoming : IncomingFile} {found : Entry}
    (hsource : world.directory.entry incoming.path = some found)
    (hfuel : ∀ bytes, world.directory.read incoming.path = some bytes → bytes.length < fuel) :
    Halts (World.assuming assume) (publish fuel object incoming).run world := by
  refine halts_bind.2 ⟨halts_request, must_request permitsAt_true (by simp) fun fault _ => ?_⟩
  have hsync : ∀ middle : World ε, Halts (World.assuming assume)
      (ExceptT.run do
        ExceptT.adapt .io syncParentDirectory
        return ReceiveOutcome.persisted object.name : Program (inboxSignature ε)
          (Except (ReceiveError ε) ReceiveOutcome)) middle := by
    intro middle
    refine halts_run_bind.2 ⟨halts_run_adapt.2 (halts_run_bind.2 ⟨halts_request, ?_⟩), ?_⟩
    · exact must_of_forall fun result _ => by cases result <;> first | trivial | exact halts_request
    · exact must_of_forall fun result _ => by cases result <;> trivial
  have hequal : Halts (World.assuming assume)
      (ExceptT.run do
        if ← ExceptT.adapt .io (filesEqual fuel incoming.path object.name) then
          return ReceiveOutcome.alreadyPersisted object.name
        else throw (.conflictingLocalObject object.name object.name) : Program (inboxSignature ε)
          (Except (ReceiveError ε) ReceiveOutcome)) world := by
    refine halts_run_bind.2 ⟨halts_run_adapt.2 (halts_filesEqual hfuel), ?_⟩
    exact must_of_forall fun result _ => by
      rcases result with error | _ | _ <;> trivial
  rcases @respond_hardLink _ world fault incoming.path object.name with
    ⟨code, hrespond⟩ | ⟨_, _, hrespond⟩
  · rw [hrespond]
    trivial
  · rw [hrespond, hardLink_eq hsource]
    split_ifs
    · exact hsync _
    · exact hequal

/-- With the temporary file in scope. -/
theorem halts_receiveInto {world : World ε} {object : RemoteObject} {incoming : IncomingFile}
    {found : Entry} {fuel : Nat} (hsource : world.directory.entry incoming.path = some found)
    (hfile : found.inode = incoming.file)
    (hempty : (world.directory.file incoming.file).bytes = []) (hfuel : 2 ^ 64 ≤ fuel) :
    Halts (World.assuming assume) (receiveInto fuel object incoming).run world := by
  refine halts_run_bind.2 ⟨halts_run_adapt.2 halts_request, must_run_adapt.2
    (must_request permitsAt_true (by simp) fun choice _ => ?_)⟩
  obtain ⟨bytes, reply⟩ := choice
  cases reply with
  | error error => trivial
  | ok _ =>
      have hflush : ∀ middle : World ε,
          Halts (World.assuming assume) incoming.flushAndSync.run middle := fun middle =>
        halts_run_bind.2 ⟨halts_request, must_of_forall fun result _ => by
          cases result <;> first | trivial | exact halts_request⟩
      refine halts_run_bind.2 ⟨halts_run_adapt.2 (hflush _), must_run_adapt.2
        (must_flushAndSync permitsAt_true (fun _ => trivial) ?_)⟩
      show Halts _ _ (world.received object incoming.file bytes)
      refine halts_run_bind.2 ⟨halts_run_adapt.2 halts_request, must_run_adapt.2
        (must_size permitsAt_true (fun _ => trivial) ?_)⟩
      rw [received_bytes hempty]
      show Halts _ _ (world.received object incoming.file bytes)
      refine halts_run_bind.2 ⟨trivial, ?_⟩
      cases hcheck : (checkSize object bytes.length : Except (ReceiveError ε) Unit) with
      | error error => trivial
      | ok _ =>
          -- The comparison of the files reads what was downloaded, which has the announced size.
          have hlength : bytes.length < fuel := by
            have hsize := (check_size_ok hcheck).2
            have hlt := object.size.toNat_lt
            omega
          refine halts_run_bind.2 ⟨halts_publish hsource fun read hread => ?_, ?_⟩
          · have hread' : (world.received object incoming.file bytes).directory.read
                incoming.path = some bytes := by
              show Option.map _ (world.directory.entry incoming.path) = _
              rw [hsource, Option.map_some, hfile, received_bytes hempty]
            cases hread'.symm.trans hread
            exact hlength
          · refine must_of_forall fun result _ => ?_
            cases result with
            | error error => trivial
            | ok outcome =>
                exact halts_run_bind.2 ⟨halts_run_adapt.2 halts_request,
                  must_of_forall fun result _ => by cases result <;> trivial⟩

/-- A call of `receive` ends once a temporary name is free. -/
theorem halts_receive {world : World ε} {object : RemoteObject} {tries fuel : Nat}
    (hfree : world.directory.entry
      (incomingName world.processId (world.nextTempId + .ofNat tries)) = none)
    (htries : tries < fuel) (hfuel : 2 ^ 64 ≤ fuel) :
    Halts (World.assuming assume) (receive fuel object).run world := by
  refine halts_run_bind.2 ⟨trivial, ?_⟩
  cases (validateRemoteName object.name : Except (ReceiveError ε) Unit) with
  | error error => trivial
  | ok _ =>
      refine halts_run_bind.2 ⟨halts_run_adapt.2 (halts_create fuel hfree htries), must_run_adapt.2
        (must_create fuel permitsAt_true (fun _ _ => trivial) fun path id _ => ?_)⟩
      refine halts_bind.2 ⟨halts_receiveInto (created_entry id path) rfl (created_bytes id path)
        hfuel, ?_⟩
      refine must_of_forall fun result middle =>
        halts_bind.2 ⟨?_, must_of_forall fun _ _ => trivial⟩
      exact halts_bind.2 ⟨halts_request, must_of_forall fun _ _ => trivial⟩

/-! ## Free names -/

/-- How many of the process's temporary names are not taken. -/
noncomputable def World.freeIncomingNames (world : World ε) : Nat :=
  {id : UInt64 | world.directory.entry (incomingName world.processId id) = none}.ncard

/-- Different numbers make different temporary names. -/
theorem incomingName_injective (processId : UInt32) :
    Function.Injective (incomingName processId) := by
  intro id other h
  have hlist := congrArg String.toList h
  rw [incomingName_toList, incomingName_toList] at hlist
  have hrepr : toString id.toNat = toString other.toNat :=
    String.toList_injective (List.append_cancel_left hlist)
  exact UInt64.toNat_inj.1 (to_string_injective hrepr)

theorem finite_ids (ids : Set UInt64) : ids.Finite :=
  haveI : Finite UInt64 := Finite.of_injective UInt64.toFin fun _ _ h => UInt64.toFin_inj.1 h
  ids.toFinite

/-- One of the next names is free if any is. -/
theorem exists_free_tries {world : World ε} (h : 0 < world.freeIncomingNames) :
    ∃ tries < 2 ^ 64, world.directory.entry
      (incomingName world.processId (world.nextTempId + .ofNat tries)) = none := by
  obtain ⟨id, hid⟩ := (Set.ncard_pos (finite_ids _)).1 h
  refine ⟨(id - world.nextTempId).toNat, (id - world.nextTempId).toNat_lt, ?_⟩
  have hsum : world.nextTempId + .ofNat (id - world.nextTempId).toNat = id := by
    rw [UInt64.ofNat_toNat, UInt64.add_comm, UInt64.sub_add_cancel]
  rw [hsum]
  exact hid

/-- Two names take up at most two of the free ones. -/
theorem freeIncomingNames_le {before after : World ε} {name other : String}
    (hprocess : after.processId = before.processId)
    (h : ∀ free, before.directory.entry free = none → free ≠ name → free ≠ other →
      after.directory.entry free = none) :
    before.freeIncomingNames ≤ after.freeIncomingNames + 2 := by
  -- Each of the names is the temporary name of one ID at most.
  have hid : ∀ taken : String, ∃ id, ∀ other : UInt64,
      incomingName before.processId other = taken → other = id := by
    intro taken
    by_cases htaken : ∃ id, incomingName before.processId id = taken
    · obtain ⟨id, rfl⟩ := htaken
      exact ⟨id, fun other heq => incomingName_injective _ heq⟩
    · exact ⟨0, fun other heq => absurd ⟨other, heq⟩ htaken⟩
  obtain ⟨first, hfirst⟩ := hid name
  obtain ⟨second, hsecond⟩ := hid other
  have hsubset : {id : UInt64 | before.directory.entry (incomingName before.processId id) = none} ⊆
      insert first (insert second
        {id : UInt64 | after.directory.entry (incomingName after.processId id) = none}) := by
    intro id hfree
    rw [Set.mem_insert_iff, Set.mem_insert_iff]
    by_cases hname : incomingName before.processId id = name
    · exact .inl (hfirst id hname)
    · by_cases hother : incomingName before.processId id = other
      · exact .inr (.inl (hsecond id hother))
      · refine .inr (.inr ?_)
        rw [Set.mem_ofPred_eq, hprocess]
        exact h _ hfree hname hother
  calc before.freeIncomingNames
      ≤ _ := Set.ncard_le_ncard hsubset (finite_ids _)
    _ ≤ _ + 1 := Set.ncard_insert_le _ _
    _ ≤ after.freeIncomingNames + 1 + 1 := Nat.succ_le_succ (Set.ncard_insert_le _ _)

end TwEinvoice.Transport
