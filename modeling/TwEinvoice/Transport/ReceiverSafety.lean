import TwEinvoice.Transport.ReceiverRules

/-!
# When a received object is kept

After `receive` has called `delete`, the inbox holds the downloaded object, with one exception:
the object has the very name that `IncomingFile::create` picks for the temporary file. Then the
hard link meets the temporary file itself, the comparison finds it equal to itself, and dropping
the temporary file removes the only copy. `object_kept_iff` says that this is the only exception.
-/

namespace TwEinvoice.Transport

open Effects Storage

variable {ε : Type}

/-- The removal of a file does not fail. -/
def RemovalSucceeds : (op : InboxOp) → World.Choice ε op → World ε → Prop
  | .removeFile _, fault, _ => fault = none
  | _, _, _ => True

/-- The object has been downloaded and `delete` has been called for it. -/
structure Acknowledged (object : RemoteObject) (bytes : List UInt8) (final : World ε) : Prop where
  downloaded : .download object bytes (.ok ()) ∈ final.remote
  deleted : ∃ reply, .delete object reply ∈ final.remote

/-- The inbox holds the downloaded object, and the result says that it was deleted or that only
the deletion failed. -/
structure Kept (object : RemoteObject) (bytes : List UInt8)
    (result : Except (ReceiveError ε) ReceiveOutcome) (final : World ε) : Prop where
  read : final.directory.read object.name = some bytes
  nonempty : bytes ≠ []
  size : bytes.length = object.size.toNat
  result : (∃ outcome, result = .ok outcome) ∨ ∃ error, result = .error (.remote .delete error)

/-! ## Objects under other names -/

/-- What a call of `receive` with this temporary file leaves behind: `delete` has not been
called, or a checked download is kept unless the object has the name of the temporary file. -/
def Received (object : RemoteObject) (temporary : String) (initial : World ε)
    (result : Except (ReceiveError ε) ReceiveOutcome) (final : World ε) : Prop :=
  OnlyDownloaded object initial final ∨
    ∃ bytes reply,
      final.remote = initial.remote ++ [.download object bytes (.ok ()), .delete object reply] ∧
      bytes ≠ [] ∧ bytes.length = object.size.toNat ∧
      (object.name ≠ temporary → Kept object bytes result final)

/-- Once `delete` has been called, the result is `Ok` or the failure of the deletion. -/
theorem acknowledged_result (outcome : ReceiveOutcome) (reply : Except ε Unit) :
    (∃ value, ((reply.map fun _ => outcome).mapError (ReceiveError.remote .delete)) =
        .ok value) ∨
      ∃ error, ((reply.map fun _ => outcome).mapError (ReceiveError.remote .delete)) =
        .error (.remote .delete error) := by
  cases reply with
  | ok _ => exact .inl ⟨outcome, rfl⟩
  | error error => exact .inr ⟨error, rfl⟩

/-- Removing the temporary file does not undo this. -/
theorem Received.remove {object : RemoteObject} {initial middle : World ε} {temporary : String}
    {result : Except (ReceiveError ε) ReceiveOutcome}
    (h : Received object temporary initial result middle) :
    Received object temporary initial result
      (middle.withDirectory (middle.directory.remove temporary)) := by
  obtain hdownloaded | ⟨bytes, reply, hremote, hbytes, hsize, hkept⟩ := h
  · exact .inl hdownloaded
  · refine .inr ⟨bytes, reply, hremote, hbytes, hsize, fun hname => ?_⟩
    obtain ⟨hread, _, _, hresult⟩ := hkept hname
    exact ⟨(Directory.read_remove_of_ne hname).trans hread, hbytes, hsize, hresult⟩

/-- With the temporary file in scope, both ways to `delete` keep the object. -/
theorem must_receiveInto_received {assume : (op : InboxOp) → World.Choice ε op → World ε → Prop}
    {object : RemoteObject} {initial : World ε} (fuel : Nat) (path : String) (id : UInt64) :
    Must (World.assuming assume) (fun _ _ => True)
      (receiveInto fuel object ⟨path, initial.directory.next⟩).run
      (Received object path initial) (initial.created id path) := by
  have hempty := @created_bytes _ initial id path
  have hentry := @created_entry _ initial id path
  refine must_receiveInto (fun _ => True) fuel hentry hempty
    (fun _ _ _ _ _ _ => trivial) trivial (fun _ => trivial) (fun _ => trivial)
    (fun _ _ => trivial) (fun _ _ hunpublished => .inl hunpublished.onlyDownloaded)
    (fun _ bytes _ _ _ _ _ => .inl (.inr ⟨bytes, .ok (), rfl⟩)) ?_ ?_
  · intro bytes hfound hbytes hsize hfree
    refine ⟨trivial, fun reply => .inr ⟨bytes, reply, ?_, hbytes, hsize, fun _ => ?_⟩⟩
    · simp [World.published, World.received, World.created, World.drawn]
    · refine ⟨?_, hbytes, hsize, acknowledged_result _ reply⟩
      simp [World.published, received_bytes hempty]
  · intro bytes existing hbytes hsize hleft hright _
    refine ⟨trivial, fun reply => .inr ⟨bytes, reply, ?_, hbytes, hsize, fun _ => ?_⟩⟩
    · simp [World.received, World.created, World.drawn]
    · refine ⟨?_, hbytes, hsize, acknowledged_result _ reply⟩
      exact hright.trans (hleft.symm.trans (created_received_read id path object bytes))

/-- Every call of `receive`. -/
theorem must_receive_received {assume : (op : InboxOp) → World.Choice ε op → World ε → Prop}
    {object : RemoteObject} {initial : World ε} (fuel : Nat) :
    Must (World.assuming assume) (fun _ _ => True) (receive fuel object).run
      (fun result final => OnlyDownloaded object initial final ∨
        ∃ temporary, NextIncomingName initial temporary ∧
          Received object temporary initial result final) initial := by
  refine must_receive fuel (fun _ _ _ _ => trivial) ?_ ?_ fun path id hnext => ?_
  · exact fun error => .inl (.inl rfl)
  · exact fun error id => .inl (.inl rfl)
  · refine (must_receiveInto_received fuel path id).mono fun result middle hreceived => ?_
    exact ⟨fun _ _ _ _ => trivial, fun _ _ => .inr ⟨path, hnext, hreceived⟩,
      .inr ⟨path, hnext, hreceived.remove⟩⟩

/-! ## The object under the temporary name -/

theorem incomingName_toList (processId : UInt32) (id : UInt64) :
    (incomingName processId id).toList =
      ".incoming-".toList ++ processId.toNat.repr.toList ++ "-".toList ++
        id.toNat.repr.toList := by
  show (".incoming-" ++ processId.toNat.repr ++ "-" ++ id.toNat.repr).toList = _
  simp only [String.toList_append]

/-- Every character of a temporary name is one of its fixed start or a digit. -/
theorem mem_incomingName {processId : UInt32} {id : UInt64} {c : Char}
    (h : c ∈ (incomingName processId id).toList) :
    c ∈ ".incoming-".toList ∨ c.isDigit := by
  have hdigit : ∀ n : Nat, c ∈ n.repr.toList → c.isDigit := by
    intro n hc
    rw [Nat.toList_repr] at hc
    exact Nat.isDigit_of_mem_toDigits (by decide) (by decide) hc
  rw [incomingName_toList] at h
  simp only [List.mem_append] at h
  obtain ((hstart | hpid) | hdash) | hid := h
  · exact .inl hstart
  · exact .inr (hdigit _ hpid)
  · left
    have hdash : c = '-' := by simpa using hdash
    rw [hdash]
    decide
  · exact .inr (hdigit _ hid)

/-- A name without separators is its own last component. -/
theorem file_name_eq_self {name : String} (hempty : name ≠ "") (hcurrent : name ≠ ".")
    (hparent : name ≠ "..") (hslash : '/' ∉ name.toList) : fileName name = some name := by
  have hne : ∀ other : String, name ≠ other → name.toList ≠ other.toList :=
    fun other h heq => h (String.toList_injective heq)
  have hnil : name.toList ≠ [] := hne "" hempty
  have hdot : name.toList ≠ ['.'] := hne "." hcurrent
  have hdots : name.toList ≠ ['.', '.'] := hne ".." hparent
  simp [fileName, List.splitOn_eq_singleton hslash, hnil, hdot, hdots, String.ofList_toList]

/-- A character takes at most four bytes. -/
theorem utf8ByteSize_le (text : String) : text.utf8ByteSize ≤ 4 * text.length := by
  induction text using String.push_induction with
  | empty => exact Nat.le_refl 0
  | push text c ih =>
      rw [String.utf8ByteSize_push, String.length_push]
      have hsize := c.utf8Size_le_four
      omega

theorem length_incomingName_le (processId : UInt32) (id : UInt64) :
    (incomingName processId id).length ≤ 41 := by
  have hprocess : processId.toNat.repr.length ≤ 10 :=
    (Nat.length_repr_le_iff (by decide)).2 (Nat.lt_of_lt_of_le processId.toNat_lt (by decide))
  have hid : id.toNat.repr.length ≤ 20 :=
    (Nat.length_repr_le_iff (by decide)).2 (Nat.lt_of_lt_of_le id.toNat_lt (by decide))
  rw [← String.length_toList, incomingName_toList]
  simp only [List.length_append, String.length_toList]
  have hstart : ".incoming-".length = 10 := rfl
  have hdash : "-".length = 1 := rfl
  omega

/-- A file system takes any temporary name. -/
theorem nameFault_incomingName (processId : UInt32) (id : UInt64) :
    nameFault (incomingName processId id) = none := by
  have hnul : '\x00' ∉ (incomingName processId id).toList := by
    intro hmem
    rcases mem_incomingName hmem with hstart | hdigit
    · exact absurd hstart (by decide)
    · exact absurd hdigit (by decide)
  have hbytes := utf8ByteSize_le (incomingName processId id)
  have hlength := length_incomingName_le processId id
  unfold nameFault
  rw [if_neg hnul, if_neg (by omega)]

/-- A remote object may have the name of a temporary file. -/
theorem validate_incomingName (processId : UInt32) (id : UInt64) :
    (validateRemoteName (incomingName processId id) : Except (ReceiveError ε) Unit) = .ok () := by
  have hne : ∀ other : String, other.toList.length < 10 → incomingName processId id ≠ other := by
    intro other hlength heq
    rw [← heq, incomingName_toList] at hlength
    simp only [List.length_append] at hlength
    have hstart : ".incoming-".toList.length = 10 := by decide
    omega
  have hfree : ∀ c, c ∉ ".incoming-".toList → c.isDigit = false →
      c ∉ (incomingName processId id).toList := by
    intro c hstart hdigit hmem
    obtain h | h := mem_incomingName hmem
    · exact hstart h
    · exact absurd h (by rw [hdigit]; exact Bool.false_ne_true)
  have hempty := hne "" (by decide)
  have hcurrent := hne "." (by decide)
  have hparent := hne ".." (by decide)
  have hslash := hfree '/' (by decide) (by decide)
  exact if_pos ⟨hempty, hcurrent, hparent, hslash, hfree '\\' (by decide) (by decide),
    file_name_eq_self hempty hcurrent hparent hslash⟩

/-- A call that meets no fault. -/
theorem may_request {world : World ε} {op : InboxOp}
    {post : (inboxSignature ε).Reply op → World ε → Prop} (choice : World.Choice ε op)
    (hassume : RemovalSucceeds op choice world)
    (hpost : post (World.respond op choice world).1 (World.respond op choice world).2) :
    May (World.assuming RemovalSucceeds) (request op) post world :=
  may_perform_handler choice hassume hpost

/-- Creation of the temporary file, with the next free name. -/
theorem may_create {world : World ε} {path : String} (hnext : NextIncomingName world path) :
    ∃ bound, ∀ fuel, bound ≤ fuel →
      May (World.assuming RemovalSucceeds) (IncomingFile.create fuel).run
        (fun result final => ∃ id, result = .ok ⟨path, world.directory.next⟩ ∧
          final = world.created id path) world := by
  obtain ⟨tries, hname, hfree, hearlier⟩ := hnext
  refine ⟨tries + 1, fun fuel hfuel => ?_⟩
  induction tries generalizing world fuel with
  | zero =>
      obtain ⟨fuel, rfl⟩ := Nat.exists_eq_add_one_of_ne_zero (by omega : fuel ≠ 0)
      have hpath : incomingName world.processId world.nextTempId = path := by simp [hname]
      refine may_bind.2 (may_request () trivial (may_bind.2 (may_request () trivial
        (may_bind.2 (may_request none trivial ?_)))))
      simp only [World.respond, World.unlessFault, World.createNew, hpath, hfree]
      exact ⟨world.nextTempId + 1, rfl, rfl⟩
  | succ tries ih =>
      obtain ⟨fuel, rfl⟩ := Nat.exists_eq_add_one_of_ne_zero (by omega : fuel ≠ 0)
      have htaken := hearlier 0 (by omega)
      obtain ⟨found, hfound⟩ := Option.ne_none_iff_exists'.1 htaken
      rw [add_ofNat_zero] at hfound
      have hrest := @ih (world.drawn (world.nextTempId + 1))
        (by rw [World.drawn, add_one_add_ofNat]; exact hname) hfree
        (fun earlier hlt => by
          rw [World.drawn, add_one_add_ofNat]
          exact hearlier (earlier + 1) (by omega)) fuel (by omega)
      refine may_bind.2 (may_request () trivial (may_bind.2 (may_request () trivial
        (may_bind.2 (may_request none trivial ?_)))))
      simp only [World.respond, World.unlessFault, World.createNew, hfound]
      exact hrest

/-- A read may fill its whole buffer. -/
theorem may_read {world : World ε} {reader : Reader}
    {post : Except IoError (List UInt8 × Reader) → World ε → Prop}
    (hpost : post (.ok (World.chunk (world.directory.file reader.file).bytes
        reader.position bufferLength bufferLength,
      ⟨reader.file, reader.position + (World.chunk (world.directory.file reader.file).bytes
        reader.position bufferLength bufferLength).length⟩)) world) :
    May (World.assuming RemovalSucceeds) reader.read.run post world :=
  may_run_bind.2 (may_request (none, bufferLength) trivial hpost)

/-- The comparison of readers that have the same bytes ahead of them, in whole chunks. -/
theorem may_readersEqual {world : World ε} {left right : Reader} (fuel : Nat)
    (hsame : (world.directory.file left.file).bytes.drop left.position =
      (world.directory.file right.file).bytes.drop right.position)
    (hfuel : ((world.directory.file left.file).bytes.drop left.position).length < fuel) :
    May (World.assuming RemovalSucceeds) (readersEqual fuel left right).run
      (fun result final => result = .ok true ∧ final = world) world := by
  induction fuel generalizing left right with
  | zero => omega
  | succ fuel ih =>
      refine may_run_bind.2 (may_read (may_run_bind.2 (may_read ?_)))
      have hchunk : World.chunk (world.directory.file right.file).bytes right.position
          bufferLength bufferLength =
        World.chunk (world.directory.file left.file).bytes left.position
          bufferLength bufferLength := by
        rw [World.chunk, World.chunk, hsame]
      have hlength : (World.chunk (world.directory.file left.file).bytes left.position
          bufferLength bufferLength).length ≤
        ((world.directory.file left.file).bytes.drop left.position).length :=
        List.length_take_le' _ _
      rw [hchunk]
      generalize World.chunk (world.directory.file left.file).bytes left.position
        bufferLength bufferLength = chunk at hlength
      simp only [onResult_ok, ne_eq, not_true_eq_false, if_false]
      split_ifs with hend
      · exact ⟨rfl, rfl⟩
      · refine ih ?_ ?_
        · show List.drop (_ + chunk.length) _ = List.drop (_ + chunk.length) _
          rw [← List.drop_drop, ← List.drop_drop, hsame]
        · show (List.drop (left.position + chunk.length)
            (world.directory.file left.file).bytes).length < fuel
          rw [← List.drop_drop, List.length_drop]
          omega

theorem may_pathMetadata {world : World ε} {path : String} {found : Entry}
    {post : Except IoError Nat → World ε → Prop}
    (hentry : world.directory.entry path = some found)
    (hpost : post (.ok (world.directory.file found.inode).bytes.length) world) :
    May (World.assuming RemovalSucceeds) (request (.pathMetadata path)) post world := by
  refine may_request none trivial ?_
  simpa only [World.respond, World.unlessFault, World.lookup, hentry] using hpost

theorem may_openPath {world : World ε} {path : String} {found : Entry}
    {post : Except IoError Reader → World ε → Prop}
    (hentry : world.directory.entry path = some found) (hpost : post (.ok ⟨found.inode, 0⟩) world) :
    May (World.assuming RemovalSucceeds) (Reader.openPath path).run post world := by
  refine may_run_bind.2 (may_request none trivial ?_)
  simp only [World.respond, World.unlessFault, World.lookup, hentry]
  exact hpost

/-- A file compared with itself. -/
theorem may_filesEqual {world : World ε} {path : String} {found : Entry} {fuel : Nat}
    (hentry : world.directory.entry path = some found)
    (hfuel : (world.directory.file found.inode).bytes.length < fuel) :
    May (World.assuming RemovalSucceeds) (filesEqual fuel path path).run
      (fun result final => result = .ok true ∧ final = world) world := by
  refine may_run_bind.2 (may_pathMetadata hentry (may_run_bind.2 (may_pathMetadata hentry ?_)))
  simp only [onResult_ok, ne_eq, not_true_eq_false, if_false]
  refine may_run_bind.2 (may_openPath hentry (may_run_bind.2 (may_openPath hentry ?_)))
  exact may_readersEqual fuel rfl (by simpa using hfuel)

/-- Publishing the temporary file under its own name finds it published already. -/
theorem may_publish_itself {world : World ε} {object : RemoteObject} {file fuel : Nat}
    {found : Entry} (hentry : world.directory.entry object.name = some found)
    (hname : nameFault object.name = none)
    (hfuel : (world.directory.file found.inode).bytes.length < fuel) :
    May (World.assuming RemovalSucceeds) (publish fuel object ⟨object.name, file⟩).run
      (fun result final => result = .ok (.alreadyPersisted object.name) ∧ final = world)
      world := by
  refine may_bind.2 (may_request none trivial ?_)
  have htaken : world.directory.entry object.name ≠ none := by simp [hentry]
  simp only [World.respond, World.unlessFault, Option.none_or, hname, hardLink_eq hentry,
    if_neg htaken]
  refine may_run_bind.2 (may_run_adapt.2 ((may_filesEqual hentry hfuel).mono ?_))
  rintro _ _ ⟨rfl, rfl⟩
  exact ⟨rfl, rfl⟩

/-- An object whose name is the temporary one may be compared with itself. -/
theorem may_receiveInto_itself {world : World ε} {object : RemoteObject} {bytes : List UInt8}
    {fuel : Nat} {found : Entry} (hentry : world.directory.entry object.name = some found)
    (hname : nameFault object.name = none)
    (hempty : (world.directory.file found.inode).bytes = []) (hbytes : bytes ≠ [])
    (hsize : bytes.length = object.size.toNat) (hfuel : bytes.length < fuel) :
    May (World.assuming RemovalSucceeds) (receiveInto fuel object ⟨object.name, found.inode⟩).run
      (fun result final => result = .ok (.alreadyPersisted object.name) ∧
        final = (world.received object found.inode bytes).logged (.delete object (.ok ())))
      world := by
  have hreceived := @received_bytes _ world object _ bytes hempty
  have hcheck : (checkSize object bytes.length : Except (ReceiveError ε) Unit) = .ok () := by
    have hpositive : bytes.length ≠ 0 := mt List.length_eq_zero_iff.1 hbytes
    rw [checkSize, if_neg hpositive, if_neg (not_not.2 hsize)]
  refine may_run_bind.2 (may_run_adapt.2 (may_request (bytes, .ok ()) trivial ?_))
  refine may_run_bind.2 (may_run_adapt.2 (may_run_bind.2 (may_request none trivial
    (may_request none trivial ?_))))
  refine may_run_bind.2 (may_run_adapt.2 (may_request none trivial ?_))
  show May _ (ExceptT.run (ExceptT.mk (pure (checkSize object
    ((world.received object found.inode bytes).directory.file found.inode).bytes.length)) >>= _))
    _ (world.received object found.inode bytes)
  rw [hreceived, hcheck]
  have hown := @may_publish_itself _ (world.received object found.inode bytes) object found.inode
    fuel found hentry hname (by rw [hreceived]; exact hfuel)
  refine may_run_bind.2 (may_run_bind.2 (hown.mono ?_))
  rintro _ _ ⟨rfl, rfl⟩
  exact may_run_bind.2 (may_run_adapt.2 (may_request (.ok ()) trivial ⟨rfl, rfl⟩))

/-- The object under the name of the temporary file is downloaded, deleted and lost. -/
theorem may_lose {world : World ε} {object : RemoteObject} {bytes : List UInt8}
    (hname : NextIncomingName world object.name) (hbytes : bytes ≠ [])
    (hsize : bytes.length = object.size.toNat) :
    ∃ fuel, May (World.assuming RemovalSucceeds) (receive fuel object).run
      (fun result final => result = .ok (.alreadyPersisted object.name) ∧
        final.directory.read object.name = none ∧
        final.remote = world.remote ++
          [.download object bytes (.ok ()), .delete object (.ok ())]) world := by
  have hvalid : (validateRemoteName object.name : Except (ReceiveError ε) Unit) = .ok () := by
    obtain ⟨tries, hincoming, _⟩ := hname
    rw [hincoming]
    exact validate_incomingName _ _
  have hnamed : nameFault object.name = none := by
    obtain ⟨tries, hincoming, _⟩ := hname
    rw [hincoming]
    exact nameFault_incomingName _ _
  obtain ⟨bound, hcreate⟩ := may_create hname
  refine ⟨max bound (bytes.length + 1), may_run_bind.2 ?_⟩
  rw [hvalid]
  refine may_run_bind.2 (may_run_adapt.2 ((hcreate _ (le_max_left _ _)).mono ?_))
  rintro _ _ ⟨id, rfl, rfl⟩
  have hentry := @created_entry _ world id object.name
  have hempty := @created_bytes _ world id object.name
  refine may_bind.2 ((may_receiveInto_itself hentry hnamed hempty hbytes hsize
    (Nat.lt_of_lt_of_le (Nat.lt_succ_self _) (le_max_right _ _))).mono ?_)
  rintro result _ ⟨rfl, rfl⟩
  refine may_bind.2 (may_bind.2 (may_request none rfl ?_))
  have hentry' : (((world.created id object.name).received object world.directory.next
      bytes).logged (.delete object (.ok ()))).directory.entry object.name =
      some ⟨world.directory.next, false, false⟩ := hentry
  simp only [World.respond, World.unlessFault, World.removeFile, hentry']
  refine ⟨rfl, Directory.read_remove_self _ _, ?_⟩
  simp [World.received, World.created, World.drawn]

/-! ## Exactly when an object is kept -/

/-- The world before a call of `receive`, with nothing logged. -/
def World.start (directory : Directory) (processId : UInt32) (nextTempId : UInt64) : World ε :=
  ⟨directory, processId, nextTempId, []⟩

/-- The bytes of an acknowledged download are those of the only download in the log. -/
theorem Acknowledged.bytes_eq {object : RemoteObject} {bytes written : List UInt8}
    {reply : Except ε Unit} {final : World ε} (h : Acknowledged object bytes final)
    (hremote : final.remote = [.download object written (.ok ()), .delete object reply]) :
    bytes = written := by
  have hmem := h.downloaded
  rw [hremote] at hmem
  simpa using hmem

/-- Without a call of `delete` nothing is acknowledged. -/
theorem OnlyDownloaded.not_acknowledged {object : RemoteObject} {bytes : List UInt8}
    {initial final : World ε} (h : OnlyDownloaded object initial final)
    (hinitial : initial.remote = []) : ¬ Acknowledged object bytes final := by
  rintro ⟨_, reply, hdelete⟩
  obtain hremote | ⟨written, answer, hremote⟩ := h
  · rw [hremote, hinitial] at hdelete
    cases hdelete
  · rw [hremote, hinitial] at hdelete
    simp at hdelete

/-- An acknowledged object is kept in every run, unless it is a download that passes the checks
and has the name of the temporary file. -/
theorem object_kept_iff (directory : Directory) (processId : UInt32) (nextTempId : UInt64)
    (object : RemoteObject) (bytes : List UInt8) :
    (∀ fuel result final, Runs (World.assuming RemovalSucceeds) (receive fuel object).run
        (World.start directory processId nextTempId : World ε) result final →
      Acknowledged object bytes final → Kept object bytes result final) ↔
    ¬ (NextIncomingName (World.start directory processId nextTempId : World ε) object.name ∧
      bytes ≠ [] ∧ bytes.length = object.size.toNat) := by
  constructor
  · -- Under the temporary name there is a run that loses the object.
    rintro hkept ⟨hname, hbytes, hsize⟩
    obtain ⟨fuel, hlose⟩ := may_lose hname hbytes hsize
    obtain ⟨result, final, hrun, _, hread, hremote⟩ := hlose.exists_runs
    have hacknowledged : Acknowledged object bytes final :=
      ⟨by simp [hremote], .ok (), by simp [hremote]⟩
    have hpresent := (hkept fuel result final hrun hacknowledged).read
    rw [hread] at hpresent
    cases hpresent
  · -- Under any other name every run that calls `delete` keeps it.
    intro hsafe fuel result final hrun hacknowledged
    obtain hdownloaded | ⟨temporary, htemporary, hreceived⟩ :=
      (must_receive_received fuel).runs hrun
    · exact absurd hacknowledged (hdownloaded.not_acknowledged rfl)
    · obtain hdownloaded | ⟨written, reply, hremote, hbytes, hsize, hkept⟩ := hreceived
      · exact absurd hacknowledged (hdownloaded.not_acknowledged rfl)
      · cases hacknowledged.bytes_eq hremote
        refine hkept fun hname => hsafe ⟨?_, hbytes, hsize⟩
        rw [hname]
        exact htemporary

/-- With an empty inbox, process 7 loses the one-byte object `.incoming-7-0` and reports
success. -/
theorem temporary_name_lost :
    ∃ fuel final, Runs (World.assuming RemovalSucceeds)
        (receive fuel ⟨".incoming-7-0", 1⟩).run (World.start .empty 7 0 : World Unit)
        (.ok (.alreadyPersisted ".incoming-7-0")) final ∧
      Acknowledged ⟨".incoming-7-0", 1⟩ [65] final ∧
      final.directory.read ".incoming-7-0" = none := by
  have hname : NextIncomingName (World.start .empty 7 0 : World Unit) ".incoming-7-0" :=
    ⟨0, by decide, rfl, by simp⟩
  obtain ⟨fuel, hlose⟩ := @may_lose Unit (World.start .empty 7 0) ⟨".incoming-7-0", 1⟩ [65] hname
    (by decide) (by decide)
  obtain ⟨result, final, hrun, rfl, hread, hremote⟩ := hlose.exists_runs
  exact ⟨fuel, final, hrun, ⟨by simp [hremote], .ok (), by simp [hremote]⟩, hread⟩

end TwEinvoice.Transport
