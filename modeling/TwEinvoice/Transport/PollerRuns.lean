import TwEinvoice.Transport.Poller
import TwEinvoice.Transport.ReceiverEffects
import TwEinvoice.Transport.ReceiverTermination

/-!
# Runs of the poller

What one poll does, whatever the remote inbox answers and whichever calls fail.
-/

namespace TwEinvoice.Transport

open Effects Results Rust Storage

variable {ε ξ : Type} {assume : (op : InboxOp) → World.Choice ε op → World ε → Prop}

/-! ## One object loaded -/

/-- Reading a file changes nothing. -/
theorem must_readToEnd {permits : InboxOp → World ε → Prop} {world : World ε} {reader : Reader}
    {post : Except IoError (List UInt8) → World ε → Prop} (fuel : Nat) (bytes : List UInt8)
    (hpermits : PermitsAt permits world.directory) (hpost : ∀ result, post result world) :
    Must (World.assuming assume) permits (readToEnd fuel reader bytes).run post world := by
  induction fuel generalizing reader bytes with
  | zero => exact must_outOfFuel
  | succ fuel ih =>
      refine must_run_bind.2 (must_read hpermits (fun error => hpost (.error error)) fun more => ?_)
      simp only [onResult_ok]
      split_ifs
      · exact hpost (.ok bytes)
      · exact ih _

theorem halts_readToEnd {world : World ε} {reader : Reader} (fuel : Nat) (bytes : List UInt8)
    (hfuel : ((world.directory.file reader.file).bytes.drop reader.position).length < fuel) :
    Halts (World.assuming assume) (readToEnd fuel reader bytes).run world := by
  induction fuel generalizing reader bytes with
  | zero => omega
  | succ fuel ih =>
      refine halts_run_bind.2 ⟨halts_read,
        must_read permitsAt_true (fun _ => trivial) fun more => ?_⟩
      simp only [onResult_ok]
      split_ifs with hempty
      · trivial
      · exact ih _ (Nat.lt_of_lt_of_le (drop_chunk_length_lt hempty) (Nat.le_of_lt_succ hfuel))

/-- Loading a record changes nothing. -/
theorem must_load {permits : InboxOp → World ε → Prop} {world : World ε}
    {parsers : ResultParsers ξ} {path : String}
    {post : Except (DurableInboundError ξ) DurableInboundRecord → World ε → Prop} (fuel : Nat)
    (hpermits : PermitsAt permits world.directory) (hpost : ∀ result, post result world) :
    Must (World.assuming assume) permits (DurableInboundRecord.load parsers fuel path).run post
      world := by
  unfold DurableInboundRecord.load
  cases fileName path with
  | none => exact hpost _
  | some name =>
      refine must_run_bind.2 (must_run_adapt.2 (must_run_bind.2 (must_openPath hpermits ?_ ?_)))
      · exact fun error => hpost _
      · intro found _
        refine must_readToEnd fuel [] hpermits fun result => ?_
        cases result with
        | error error => exact hpost _
        | ok bytes =>
            refine must_run_bind.2 ?_
            show onResult _ _ ((parseReconciliation parsers (classifyRemoteName name)
              bytes).mapError DurableInboundError.parse) world
            cases (parseReconciliation parsers (classifyRemoteName name) bytes).mapError
              DurableInboundError.parse <;> exact hpost _

/-- A record is loaded, with enough fuel for its file. -/
theorem halts_load {world : World ε} {parsers : ResultParsers ξ} {path : String} {fuel : Nat}
    (hfuel : ∀ bytes, world.directory.read path = some bytes → bytes.length < fuel) :
    Halts (World.assuming assume) (DurableInboundRecord.load parsers fuel path).run world := by
  unfold DurableInboundRecord.load
  cases fileName path with
  | none => trivial
  | some name =>
      refine halts_run_bind.2 ⟨halts_run_adapt.2 (halts_run_bind.2 ⟨halts_openPath,
        must_openPath permitsAt_true (fun _ => trivial) fun found hfound => ?_⟩), ?_⟩
      · refine halts_readToEnd fuel [] (hfuel _ ?_)
        simp [Directory.read, hfound]
      · refine must_of_forall fun result _ => ?_
        cases result with
        | error error => trivial
        | ok bytes =>
            refine halts_run_bind.2 ⟨trivial, must_of_forall fun result _ => ?_⟩
            cases result <;> trivial

/-! ## One turn of the loop -/

/-- The remote calls made for one object of the listing. -/
structure AttemptCalls (object : RemoteObject) (calls : List (RemoteCall ε))
    (result : Except (PollObjectError ε ξ) ReconciledObject) : Prop where
  after_download : ∀ deleted reply, .delete deleted reply ∈ calls → deleted = object ∧
    ∃ bytes, Complete object bytes ∧
      calls = [.download object bytes (.ok ()), .delete object reply]
  succeeds_iff : .delete object (.ok ()) ∈ calls ↔
    (∃ reconciled, result = .ok reconciled) ∨ ∃ error, result = .error (.parse error)

/-- An object that was not received was not deleted either. -/
theorem ReceiveCalls.attempt_error {object : RemoteObject} {calls : List (RemoteCall ε)}
    {error : ReceiveError ε} (h : ReceiveCalls object calls (.error error)) :
    AttemptCalls object calls
      (.error (.receive error) : Except (PollObjectError ε ξ) ReconciledObject) := by
  cases h with
  | none => exact ⟨by simp, by simp⟩
  | downloaded bytes reply => exact ⟨by simp, by simp⟩
  | undeleted hcomplete =>
      refine ⟨fun deleted reply hmem => ?_, by simp⟩
      rw [List.mem_cons, List.mem_singleton] at hmem
      obtain hmem | hmem := hmem
      · cases hmem
      · cases hmem
        exact ⟨rfl, _, hcomplete, rfl⟩

/-- A received object was deleted, whether or not it can be loaded. -/
theorem ReceiveCalls.attempt_ok {object : RemoteObject} {calls : List (RemoteCall ε)}
    {outcome : ReceiveOutcome} (h : ReceiveCalls object calls (.ok outcome))
    (loaded : Except (DurableInboundError ξ) DurableInboundRecord) :
    AttemptCalls object calls
      ((loaded.map fun record => ReconciledObject.mk outcome record).mapError .parse :
        Except (PollObjectError ε ξ) ReconciledObject) := by
  cases h with
  | deleted hcomplete =>
      refine ⟨fun deleted reply hmem => ?_, ?_⟩
      · rw [List.mem_cons, List.mem_singleton] at hmem
        obtain hmem | hmem := hmem
        · cases hmem
        · cases hmem
          exact ⟨rfl, _, hcomplete, rfl⟩
      · refine iff_of_true (by simp) ?_
        cases loaded with
        | ok record => exact .inl ⟨_, rfl⟩
        | error error => exact .inr ⟨_, rfl⟩

/-- What one turn of the loop does. -/
structure PollEffect (object : RemoteObject) (before : World ε) (leftover : Option String)
    (result : Except (PollObjectError ε ξ) ReconciledObject) (after : World ε) : Prop where
  process : after.processId = before.processId
  files : ∃ calls, after.remote = before.remote ++ calls ∧ AttemptCalls object calls result ∧
    ∀ name, leftover ≠ some name → FileAfter object calls before.directory after.directory name

/-- One object: what the attempt does to the inbox and the server. -/
theorem must_pollObject (parsers : ResultParsers ξ) (fuel : Nat) (object : RemoteObject)
    (before : World ε) :
    Must (World.assuming assume) (DeletesOnly [object]) (pollObject parsers fuel object)
      (fun result after => ∃ leftover, PollEffect object before leftover result after ∧
        ∀ path, leftover = some path → MayRemain assume path) before := by
  refine (must_receive_effect fuel object before).bind ?_
  rintro result after ⟨leftover, heffect, hremain⟩
  obtain ⟨calls, hremote, hcalls, hfiles⟩ := heffect.files
  cases result with
  | error error =>
      exact ⟨leftover, ⟨heffect.process, calls, hremote, hcalls.attempt_error, hfiles⟩, hremain⟩
  | ok outcome =>
      refine must_bind.2 (must_load fuel (permitsAt_deletesOnly [object] _) fun loaded => ?_)
      exact ⟨leftover, ⟨heffect.process, calls, hremote, hcalls.attempt_ok loaded, hfiles⟩,
        hremain⟩

/-- One turn takes up at most two of the free temporary names. -/
theorem PollEffect.freeIncomingNames_le {object : RemoteObject} {before after : World ε}
    {leftover : Option String} {result : Except (PollObjectError ε ξ) ReconciledObject}
    (h : PollEffect object before leftover result after) :
    before.freeIncomingNames ≤ after.freeIncomingNames + 2 := by
  obtain ⟨calls, _, _, hfiles⟩ := h.files
  refine @Transport.freeIncomingNames_le _ before after object.name (leftover.getD "") h.process
    fun free hfree hname hleft => ?_
  have hleftover : leftover ≠ some free := by
    rintro rfl
    exact hleft rfl
  rcases hfiles free hleftover with hsame | ⟨hobject, _⟩
  · rw [← Directory.read_eq_none, hsame]
    exact Directory.read_eq_none.2 hfree
  · exact absurd hobject hname

/-- An attempt ends when a temporary name is free. -/
theorem halts_pollObject {parsers : ResultParsers ξ} {fuel : Nat} {object : RemoteObject}
    {world : World ε} (hfree : 0 < world.freeIncomingNames) (hfuel : 2 ^ 64 ≤ fuel) :
    Halts (World.assuming assume) (pollObject parsers fuel object) world := by
  obtain ⟨tries, htries, hentry⟩ := exists_free_tries hfree
  refine halts_bind.2 ⟨halts_receive hentry (by omega) hfuel, ?_⟩
  refine ((must_receive_effect fuel object world).permits_mono fun _ _ _ => trivial).mono ?_
  rintro result after ⟨leftover, heffect, _⟩
  cases result with
  | error error => trivial
  | ok outcome =>
      obtain ⟨calls, _, hcalls, _⟩ := heffect.files
      have hpath : outcome.durablePath = object.name := by
        cases hcalls
        assumption
      refine halts_bind.2 ⟨halts_load fun bytes hread => ?_, must_of_forall fun _ _ => trivial⟩
      rw [hpath] at hread
      have hlength := (heffect.loadable outcome bytes rfl hread).length_lt
      omega

/-! ## The whole poll -/

/-- There is one attempt for each object, with its own remote calls, and these are all. -/
structure Polled (before : World ε) (objects : List RemoteObject)
    (attempts : List (PollAttempt ε ξ)) (calls : List (List (RemoteCall ε))) (after : World ε) :
    Prop where
  objects : attempts.map PollAttempt.object = objects
  attempted : List.Forall₂
    (fun attempt calls => AttemptCalls attempt.object calls attempt.result) attempts calls
  remote : after.remote = before.remote ++ calls.flatten

/-- Every file from before is still there, and every other file is a listed object's complete
download under its name. -/
structure InboxAfter (before : Directory) (objects : List RemoteObject)
    (calls : List (RemoteCall ε)) (after : Directory) : Prop where
  kept : ∀ name bytes, before.read name = some bytes → after.read name = some bytes
  files : ∀ name bytes, after.read name = some bytes → before.read name = some bytes ∨
    ∃ object ∈ objects, object.name = name ∧ Complete object bytes ∧
      .download object bytes (.ok ()) ∈ calls

theorem InboxAfter.refl (directory : Directory) :
    InboxAfter directory [] ([] : List (RemoteCall ε)) directory :=
  ⟨fun _ _ h => h, fun _ _ h => .inl h⟩

/-- One more object before the others. -/
theorem InboxAfter.cons {object : RemoteObject} {objects : List RemoteObject}
    {calls rest : List (RemoteCall ε)} {before middle after : Directory}
    (h : ∀ name, FileAfter object calls before middle name)
    (hrest : InboxAfter middle objects rest after) :
    InboxAfter before (object :: objects) (calls ++ rest) after := by
  refine ⟨fun name bytes hread => hrest.kept name bytes ?_, fun name bytes hread => ?_⟩
  · rcases h name with hsame | ⟨_, hnone, _⟩
    · exact hsame.trans hread
    · cases hnone.symm.trans hread
  · rcases hrest.files name bytes hread with hmiddle | ⟨other, hother, hname, hcomplete, hmem⟩
    · rcases h name with hsame | ⟨hname, _, written, hwritten, hcomplete, hmem⟩
      · exact .inl (hsame.symm.trans hmiddle)
      · cases hwritten.symm.trans hmiddle
        exact .inr ⟨object, List.mem_cons_self, hname.symm, hcomplete,
          List.mem_append_left _ hmem⟩
    · exact .inr ⟨other, List.mem_cons_of_mem _ hother, hname, hcomplete,
        List.mem_append_right _ hmem⟩

/-- All objects, with the attempts before them. -/
theorem must_pollObjects (parsers : ResultParsers ξ) (fuel : Nat) (objects : List RemoteObject)
    (attempts : List (PollAttempt ε ξ)) (before : World ε) :
    Must (World.assuming assume) (DeletesOnly objects) (pollObjects parsers fuel objects attempts)
      (fun result after => ∃ new calls, result = attempts ++ new ∧
        Polled before objects new calls after ∧
        ((∀ path, ¬ MayRemain assume path) →
          InboxAfter before.directory objects calls.flatten after.directory)) before := by
  induction objects generalizing attempts before with
  | nil =>
      exact ⟨[], [], (List.append_nil _).symm, ⟨rfl, .nil, by simp⟩, fun _ => .refl _⟩
  | cons object objects ih =>
      have hpermits : ∀ {listed : List RemoteObject}, listed ⊆ object :: objects →
          ∀ op (world : World ε), DeletesOnly listed op world →
            DeletesOnly (object :: objects) op world := by
        intro listed hsubset op world h deleted hop
        exact ⟨hsubset (h deleted hop).1, (h deleted hop).2⟩
      refine ((must_pollObject parsers fuel object before).permits_mono
        (hpermits (by simp))).bind ?_
      rintro result middle ⟨leftover, heffect, hremain⟩
      refine ((ih (attempts ++ [⟨object, result⟩]) middle).permits_mono
        (hpermits (List.subset_cons_self _ _))).mono ?_
      rintro value after ⟨new, calls, rfl, hpolled, hinbox⟩
      obtain ⟨first, hremote, hcalls, hfiles⟩ := heffect.files
      refine ⟨⟨object, result⟩ :: new, first :: calls, by simp, ⟨?_, .cons hcalls hpolled.attempted,
        ?_⟩, fun hremoved => ?_⟩
      · rw [List.map_cons, hpolled.objects]
      · rw [hpolled.remote, hremote, List.flatten_cons, List.append_assoc]
      · have hleftover : ∀ name, leftover ≠ some name := fun name heq =>
          hremoved name (hremain name heq)
        exact (hinbox hremoved).cons fun name => hfiles name (hleftover name)

/-- The attempts end when there are temporary names for all of them. -/
theorem halts_pollObjects {parsers : ResultParsers ξ} {fuel : Nat} {objects : List RemoteObject}
    {attempts : List (PollAttempt ε ξ)} {world : World ε}
    (hfree : 2 * objects.length ≤ world.freeIncomingNames) (hfuel : 2 ^ 64 ≤ fuel) :
    Halts (World.assuming assume) (pollObjects parsers fuel objects attempts) world := by
  induction objects generalizing attempts world with
  | nil => trivial
  | cons object objects ih =>
      rw [List.length_cons] at hfree
      refine halts_bind.2 ⟨halts_pollObject (by omega) hfuel, ?_⟩
      refine ((must_pollObject parsers fuel object world).permits_mono
        fun _ _ _ => trivial).mono ?_
      rintro result after ⟨leftover, heffect, _⟩
      have hle := heffect.freeIncomingNames_le
      exact ih (by omega)

/-- A poll attempts every object of the listing, in its order. -/
theorem must_pollOnce (parsers : ResultParsers ξ) (fuel : Nat) (objects : List RemoteObject)
    (before : World ε) :
    Must (World.assuming assume) (DeletesOnly objects) (pollOnce parsers fuel (.ok objects)).run
      (fun result after => ∃ attempts calls, result = .ok attempts ∧
        Polled before objects attempts calls after ∧
        ((∀ path, ¬ MayRemain assume path) →
          InboxAfter before.directory objects calls.flatten after.directory)) before := by
  refine must_run_lift.2 ((must_pollObjects parsers fuel objects [] before).mono ?_)
  rintro result after ⟨attempts, calls, hresult, hpolled⟩
  exact ⟨attempts, calls, congrArg Except.ok hresult, hpolled⟩

/-- For every listing and every initial inbox: each run returns one attempt for each object, in
order, with the remote calls that its result says; `delete` is only ever called right after a
complete download whose bytes are in the inbox under the object's name; if temporary files can
be removed, the inbox afterwards has the files from before and complete downloads, and no
others; and the poll returns unless the temporary names run out. -/
theorem poll_once_exact (parsers : ResultParsers ξ) (fuel : Nat) (objects : List RemoteObject)
    (before : World ε) :
    (∀ result after, Runs (World.assuming fun _ _ _ => True)
        (pollOnce parsers fuel (.ok objects)).run before result after →
      ∃ attempts calls, result = .ok attempts ∧ Polled before objects attempts calls after) ∧
    (∀ object world, Calls (World.assuming fun _ _ _ => True)
        (pollOnce parsers fuel (.ok objects)).run before (.delete object) world →
      object ∈ objects ∧ DeleteJustified object world) ∧
    (∀ result after, Runs (World.assuming RemovalSucceeds)
        (pollOnce parsers fuel (.ok objects)).run before result after →
      ∃ calls, after.remote = before.remote ++ calls ∧
        InboxAfter before.directory objects calls after.directory) ∧
    (2 * objects.length ≤ before.freeIncomingNames → 2 ^ 64 ≤ fuel →
      Halts (World.assuming fun _ _ _ => True)
        (pollOnce parsers fuel (.ok objects)).run before) := by
  refine ⟨fun result after hrun => ?_, fun object world hcall => ?_, fun result after hrun => ?_,
    fun hfree hfuel => ?_⟩
  · obtain ⟨attempts, calls, hresult, hpolled, _⟩ :=
      (must_pollOnce parsers fuel objects before).runs hrun
    exact ⟨attempts, calls, hresult, hpolled⟩
  · exact (must_pollOnce parsers fuel objects before).calls hcall object rfl
  · obtain ⟨attempts, calls, _, hpolled, hinbox⟩ :=
      (must_pollOnce parsers fuel objects before).runs hrun
    refine ⟨calls.flatten, hpolled.remote, hinbox ?_⟩
    rintro path ⟨code, world, hremoved⟩
    cases hremoved
  · exact halts_run_lift.2 (halts_pollObjects hfree hfuel)

end TwEinvoice.Transport
