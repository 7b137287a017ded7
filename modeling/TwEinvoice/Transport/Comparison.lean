import TwEinvoice.Effects.Evaluation
import TwEinvoice.Transport.ReceiverTermination

/-!
# The comparison of two files

A read may return fewer bytes than the buffer holds. `files_equal` compares how many bytes it
gets from either file, so for files with the same bytes its answer depends on how they are read.
-/

namespace TwEinvoice.Transport

open Effects Storage

variable {ε : Type}

/-! ## Schedules of reads -/

/-- The inbox world, with the number of reads so far. -/
def countingReads (ε : Type) : Handler (inboxSignature ε) (World ε × Nat) where
  Choice := World.Choice ε
  respond op choice state :=
    ((World.respond op choice state.1).1, (World.respond op choice state.1).2,
      match op with
      | .read .. => state.2 + 1
      | _ => state.2)

/-- No faults, and reads that take turns. Each schedule says how many bytes the reads of a file
may return after the first. -/
def scheduled (leftReads rightReads : Nat → Nat) :
    (op : InboxOp) → World ε × Nat → World.Choice ε op
  | .read .., state =>
      (none, if state.2 % 2 = 0 then leftReads (state.2 / 2) else rightReads (state.2 / 2))
  | op, _ => World.noFault op

/-- How many bytes of a file a number of reads return. -/
def offset (length : Nat) (reads : Nat → Nat) : Nat → Nat
  | 0 => 0
  | count + 1 =>
      offset length reads count +
        min (min bufferLength (reads count + 1)) (length - offset length reads count)

/-- A read returns what the buffer, the schedule and the file allow. -/
theorem length_chunk (bytes : List UInt8) (position more : Nat) :
    (World.chunk bytes position bufferLength more).length =
      min (min bufferLength (more + 1)) (bytes.length - position) := by
  rw [World.chunk, List.length_take, List.length_drop]

/-- Reads at the end of a file return nothing. -/
theorem offset_of_end {length : Nat} {reads : Nat → Nat} {count : Nat}
    (h : length ≤ offset length reads count) {later : Nat} (hle : count ≤ later) :
    offset length reads later = offset length reads count := by
  induction hle with
  | refl => rfl
  | step _ ih =>
      rw [offset, ih, Nat.sub_eq_zero_of_le h, Nat.min_zero, Nat.add_zero]

section Loop

variable {leftReads rightReads : Nat → Nat} {world : World ε}

/-- The run with these schedules. -/
abbrev Scheduled (leftReads rightReads : Nat → Nat) {α : Type} (program : FileProgram ε α)
    (state : World ε × Nat) (value : α) (final : World ε × Nat) : Prop :=
  (countingReads ε).Returns (scheduled leftReads rightReads) program.run state (.ok value) final

/-- The bytes that a reader reads. -/
def World.bytesOf (world : World ε) (reader : Reader) : List UInt8 :=
  (world.directory.file reader.file).bytes

/-- A reader that has read this chunk. -/
def Reader.after (reader : Reader) (chunk : List UInt8) : Reader :=
  { reader with position := reader.position + chunk.length }

@[simp]
theorem World.bytesOf_after (world : World ε) (reader : Reader) (chunk : List UInt8) :
    world.bytesOf (reader.after chunk) = world.bytesOf reader := rfl

/-- The chunk that a read returns. -/
def World.chunkOf (world : World ε) (reader : Reader) (more : Nat) : List UInt8 :=
  World.chunk (world.bytesOf reader) reader.position bufferLength more

/-- The even reads are those of the first file. -/
theorem scheduled_left_read (reader : Reader) (count : Nat) :
    Scheduled leftReads rightReads reader.read (world, 2 * count)
      (world.chunkOf reader (leftReads count), reader.after
        (world.chunkOf reader (leftReads count))) (world, 2 * count + 1) := by
  have hturn : (if 2 * count % 2 = 0 then leftReads (2 * count / 2)
      else rightReads (2 * count / 2)) = leftReads count := by
    rw [if_pos (by omega), Nat.mul_div_cancel_left count Nat.two_pos]
  have hread : Scheduled leftReads rightReads reader.read (world, 2 * count) _ _ :=
    .run_bind (.perform _ _) (.pure _ _)
  simp only [scheduled, hturn] at hread
  exact hread

/-- The odd reads are those of the second file. -/
theorem scheduled_right_read (reader : Reader) (count : Nat) :
    Scheduled leftReads rightReads reader.read (world, 2 * count + 1)
      (world.chunkOf reader (rightReads count), reader.after
        (world.chunkOf reader (rightReads count))) (world, 2 * (count + 1)) := by
  have hturn : (if (2 * count + 1) % 2 = 0 then leftReads ((2 * count + 1) / 2)
      else rightReads ((2 * count + 1) / 2)) = rightReads count := by
    rw [if_neg (by omega), show (2 * count + 1) / 2 = count by omega]
  have hread : Scheduled leftReads rightReads reader.read (world, 2 * count + 1) _ _ :=
    .run_bind (.perform _ _) (.pure _ _)
  simp only [scheduled, hturn] at hread
  exact hread

/-- How many bytes a read returns. -/
theorem length_chunkOf {reader : Reader} {reads : Nat → Nat} {count : Nat}
    (hposition : reader.position = offset (world.bytesOf reader).length reads count) :
    reader.position + (world.chunkOf reader (reads count)).length =
      offset (world.bytesOf reader).length reads (count + 1) := by
  rw [World.chunkOf, length_chunk, hposition, offset]

/-- What is left of two files is equal if the next chunks are and what is left behind them. -/
theorem rest_eq_iff {left right : Reader} {leftMore rightMore : Nat}
    (hlength : (world.chunkOf left leftMore).length = (world.chunkOf right rightMore).length) :
    (world.bytesOf left).drop left.position = (world.bytesOf right).drop right.position ↔
      world.chunkOf left leftMore = world.chunkOf right rightMore ∧
      (world.bytesOf left).drop (left.after (world.chunkOf left leftMore)).position =
        (world.bytesOf right).drop (right.after (world.chunkOf right rightMore)).position := by
  have hleft := chunk_append_drop (world.bytesOf left) left.position bufferLength leftMore
  have hright := chunk_append_drop (world.bytesOf right) right.position bufferLength rightMore
  rw [← hleft, ← hright]
  constructor
  · intro h
    exact List.append_inj h hlength
  · rintro ⟨hchunks, hrest⟩
    exact congrArg₂ (· ++ ·) hchunks hrest

/-- What one round of the loop does with its chunks. -/
def compareChunks (fuel : Nat) (left right : Reader) (leftRead rightRead : List UInt8) :
    FileProgram ε Bool :=
  if leftRead.length ≠ rightRead.length then return false
  else if leftRead.length = 0 then return true
  else if leftRead ≠ rightRead then return false
  else readersEqual fuel left right

/-- One round of the loop reads a chunk of either file. -/
theorem scheduled_round {left right : Reader} {count fuel : Nat} {answer : Bool}
    {final : World ε × Nat}
    (h : Scheduled leftReads rightReads
      (compareChunks fuel (left.after (world.chunkOf left (leftReads count)))
        (right.after (world.chunkOf right (rightReads count)))
        (world.chunkOf left (leftReads count)) (world.chunkOf right (rightReads count)))
      (world, 2 * (count + 1)) answer final) :
    Scheduled leftReads rightReads (readersEqual (fuel + 1) left right) (world, 2 * count)
      answer final :=
  (scheduled_left_read left count).run_bind ((scheduled_right_read right count).run_bind h)

/-- The loop ends where the reads return different numbers of bytes. -/
theorem scheduled_out_of_step {left right : Reader} {count : Nat} (fuel : Nat)
    (hlength : (world.chunkOf left (leftReads count)).length ≠
      (world.chunkOf right (rightReads count)).length) :
    Scheduled leftReads rightReads (readersEqual (fuel + 1) left right) (world, 2 * count) false
      (world, 2 * (count + 1)) := by
  apply scheduled_round
  rw [compareChunks, if_pos hlength]
  exact .pure _ _

/-- The loop ends at the ends of both files. -/
theorem scheduled_at_end {left right : Reader} {count : Nat} (fuel : Nat)
    (hlength : (world.chunkOf left (leftReads count)).length =
      (world.chunkOf right (rightReads count)).length)
    (hempty : (world.chunkOf left (leftReads count)).length = 0) :
    Scheduled leftReads rightReads (readersEqual (fuel + 1) left right) (world, 2 * count) true
      (world, 2 * (count + 1)) := by
  apply scheduled_round
  rw [compareChunks, if_neg (not_not.2 hlength), if_pos hempty]
  exact .pure _ _

/-- The loop ends where the chunks differ. -/
theorem scheduled_differ {left right : Reader} {count : Nat} (fuel : Nat)
    (hlength : (world.chunkOf left (leftReads count)).length =
      (world.chunkOf right (rightReads count)).length)
    (hempty : (world.chunkOf left (leftReads count)).length ≠ 0)
    (hchunks : world.chunkOf left (leftReads count) ≠ world.chunkOf right (rightReads count)) :
    Scheduled leftReads rightReads (readersEqual (fuel + 1) left right) (world, 2 * count) false
      (world, 2 * (count + 1)) := by
  apply scheduled_round
  rw [compareChunks, if_neg (not_not.2 hlength), if_neg hempty, if_pos hchunks]
  exact .pure _ _

/-- The loop goes on behind equal chunks. -/
theorem scheduled_next {left right : Reader} {count fuel : Nat} {answer : Bool}
    {final : World ε × Nat}
    (hempty : (world.chunkOf left (leftReads count)).length ≠ 0)
    (hchunks : world.chunkOf left (leftReads count) = world.chunkOf right (rightReads count))
    (h : Scheduled leftReads rightReads
      (readersEqual fuel (left.after (world.chunkOf left (leftReads count)))
        (right.after (world.chunkOf right (rightReads count))))
      (world, 2 * (count + 1)) answer final) :
    Scheduled leftReads rightReads (readersEqual (fuel + 1) left right) (world, 2 * count)
      answer final := by
  apply scheduled_round
  rw [compareChunks, if_neg (not_not.2 (congrArg List.length hchunks)), if_neg hempty,
    if_neg (not_not.2 hchunks)]
  exact h

/-- The readers keep pace from a number of reads on. -/
def KeepPace (leftLength rightLength : Nat) (leftReads rightReads : Nat → Nat) (count : Nat) :
    Prop :=
  ∀ later, count ≤ later →
    offset leftLength leftReads later = offset rightLength rightReads later

/-- Two readers at the same offset keep pace for one round more. -/
theorem keepPace_succ {leftLength rightLength count : Nat}
    (h : offset leftLength leftReads count = offset rightLength rightReads count) :
    KeepPace leftLength rightLength leftReads rightReads (count + 1) ↔
      KeepPace leftLength rightLength leftReads rightReads count := by
  constructor
  · intro hpace later hle
    obtain rfl | hlt := Nat.eq_or_lt_of_le hle
    · exact h
    · exact hpace later hlt
  · exact fun hpace later hle => hpace later (Nat.le_of_succ_le hle)

/-- Two readers that are at the ends of their files keep pace. -/
theorem keepPace_of_end {leftLength rightLength count : Nat}
    (hleft : leftLength ≤ offset leftLength leftReads count)
    (hright : rightLength ≤ offset rightLength rightReads count)
    (h : offset leftLength leftReads count = offset rightLength rightReads count) :
    KeepPace leftLength rightLength leftReads rightReads count := by
  intro later hle
  rw [offset_of_end hleft hle, offset_of_end hright hle, h]

/-- The loop finds what is left of the files equal if it is and the readers keep pace. -/
theorem scheduled_readersEqual {left right : Reader} {count : Nat} (fuel : Nat)
    (hsame : left.position = right.position)
    (hleft : left.position = offset (world.bytesOf left).length leftReads count)
    (hright : right.position = offset (world.bytesOf right).length rightReads count)
    (hfuel : ((world.bytesOf left).drop left.position).length < fuel) :
    ∃ answer final, Scheduled leftReads rightReads (readersEqual fuel left right)
        (world, 2 * count) answer final ∧
      (answer = true ↔
        (world.bytesOf left).drop left.position = (world.bytesOf right).drop right.position ∧
        KeepPace (world.bytesOf left).length (world.bytesOf right).length leftReads rightReads
          count) := by
  induction fuel generalizing left right count with
  | zero => omega
  | succ fuel ih =>
      have hleftNext := length_chunkOf hleft
      have hrightNext := length_chunkOf hright
      by_cases hlength : (world.chunkOf left (leftReads count)).length =
          (world.chunkOf right (rightReads count)).length
      · have hrest := rest_eq_iff hlength
        by_cases hempty : (world.chunkOf left (leftReads count)).length = 0
        · have hleftEnd := drop_eq_nil_of_chunk (world.bytesOf left) left.position hempty
          have hrightEnd := drop_eq_nil_of_chunk (world.bytesOf right) right.position
            (hlength.symm.trans hempty)
          refine ⟨true, _, scheduled_at_end fuel hlength hempty, iff_of_true rfl ⟨?_, ?_⟩⟩
          · exact hleftEnd.trans hrightEnd.symm
          · rw [hleft, List.drop_eq_nil_iff] at hleftEnd
            rw [hright, List.drop_eq_nil_iff] at hrightEnd
            exact keepPace_of_end hleftEnd hrightEnd (by rw [← hleft, ← hright, hsame])
        · by_cases hchunks : world.chunkOf left (leftReads count) =
              world.chunkOf right (rightReads count)
          · have hmove := drop_chunk_length_lt hempty
            have hpositions : (left.after (world.chunkOf left (leftReads count))).position =
                (right.after (world.chunkOf right (rightReads count))).position :=
              congrArg₂ (· + ·) hsame hlength
            obtain ⟨answer, final, hrun, hanswer⟩ := ih hpositions hleftNext hrightNext
              (Nat.lt_of_lt_of_le hmove (Nat.le_of_lt_succ hfuel))
            simp only [World.bytesOf_after] at hanswer
            refine ⟨answer, final, scheduled_next hempty hchunks hrun, hanswer.trans ?_⟩
            rw [hrest, and_iff_right hchunks]
            exact and_congr_right fun _ =>
              keepPace_succ (by rw [← hleft, ← hright, hsame])
          · refine ⟨false, _, scheduled_differ fuel hlength hempty hchunks, ?_⟩
            exact iff_of_false Bool.false_ne_true fun h => hchunks (hrest.1 h.1).1
      · refine ⟨false, _, scheduled_out_of_step fuel hlength, ?_⟩
        refine iff_of_false Bool.false_ne_true ?_
        intro h
        -- The reader that gets fewer bytes falls behind.
        have hnext := h.2 (count + 1) (Nat.le_succ count)
        omega

/-! ## The whole comparison -/

theorem scheduled_pathMetadata {path : String} {found : Entry} {count : Nat}
    (h : world.directory.entry path = some found) :
    Scheduled leftReads rightReads (ExceptT.mk (request (.pathMetadata path))) (world, count)
      (world.directory.file found.inode).bytes.length (world, count) := by
  have hcall : (countingReads ε).Returns (scheduled leftReads rightReads)
      (request (.pathMetadata path)) (world, count)
      (world.lookup path fun inode => (world.directory.file inode).bytes.length).1
      ((world.lookup path fun inode => (world.directory.file inode).bytes.length).2, count) := rfl
  simp only [World.lookup, h] at hcall
  exact hcall

theorem scheduled_openPath {path : String} {found : Entry} {count : Nat}
    (h : world.directory.entry path = some found) :
    Scheduled leftReads rightReads (Reader.openPath path) (world, count) ⟨found.inode, 0⟩
      (world, count) := by
  have hcall : (countingReads ε).Returns (scheduled leftReads rightReads)
      (request (.openFile path)) (world, count) (world.lookup path id).1
      ((world.lookup path id).2, count) := rfl
  simp only [World.lookup, h] at hcall
  exact .run_bind hcall (.pure _ _)

/-- The files are found equal if they are and the readers keep pace. -/
theorem scheduled_filesEqual {left right : String} {leftBytes rightBytes : List UInt8} {fuel : Nat}
    (hleft : world.directory.read left = some leftBytes)
    (hright : world.directory.read right = some rightBytes) (hfuel : leftBytes.length < fuel) :
    ∃ answer final, Scheduled leftReads rightReads (filesEqual fuel left right) (world, 0)
        answer final ∧
      (answer = true ↔ leftBytes = rightBytes ∧
        KeepPace leftBytes.length rightBytes.length leftReads rightReads 0) := by
  obtain ⟨leftFound, hleftFound, rfl⟩ := Option.map_eq_some_iff.1 hleft
  obtain ⟨rightFound, hrightFound, rfl⟩ := Option.map_eq_some_iff.1 hright
  by_cases hlength : (world.directory.file leftFound.inode).bytes.length =
      (world.directory.file rightFound.inode).bytes.length
  · obtain ⟨answer, final, hrun, hanswer⟩ :=
      @scheduled_readersEqual ε leftReads rightReads world ⟨leftFound.inode, 0⟩
        ⟨rightFound.inode, 0⟩ 0 fuel rfl rfl rfl hfuel
    refine ⟨answer, final, ?_, hanswer⟩
    refine .run_bind (scheduled_pathMetadata hleftFound) ?_
    refine .run_bind (scheduled_pathMetadata hrightFound) ?_
    rw [if_neg (not_not.2 hlength)]
    refine .run_bind (scheduled_openPath hleftFound) ?_
    exact .run_bind (scheduled_openPath hrightFound) hrun
  · refine ⟨false, (world, 0), ?_, iff_of_false Bool.false_ne_true ?_⟩
    · refine .run_bind (scheduled_pathMetadata hleftFound) ?_
      refine .run_bind (scheduled_pathMetadata hrightFound) ?_
      rw [if_pos hlength]
      exact .pure _ _
    · exact fun h => hlength (congrArg List.length h.1)

end Loop

/-- `files_equal` tells whether the bytes of two files are equal exactly if they are not, or every
number of reads returns as many bytes of the one as of the other. -/
theorem files_equal_iff (world : World ε) (left right : String) (leftBytes rightBytes : List UInt8)
    (leftReads rightReads : Nat → Nat) (fuel : Nat)
    (hleft : world.directory.read left = some leftBytes)
    (hright : world.directory.read right = some rightBytes) (hfuel : leftBytes.length < fuel) :
    (∃ answer final, Scheduled leftReads rightReads (filesEqual fuel left right) (world, 0)
        answer final ∧ (answer = true ↔ leftBytes = rightBytes)) ↔
      (leftBytes = rightBytes → ∀ count, offset leftBytes.length leftReads count =
        offset rightBytes.length rightReads count) := by
  obtain ⟨answer, final, hrun, hanswer⟩ :=
    @scheduled_filesEqual ε leftReads rightReads world left right leftBytes rightBytes fuel
      hleft hright hfuel
  constructor
  · rintro ⟨other, _, hother, hequal⟩ hbytes count
    have hresult := (hrun.unique hother).1
    rw [Except.ok.injEq] at hresult
    subst hresult
    exact (hanswer.1 (hequal.2 hbytes)).2 count (Nat.zero_le count)
  · intro hpace
    refine ⟨answer, final, hrun, hanswer.trans (and_iff_left_of_imp fun hbytes => ?_)⟩
    exact fun count _ => hpace hbytes count

/-- An inbox with two files of the same two bytes. -/
def twoCopies : World Unit where
  directory :=
    (((Directory.empty.create "first").append 0 [65, 66]).create "second").append 1 [65, 66]
  processId := 7
  nextTempId := 0
  remote := []

theorem files_equal_in_step :
    ∃ answer final, Scheduled (fun _ => 0) (fun _ => 0) (filesEqual 3 "first" "second")
      (twoCopies, 0) answer final ∧ (answer = true ↔ [(65 : UInt8), 66] = [65, 66]) :=
  (files_equal_iff twoCopies "first" "second" [65, 66] [65, 66] (fun _ => 0) (fun _ => 0) 3 rfl rfl
    (by decide)).2 fun _ _ => rfl

/-- One file is read byte by byte and the other in one piece. -/
theorem files_equal_out_of_step :
    twoCopies.directory.read "first" = some [65, 66] ∧
      twoCopies.directory.read "second" = some [65, 66] ∧
      Scheduled (fun _ => 0) (fun _ => 1) (filesEqual 3 "first" "second") (twoCopies, 0) false
        (twoCopies, 2) :=
  ⟨rfl, rfl, rfl⟩

end TwEinvoice.Transport
