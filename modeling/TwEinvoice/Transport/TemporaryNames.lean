import Mathlib.Order.Interval.Set.Nat
import TwEinvoice.Effects.Evaluation
import TwEinvoice.Transport.ReceiverTermination

/-!
# The names of temporary files

`IncomingFile.create` tries the next IDs of a counter that wraps around. The names of distinct IDs
are distinct, so it needs at most one more try than there are temporary names of the process.
-/

namespace TwEinvoice.Transport

open Effects Storage

variable {ε : Type}

/-- The names in the inbox. -/
def World.names (world : World ε) : Set String := {name | world.directory.entry name ≠ none}

/-- The names in the inbox that are temporary names of the process. -/
def World.incomingNames (world : World ε) : Set String :=
  {name | name ∈ world.names ∧ ∃ id, incomingName world.processId id = name}

/-- The IDs whose names are taken. -/
def World.takenIds (world : World ε) : Set UInt64 :=
  {id | world.directory.entry (incomingName world.processId id) ≠ none}

theorem World.incomingNames_subset (world : World ε) : world.incomingNames ⊆ world.names :=
  fun _ h => h.1

/-- Each temporary name takes one number. -/
theorem ncard_takenIds (world : World ε) : world.takenIds.ncard = world.incomingNames.ncard := by
  have himage : incomingName world.processId '' world.takenIds = world.incomingNames := by
    ext name
    constructor
    · intro h
      obtain ⟨id, hid, rfl⟩ := h
      exact ⟨hid, id, rfl⟩
    · intro h
      obtain ⟨hname, id, rfl⟩ := h
      exact ⟨id, hname, rfl⟩
  rw [← himage]
  exact (Set.ncard_image_of_injective _ (incomingName_injective _)).symm

/-- The IDs of fewer than `2 ^ 64` tries are distinct. -/
theorem tries_injOn (start : UInt64) {count : Nat} (h : count ≤ 2 ^ 64) :
    Set.InjOn (fun tries : Nat => start + UInt64.ofNat tries) (Set.Iio count) := by
  intro tries htries other hother heq
  have hids : UInt64.ofNat tries = UInt64.ofNat other := (UInt64.add_right_inj start).1 heq
  have hnumbers := congrArg UInt64.toNat hids
  rw [UInt64.toNat_ofNat', UInt64.toNat_ofNat',
    Nat.mod_eq_of_lt (Nat.lt_of_lt_of_le htries h),
    Nat.mod_eq_of_lt (Nat.lt_of_lt_of_le hother h)] at hnumbers
  exact hnumbers

/-- One of the next names is free, among one more than there are temporary names. -/
theorem exists_free_within {world : World ε} (h : world.incomingNames.ncard < 2 ^ 64) :
    ∃ tries ≤ world.incomingNames.ncard, world.directory.entry
      (incomingName world.processId (world.nextTempId + .ofNat tries)) = none := by
  by_contra hnone
  push Not at hnone
  have hsubset : (fun tries : Nat => world.nextTempId + UInt64.ofNat tries) ''
      Set.Iio (world.incomingNames.ncard + 1) ⊆ world.takenIds := by
    intro id hid
    obtain ⟨tries, htries, rfl⟩ := hid
    exact hnone tries (Nat.le_of_lt_succ htries)
  have hcard := Set.ncard_le_ncard hsubset (finite_ids _)
  rw [(tries_injOn _ h).ncard_image, Set.ncard_Iio_nat, ncard_takenIds] at hcard
  omega

/-- The first free name comes no later. -/
theorem exists_first_free {world : World ε} (h : world.incomingNames.ncard < 2 ^ 64) :
    ∃ tries ≤ world.incomingNames.ncard,
      world.directory.entry
        (incomingName world.processId (world.nextTempId + .ofNat tries)) = none ∧
      ∀ earlier < tries, world.directory.entry
        (incomingName world.processId (world.nextTempId + .ofNat earlier)) ≠ none := by
  obtain ⟨bound, hbound, hfree⟩ := exists_free_within h
  have hexists : ∃ tries, world.directory.entry
      (incomingName world.processId (world.nextTempId + .ofNat tries)) = none := ⟨bound, hfree⟩
  exact ⟨Nat.find hexists, (Nat.find_min' hexists hfree).trans hbound, Nat.find_spec hexists,
    fun _ => Nat.find_min hexists⟩

/-! ## The loop -/

/-- The run without faults. -/
abbrev RunsQuietly {α : Type} (program : FileProgram ε α) (world : World ε) (value : α)
    (final : World ε) : Prop :=
  (World.handler ε).Returns (fun op _ => World.noFault op) program.run world (.ok value) final

/-- The world after a number of tries, of which the last made a file. -/
def World.createdAfter (world : World ε) (tries : Nat) : World ε :=
  (world.drawn (world.nextTempId + .ofNat (tries + 1))).withDirectory
    (world.directory.create (incomingName world.processId (world.nextTempId + .ofNat tries)))

/-- A call that makes a file under a name of the world. -/
theorem returns_createNew (world : World ε) (path : String) :
    (World.handler ε).Returns (fun op _ => World.noFault op) (request (.createNew path)) world
      (world.createNew path).1 (world.createNew path).2 := rfl

/-- A free name is taken at the first try. -/
theorem runsQuietly_create_free {world : World ε} (fuel : Nat)
    (hfree : world.directory.entry (incomingName world.processId world.nextTempId) = none) :
    RunsQuietly (IncomingFile.create (fuel + 1)) world
      ⟨incomingName world.processId world.nextTempId, world.directory.next⟩
      ((world.drawn (world.nextTempId + 1)).withDirectory
        (world.directory.create (incomingName world.processId world.nextTempId))) := by
  have hcall := returns_createNew (world.drawn (world.nextTempId + 1))
    (incomingName world.processId world.nextTempId)
  have hentry : (world.drawn (world.nextTempId + 1)).directory.entry
      (incomingName world.processId world.nextTempId) = none := hfree
  simp only [World.createNew, hentry] at hcall
  exact .bind (.perform _ _) (.bind (.perform _ _) (.bind hcall (.pure _ _)))

/-- A name that is taken is skipped. -/
theorem runsQuietly_create_taken {world final : World ε} {fuel : Nat} {incoming : IncomingFile}
    (htaken : world.directory.entry (incomingName world.processId world.nextTempId) ≠ none)
    (hrest : RunsQuietly (IncomingFile.create fuel) (world.drawn (world.nextTempId + 1)) incoming
      final) :
    RunsQuietly (IncomingFile.create (fuel + 1)) world incoming final := by
  obtain ⟨found, hfound⟩ := Option.ne_none_iff_exists'.1 htaken
  have hcall := returns_createNew (world.drawn (world.nextTempId + 1))
    (incomingName world.processId world.nextTempId)
  have hentry : (world.drawn (world.nextTempId + 1)).directory.entry
      (incomingName world.processId world.nextTempId) = some found := hfound
  simp only [World.createNew, hentry] at hcall
  exact .bind (.perform _ _) (.bind (.perform _ _) (.bind hcall hrest))

/-- The first free name ends the loop. -/
theorem runsQuietly_create {world : World ε} {tries : Nat} (fuel : Nat)
    (hfree : world.directory.entry
      (incomingName world.processId (world.nextTempId + .ofNat tries)) = none)
    (htaken : ∀ earlier < tries, world.directory.entry
      (incomingName world.processId (world.nextTempId + .ofNat earlier)) ≠ none)
    (hfuel : tries < fuel) :
    RunsQuietly (IncomingFile.create fuel) world
      ⟨incomingName world.processId (world.nextTempId + .ofNat tries), world.directory.next⟩
      (world.createdAfter tries) := by
  obtain ⟨fuel, rfl⟩ := Nat.exists_eq_add_one_of_ne_zero (by omega : fuel ≠ 0)
  induction tries generalizing world fuel with
  | zero =>
      unfold World.createdAfter
      rw [add_ofNat_zero] at hfree ⊢
      exact runsQuietly_create_free fuel hfree
  | succ tries ih =>
      have hfirst := htaken 0 (Nat.succ_pos tries)
      rw [add_ofNat_zero] at hfirst
      obtain ⟨fuel, rfl⟩ := Nat.exists_eq_add_one_of_ne_zero (by omega : fuel ≠ 0)
      have hnext : ∀ later : Nat, (world.drawn (world.nextTempId + 1)).nextTempId + .ofNat later =
          world.nextTempId + .ofNat (later + 1) := fun later => add_one_add_ofNat _ later
      have hearlier : ∀ earlier < tries, (world.drawn (world.nextTempId + 1)).directory.entry
          (incomingName world.processId
            ((world.drawn (world.nextTempId + 1)).nextTempId + .ofNat earlier)) ≠ none := by
        intro earlier hlt
        rw [hnext]
        exact htaken (earlier + 1) (by omega)
      have hrest := @ih (world.drawn (world.nextTempId + 1)) (by rw [hnext]; exact hfree) hearlier
        fuel (by omega)
      refine runsQuietly_create_taken hfirst ?_
      simp only [World.createdAfter, hnext] at hrest ⊢
      exact hrest

/-- With fewer than `2 ^ 64` names in the inbox, a temporary file is made after one more try than
there are temporary names of the process. Its name is new, and the other names and their files
are as before. -/
theorem create_fresh (world : World ε) (hfinite : world.names.Finite)
    (hnames : world.names.ncard < 2 ^ 64) :
    ∃ incoming, ∃ tries ≤ world.incomingNames.ncard,
      world.directory.entry incoming.path = none ∧
      (world.createdAfter tries).directory.read incoming.path = some [] ∧
      (∀ name ∈ world.names, (world.createdAfter tries).directory.entry name =
        world.directory.entry name ∧
        (world.createdAfter tries).directory.read name = world.directory.read name) ∧
      ∀ fuel, world.incomingNames.ncard < fuel →
        RunsQuietly (IncomingFile.create fuel) world incoming (world.createdAfter tries) := by
  have hincoming : world.incomingNames.ncard < 2 ^ 64 :=
    Nat.lt_of_le_of_lt (Set.ncard_le_ncard world.incomingNames_subset hfinite) hnames
  obtain ⟨tries, htries, hfree, htaken⟩ := exists_first_free hincoming
  refine ⟨⟨_, world.directory.next⟩, tries, htries, hfree, ?_, ?_, ?_⟩
  · exact Directory.read_create world.directory _
  · intro name hname
    have hne : name ≠ incomingName world.processId (world.nextTempId + .ofNat tries) := by
      intro heq
      rw [heq] at hname
      exact hname hfree
    exact ⟨Function.update_of_ne hne _ _, Directory.read_create_of_ne hne⟩
  · intro fuel hfuel
    exact runsQuietly_create fuel hfree htaken (Nat.lt_of_le_of_lt htries hfuel)

/-- A crashed process with the same process ID left the name of the last ID, which is next. -/
def wrappingInbox : World Unit where
  directory := Directory.empty.create (incomingName 7 (-1))
  processId := 7
  nextTempId := -1
  remote := []

theorem names_wrappingInbox : wrappingInbox.names = {incomingName 7 (-1)} := by
  ext name
  by_cases hname : name = incomingName 7 (-1)
  · simp [World.names, wrappingInbox, Directory.create, hname]
  · simp [World.names, wrappingInbox, Directory.create, Directory.empty, hname]

/-- The counter of the sample wraps. -/
theorem create_fresh_wrapping :
    ∃ incoming final, wrappingInbox.directory.entry incoming.path = none ∧
      RunsQuietly (IncomingFile.create 2) wrappingInbox incoming final := by
  have hfinite : wrappingInbox.names.Finite := names_wrappingInbox ▸ Set.finite_singleton _
  have hone : wrappingInbox.names.ncard = 1 := by
    rw [names_wrappingInbox, Set.ncard_singleton]
  have hle := Set.ncard_le_ncard wrappingInbox.incomingNames_subset hfinite
  obtain ⟨incoming, tries, _, hfree, _, _, hruns⟩ :=
    create_fresh wrappingInbox hfinite (by omega)
  exact ⟨incoming, _, hfree, hruns 2 (by omega)⟩

end TwEinvoice.Transport
