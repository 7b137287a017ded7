import TwEinvoice.Concurrency.VersionedStore
import TwEinvoice.State.History

/-!
# Optimistic persistence of submission records

The in-tree `MemoryStore` and any number of clients that load from it and write to it with
`compare_and_swap`. `SharedStore.abstract` maps this system to `Concurrency.VersionedStore`,
step by step (`store_step_simulates`), as long as no revision overflows `u64`; the guarantees
for stored submissions follow from the history of that system and from the growth of records.
-/

namespace TwEinvoice.State

open Rust Results Concurrency

/-- A stored record with its revision. -/
structure VersionedSubmission where
  revision : UInt64
  record : SubmissionRecord

/-- What `compare_and_swap` did. -/
inductive StoreWriteOutcome where
  | stored (revision : UInt64)
  | conflict (currentRevision : Option UInt64)
  deriving DecidableEq

/-- The in-memory store; `rows` is its hash map. -/
structure MemoryStore where
  rows : String → Option VersionedSubmission

namespace MemoryStore

/-- `MemoryStore::default`. -/
def default : MemoryStore := ⟨fun _ => none⟩

/-- `MemoryStore::load`. -/
def load (self : MemoryStore) (messageId : String) : Option VersionedSubmission :=
  self.rows messageId

/-- `MemoryStore::compare_and_swap`. -/
def compareAndSwap (self : MemoryStore) (expectedRevision : Option UInt64)
    (record : SubmissionRecord) : StoreWriteOutcome × MemoryStore :=
  let current := (self.rows record.messageId).map VersionedSubmission.revision
  if current ≠ expectedRevision then (.conflict current, self)
  else
    let revision := current.elim 0 (· + 1)
    (.stored revision,
      ⟨Function.update self.rows record.messageId (some ⟨revision, record⟩)⟩)

end MemoryStore

/-! ## Clients sharing a store -/

/-- The store, the versions each client has loaded, and the versions written under each message
ID, oldest first. -/
structure SharedStore (ι : Type) where
  store : MemoryStore
  loaded : ι → List VersionedSubmission
  written : String → List VersionedSubmission

variable {ι : Type}

namespace SharedStore

/-- The empty store, before any client has done anything. -/
def empty : SharedStore ι := ⟨.default, fun _ => [], fun _ => []⟩

/-- The state after a client's `load`. -/
def load [DecidableEq ι] (state : SharedStore ι) (client : ι) (messageId : String) :
    SharedStore ι :=
  match state.store.load messageId with
  | some version =>
      { state with
        loaded := Function.update state.loaded client (version :: state.loaded client) }
  | none => state

/-- The state after a client's `compare_and_swap`. -/
def write (state : SharedStore ι) (expectedRevision : Option UInt64)
    (record : SubmissionRecord) : SharedStore ι :=
  match state.store.compareAndSwap expectedRevision record with
  | (.stored revision, store) =>
      { state with
        store
        written := Function.update state.written record.messageId
          (state.written record.messageId ++ [⟨revision, record⟩]) }
  | (.conflict _, store) => { state with store }

end SharedStore

/-- One client takes a step: it loads, it tries to create a new record, or it tries to replace a
version it has loaded by the record it made of it. The last is below `u64` overflow. -/
inductive StoreStep [DecidableEq ι] (build : Build) : SharedStore ι → SharedStore ι → Prop where
  | load (state client messageId) : StoreStep build state (state.load client messageId)
  | create (state) (client : ι) (messageId quantity record) :
      SubmissionRecord.new messageId quantity = .ok record →
      StoreStep build state (state.write none record)
  | update (state) (client : ι) (version events) :
      version ∈ state.loaded client → version.revision.toNat + 1 < 2 ^ 64 →
      StoreStep build state
        (state.write (some version.revision) (version.record.deliverAll build events))

/-- The states reachable from the empty store. -/
def StoreReachable [DecidableEq ι] (build : Build) (state : SharedStore ι) : Prop :=
  Relation.ReflTransGen (StoreStep build) SharedStore.empty state

/-! ## Refinement -/

/-- A record that `new` returns. -/
def IsNew (record : SubmissionRecord) : Prop :=
  ∃ messageId quantity, SubmissionRecord.new messageId quantity = .ok record

/-- A well-formed record and the result of operations on it. -/
def Operated (build : Build) (earlier later : SubmissionRecord) : Prop :=
  earlier.WellFormed ∧ ∃ events, later = earlier.deliverAll build events

/-- Operations keep the message ID. -/
theorem Operated.messageId {build : Build} {earlier later : SubmissionRecord}
    (h : Operated build earlier later) : later.messageId = earlier.messageId := by
  obtain ⟨hwell, events, rfl⟩ := h
  exact (SubmissionRecord.deliver_all_identity build hwell events).1

/-- Operations continue the record. -/
theorem Operated.continues {build : Build} {earlier later : SubmissionRecord}
    (h : Operated build earlier later) : SubmissionRecord.Continues earlier later := by
  obtain ⟨hwell, events, rfl⟩ := h
  exact SubmissionRecord.deliver_all_continues hwell events

/-- A version as a row of the abstract store. -/
def VersionedSubmission.row (version : VersionedSubmission) : Row SubmissionRecord :=
  ⟨version.revision.toNat, version.record⟩

/-- The abstract system that a shared store implements. -/
def SharedStore.abstract (state : SharedStore ι) : System ι String SubmissionRecord where
  store := fun messageId => (state.store.rows messageId).map VersionedSubmission.row
  loaded := fun client => (state.loaded client).map VersionedSubmission.row
  log := fun messageId => (state.written messageId).map VersionedSubmission.row

theorem abstract_load [DecidableEq ι] (state : SharedStore ι) (client : ι) (messageId : String) :
    (state.load client messageId).abstract = state.abstract.load client messageId := by
  unfold SharedStore.load System.load MemoryStore.load
  cases hrow : state.store.rows messageId with
  | none => simp [SharedStore.abstract, hrow]
  | some version =>
      simp only [SharedStore.abstract, hrow, Option.map_some, System.mk.injEq, true_and, and_true]
      funext other
      by_cases hclient : other = client
      · subst hclient
        simp
      · simp [Function.update_of_ne hclient]

/-- A write of the shared store is a write of the abstract one, if the next revision fits. -/
theorem abstract_write [DecidableEq ι] (state : SharedStore ι) (expected : Option UInt64)
    (record : SubmissionRecord)
    (hfits : ∀ revision ∈ expected, revision.toNat + 1 < 2 ^ 64) :
    (state.write expected record).abstract =
      state.abstract.write record.messageId (expected.map UInt64.toNat) record := by
  have hcurrent : (state.abstract.store record.messageId).map Row.revision =
      ((state.store.rows record.messageId).map VersionedSubmission.revision).map
        UInt64.toNat := by
    cases hrow : state.store.rows record.messageId <;>
      simp [SharedStore.abstract, hrow, VersionedSubmission.row]
  have hinjective : Function.Injective UInt64.toNat := fun _ _ => UInt64.toNat_inj.mp
  unfold SharedStore.write System.write MemoryStore.compareAndSwap
    Concurrency.compareAndSwap
  rw [hcurrent]
  by_cases heq : (state.store.rows record.messageId).map VersionedSubmission.revision = expected
  · -- Only here does the addition in `u64` matter.
    have hrevision : (expected.elim 0 (· + 1)).toNat =
        (expected.map UInt64.toNat).elim 0 (· + 1) := by
      cases expected with
      | none => rfl
      | some revision =>
          have hlt := hfits revision rfl
          simp only [Option.elim_some, Option.map_some, UInt64.toNat_add, UInt64.toNat_one]
          exact Nat.mod_eq_of_lt hlt
    simp only [heq, ne_eq, not_true_eq_false, if_false, if_true]
    rw [← hrevision]
    simp only [SharedStore.abstract, System.mk.injEq, true_and]
    -- The rows and the log differ from the old ones at the message ID of the record only.
    constructor <;> funext messageId
    all_goals
      by_cases hid : messageId = record.messageId
      · subst hid
        simp [VersionedSubmission.row]
      · simp [Function.update_of_ne hid]
  · have hne : ((state.store.rows record.messageId).map VersionedSubmission.revision).map
        UInt64.toNat ≠ expected.map UInt64.toNat :=
      fun h => heq (Option.map_injective hinjective h)
    rw [if_neg hne]
    simp [heq]

/-- Every step of the shared store is a step of the abstract system. -/
theorem store_step_simulates [DecidableEq ι] {build : Build} {state next : SharedStore ι}
    (hloaded : ∀ client, ∀ version ∈ state.loaded client, version.record.WellFormed)
    (h : StoreStep build state next) :
    Step SubmissionRecord.messageId IsNew (Operated build) state.abstract next.abstract := by
  cases h with
  | load client messageId =>
      rw [abstract_load]
      exact .load _ client messageId
  | create client messageId quantity record hnew =>
      rw [abstract_write _ _ _ (by simp)]
      exact .create _ client record ⟨messageId, quantity, hnew⟩
  | update client version events hversion hfits =>
      rw [abstract_write _ _ _ (by simpa using hfits)]
      exact .update _ client version.row _
        (List.mem_map.mpr ⟨version, hversion, rfl⟩) ⟨hloaded client version hversion, events, rfl⟩

/-- A new record is well-formed, and operations keep that. -/
theorem history_well_formed {build : Build} {messageId : String}
    {log : List (Row SubmissionRecord)}
    (h : History SubmissionRecord.messageId IsNew (Operated build) messageId log) :
    ∀ row ∈ log, row.value.WellFormed := by
  refine h.forall ?_ ?_
  · rintro record ⟨_, _, hnew⟩
    exact SubmissionRecord.new_well_formed hnew
  · rintro earlier later hwell ⟨-, events, rfl⟩
    exact (SubmissionRecord.deliver_all_spec build hwell events).1

/-- Every reachable shared store implements a reachable, consistent abstract system. -/
theorem StoreReachable.consistent [DecidableEq ι] {build : Build} {state : SharedStore ι}
    (h : StoreReachable build state) :
    Consistent SubmissionRecord.messageId IsNew (Operated build) state.abstract := by
  induction h with
  | refl => exact ⟨fun key => History.nil key, fun _ => rfl, by simp [SharedStore.abstract,
      SharedStore.empty]⟩
  | @tail state next _ hstep ih =>
      refine ih.step (fun _ _ h => h.messageId) (store_step_simulates ?_ hstep)
      intro client version hversion
      have hmem := ih.loaded client version.row (List.mem_map.mpr ⟨version, hversion, rfl⟩)
      exact history_well_formed (ih.history _) _ hmem

/-! ## No lost update -/

/-- What the writes of one message ID look like: distinct revisions, a fresh first version, each
later version made by operations from the version right before it with the next revision, and
growth of the record from any version to any later one. -/
structure UpdateHistory (build : Build) (messageId : String)
    (versions : List VersionedSubmission) : Prop where
  writtenOnce : (versions.map VersionedSubmission.revision).Nodup
  first : ∀ version ∈ versions.head?, IsNew version.record
  consecutive : versions.IsChain fun earlier later =>
    later.revision.toNat = earlier.revision.toNat + 1 ∧
      ∃ events, later.record = earlier.record.deliverAll build events
  preserved : versions.Pairwise fun earlier later =>
    SubmissionRecord.Continues earlier.record later.record

/-- The history of a consistent log, for the versions it was abstracted from. -/
theorem update_history {build : Build} {messageId : String}
    {versions : List VersionedSubmission}
    (h : History SubmissionRecord.messageId IsNew (Operated build) messageId
      (versions.map VersionedSubmission.row)) : UpdateHistory build messageId versions := by
  have hrevisions : versions.map (fun version => version.revision.toNat) =
      List.range versions.length := by
    have hrange := h.revisions
    rwa [List.map_map, List.length_map] at hrange
  have hchain := (List.isChain_map VersionedSubmission.row).mp h.chain
  refine ⟨?_, ?_, ?_, ?_⟩
  · have hnodup : (versions.map fun version => version.revision.toNat).Nodup := by
      rw [hrevisions]
      exact List.nodup_range
    refine List.Nodup.of_map UInt64.toNat ?_
    rwa [List.map_map]
  · intro version hversion
    refine h.first version.row ?_
    rw [List.head?_map, Option.mem_def.mp hversion]
    rfl
  · have hnext : versions.IsChain fun earlier later =>
        later.revision.toNat = earlier.revision.toNat + 1 := by
      have hrange := List.isChain_range (· + 1 = ·) versions.length
      rw [← hrevisions, List.isChain_map] at hrange
      exact (hrange.mpr fun _ _ => rfl).imp fun _ _ heq => heq.symm
    rw [List.isChain_iff_getElem] at hnext hchain ⊢
    exact fun index hindex => ⟨hnext index hindex, (hchain index hindex).2⟩
  · have htrans : IsTrans VersionedSubmission fun earlier later =>
        SubmissionRecord.Continues earlier.record later.record :=
      ⟨fun _ _ _ => SubmissionRecord.Continues.trans⟩
    exact (hchain.imp fun _ _ hderived => hderived.continues).pairwise

/-- Optimistic persistence loses no update, for any number of clients and any interleaving of
their loads and writes: every message ID has one history of versions, the stored version is its
last one, and a write that reports a conflict leaves the store as it is. -/
theorem optimistic_update_history [DecidableEq ι] (build : Build) (state : SharedStore ι)
    (h : StoreReachable build state) :
    (∀ messageId, UpdateHistory build messageId (state.written messageId) ∧
      state.store.load messageId = (state.written messageId).getLast?) ∧
    ∀ expected record current store,
      state.store.compareAndSwap expected record = (.conflict current, store) →
        store = state.store := by
  have hconsistent := h.consistent
  refine ⟨fun messageId => ⟨update_history (hconsistent.history messageId), ?_⟩, ?_⟩
  · have hstored := hconsistent.stored messageId
    simp only [SharedStore.abstract, List.getLast?_map] at hstored
    have hinjective : Function.Injective VersionedSubmission.row := by
      rintro ⟨revision, record⟩ ⟨other, otherRecord⟩ heq
      simp only [VersionedSubmission.row, Row.mk.injEq, UInt64.toNat_inj] at heq
      rw [heq.1, heq.2]
    exact Option.map_injective hinjective hstored
  · intro expected record current store hswap
    simp only [MemoryStore.compareAndSwap] at hswap
    split at hswap
    · exact (Prod.mk.inj hswap).2.symm
    · cases (Prod.mk.inj hswap).1

/-- Two clients load the first version of a submission and both try to replace it. -/
def sampleRace : SharedStore Bool :=
  ((((SharedStore.empty.write none sampleRecord).load true "m").load false "m").write (some 0)
    (sampleRecord.deliverAll .checked [.advance .prepared])).write (some 0)
    (sampleRecord.deliverAll .checked [.process (sampleProcess "m" "E001")])

theorem sample_race_reachable : StoreReachable .checked sampleRace := by
  refine Relation.ReflTransGen.tail (Relation.ReflTransGen.tail (Relation.ReflTransGen.tail
    (Relation.ReflTransGen.tail (Relation.ReflTransGen.tail Relation.ReflTransGen.refl
      (.create _ true "m" 2 _ new_sample_record)) (.load _ true "m")) (.load _ false "m"))
    (.update _ true ⟨0, sampleRecord⟩ [.advance .prepared] ?_ (by decide)))
    (.update _ false ⟨0, sampleRecord⟩ [.process (sampleProcess "m" "E001")] ?_ (by decide))
  · exact List.mem_singleton.mpr rfl
  · exact List.mem_singleton.mpr rfl

theorem sample_race_update_history :
    StoreReachable .checked sampleRace ∧
      UpdateHistory .checked "m" (sampleRace.written "m") ∧
      (sampleRace.written "m").map VersionedSubmission.revision = [0, 1] :=
  ⟨sample_race_reachable,
    ((optimistic_update_history .checked sampleRace sample_race_reachable).1 "m").1, rfl⟩

end TwEinvoice.State
