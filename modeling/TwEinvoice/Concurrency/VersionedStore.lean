import Mathlib.Data.List.Chain
import Mathlib.Data.List.Range
import Mathlib.Logic.Function.Basic
import Mathlib.Logic.Relation

/-!
# Optimistic concurrency on a versioned store

Any number of clients share a store of revisioned rows. A client loads rows, derives new values
from the ones it has loaded and writes them with compare-and-swap; nothing orders the clients.
`Reachable.history` describes every reachable state: the successful writes of a key have the
revisions 0, 1, 2, ..., the first value is fresh, each later value derives from the one right
before it, and the stored row is the last one. The log of writes is a ghost of the model.
-/

namespace TwEinvoice.Concurrency

universe u v w

/-- A stored value with the revision it was written as. -/
structure Row (V : Type v) where
  revision : Nat
  value : V

/-- A store holds at most one row for a key. -/
abbrev Store (K : Type u) (V : Type v) := K → Option (Row V)

variable {K : Type u} {V : Type v} {ι : Type w} [DecidableEq K] [DecidableEq ι]

/-- Create the row when none is expected and none is there, replace it when its revision is the
expected one, and otherwise write nothing. -/
def compareAndSwap (store : Store K V) (key : K) (expected : Option Nat) (value : V) :
    Option (Row V) × Store K V :=
  if (store key).map Row.revision = expected then
    let row : Row V := ⟨expected.elim 0 (· + 1), value⟩
    (some row, Function.update store key (some row))
  else (none, store)

/-- The store, the rows each client has loaded so far, and the successful writes of each key,
oldest first. -/
structure System (ι : Type w) (K : Type u) (V : Type v) where
  store : Store K V
  loaded : ι → List (Row V)
  log : K → List (Row V)

/-- No rows, no loads, no writes. -/
def System.empty : System ι K V := ⟨fun _ => none, fun _ => [], fun _ => []⟩

/-- The state after a write, which is logged when it succeeds. -/
def System.write (state : System ι K V) (key : K) (expected : Option Nat) (value : V) :
    System ι K V :=
  match compareAndSwap state.store key expected value with
  | (some row, store) =>
      { state with store, log := Function.update state.log key (state.log key ++ [row]) }
  | (none, _) => state

/-- The state after a client has loaded the row of a key, if there is one. -/
def System.load (state : System ι K V) (client : ι) (key : K) : System ι K V :=
  match state.store key with
  | some row =>
      { state with loaded := Function.update state.loaded client (row :: state.loaded client) }
  | none => state

variable (keyOf : V → K) (fresh : V → Prop) (derives : V → V → Prop)

/-- One client takes a step. It may use any row that it has ever loaded, however stale. -/
inductive Step : System ι K V → System ι K V → Prop where
  | load (state client key) : Step state (state.load client key)
  | create (state) (client : ι) (value) :
      fresh value → Step state (state.write (keyOf value) none value)
  | update (state) (client : ι) (row value) :
      row ∈ state.loaded client → derives row.value value →
      Step state (state.write (keyOf value) (some row.revision) value)

/-- The states that the clients can reach from the empty store, in any interleaving. -/
def Reachable (state : System ι K V) : Prop :=
  Relation.ReflTransGen (Step keyOf fresh derives) System.empty state

/-- The successful writes of one key. -/
structure History (key : K) (log : List (Row V)) : Prop where
  revisions : log.map Row.revision = List.range log.length
  keys : ∀ row ∈ log, keyOf row.value = key
  first : ∀ row ∈ log.head?, fresh row.value
  chain : log.IsChain fun earlier later => derives earlier.value later.value

/-- What every reachable state satisfies: each log is a history that ends in the stored row, and
a loaded row is one of the writes. -/
structure Consistent (state : System ι K V) : Prop where
  history : ∀ key, History keyOf fresh derives key (state.log key)
  stored : ∀ key, state.store key = (state.log key).getLast?
  loaded : ∀ client, ∀ row ∈ state.loaded client, row ∈ state.log (keyOf row.value)

variable {keyOf fresh derives}

omit [DecidableEq K] in
theorem History.nil (key : K) : History keyOf fresh derives key ([] : List (Row V)) :=
  ⟨rfl, by simp, by simp, .nil⟩

omit [DecidableEq K] in
/-- The revision of a write is its place in the history. -/
theorem History.revision_eq {key : K} {log : List (Row V)}
    (h : History keyOf fresh derives key log) {index : Nat} {row : Row V}
    (hrow : log[index]? = some row) : row.revision = index := by
  have hmap : (log.map Row.revision)[index]? = some row.revision := by simp [hrow]
  rw [h.revisions] at hmap
  obtain ⟨hlt, hindex⟩ := List.getElem?_eq_some_iff.mp hmap
  simpa using hindex.symm

omit [DecidableEq K] in
/-- A revision identifies a write. -/
theorem History.unique {key : K} {log : List (Row V)}
    (h : History keyOf fresh derives key log) {first second : Row V}
    (hfirst : first ∈ log) (hsecond : second ∈ log)
    (heq : first.revision = second.revision) : first = second := by
  obtain ⟨left, hleft⟩ := List.mem_iff_getElem?.mp hfirst
  obtain ⟨right, hright⟩ := List.mem_iff_getElem?.mp hsecond
  have hindex : left = right := by
    rw [← h.revision_eq hleft, ← h.revision_eq hright, heq]
  rw [hindex, hright] at hleft
  exact (Option.some.inj hleft).symm

omit [DecidableEq K] in
/-- A write that derives from the last one, with the next revision, extends the history. -/
theorem History.concat {key : K} {log : List (Row V)}
    (h : History keyOf fresh derives key log) {value : V} (hkey : keyOf value = key)
    (hfirst : log = [] → fresh value)
    (hderives : ∀ row ∈ log.getLast?, derives row.value value) :
    History keyOf fresh derives key (log ++ [⟨log.length, value⟩]) := by
  refine ⟨?_, ?_, ?_, ?_⟩
  · simp [h.revisions, List.range_succ]
  · intro row hrow
    rcases List.mem_append.mp hrow with hold | hnew
    · exact h.keys row hold
    · simp only [List.mem_singleton] at hnew
      rw [hnew]
      exact hkey
  · intro row hrow
    cases log with
    | nil =>
        obtain rfl : (⟨0, value⟩ : Row V) = row := by simpa using hrow
        exact hfirst rfl
    | cons head rest => exact h.first row (by simpa using hrow)
  · refine List.isChain_append.mpr ⟨h.chain, .singleton _, ?_⟩
    intro last hlast next hnext
    obtain rfl : (⟨log.length, value⟩ : Row V) = next := by simpa using hnext
    exact hderives last hlast

omit [DecidableEq K] in
/-- Loading keeps the state consistent. -/
theorem Consistent.load {state : System ι K V} (h : Consistent keyOf fresh derives state)
    (client : ι) (key : K) : Consistent keyOf fresh derives (state.load client key) := by
  unfold System.load
  split
  · rename_i row hrow
    refine ⟨h.history, h.stored, ?_⟩
    intro other found hfound
    by_cases hclient : other = client
    · subst hclient
      simp only [Function.update_self] at hfound
      rcases List.mem_cons.mp hfound with rfl | hold
      · have hmem : found ∈ state.log key := by
          rw [h.stored key] at hrow
          exact List.mem_of_getLast? hrow
        rwa [(h.history key).keys found hmem]
      · exact h.loaded other found hold
    · simp only [Function.update_of_ne hclient] at hfound
      exact h.loaded other found hfound
  · exact h

omit [DecidableEq ι] in
/-- A write keeps the state consistent when the value derives from the row whose revision it
expects. -/
theorem Consistent.write {state : System ι K V} (h : Consistent keyOf fresh derives state)
    {expected : Option Nat} {value : V}
    (hfresh : expected = none → fresh value)
    (hderives : ∀ row, state.store (keyOf value) = some row →
      expected = some row.revision → derives row.value value) :
    Consistent keyOf fresh derives (state.write (keyOf value) expected value) := by
  unfold System.write compareAndSwap
  split
  · rename_i row store hswap
    split at hswap
    · rename_i hcurrent
      cases hswap
      have hstored := h.stored (keyOf value)
      have hhistory := h.history (keyOf value)
      -- the written revision is the length of the log, because the stored row ends the log
      have hlength : expected.elim 0 (· + 1) = (state.log (keyOf value)).length := by
        rw [← hcurrent, hstored]
        cases hlog : (state.log (keyOf value)).getLast? with
        | none => simp [List.getLast?_eq_none_iff.mp hlog]
        | some last =>
            rw [List.getLast?_eq_getElem?] at hlog
            have hrevision := hhistory.revision_eq hlog
            obtain ⟨hlt, -⟩ := List.getElem?_eq_some_iff.mp hlog
            simp only [Option.map_some, Option.elim_some]
            omega
      rw [hlength]
      have hconcat := hhistory.concat rfl
        (fun hnil => hfresh (by rw [← hcurrent, hstored, hnil]; rfl))
        (fun last hlast => by
          have hrow : state.store (keyOf value) = some last := by rw [hstored]; exact hlast
          exact hderives last hrow (by rw [← hcurrent, hrow]; rfl))
      refine ⟨fun key => ?_, fun key => ?_, fun client found hfound => ?_⟩
      · by_cases hkey : key = keyOf value
        · subst hkey
          simpa using hconcat
        · simpa [Function.update_of_ne hkey] using h.history key
      · by_cases hkey : key = keyOf value
        · subst hkey
          simp
        · simpa [Function.update_of_ne hkey] using h.stored key
      · have hmem := h.loaded client found hfound
        by_cases hkey : keyOf found.value = keyOf value
        · rw [hkey] at hmem ⊢
          simp [hmem]
        · simpa [Function.update_of_ne hkey] using hmem
    · cases hswap
  · exact h

/-- One step keeps the state consistent, if deriving keeps the key. -/
theorem Consistent.step (hkeys : ∀ earlier later, derives earlier later →
      keyOf later = keyOf earlier)
    {state next : System ι K V} (h : Consistent keyOf fresh derives state)
    (hstep : Step keyOf fresh derives state next) : Consistent keyOf fresh derives next := by
  cases hstep with
  | load client key => exact h.load client key
  | create client value hfresh => exact h.write (fun _ => hfresh) (by simp)
  | update client row value hrow hderives =>
      refine h.write (by simp) ?_
      intro current hcurrent hrevision
      -- the stored row has the revision of the loaded one, so it is the loaded one
      have hloaded := h.loaded client row hrow
      rw [← hkeys row.value value hderives] at hloaded
      rw [h.stored] at hcurrent
      have hsame := (h.history _).unique hloaded (List.mem_of_getLast? hcurrent)
        (Option.some.inj hrevision)
      rwa [← hsame]

/-- Every reachable state is consistent: each key has one linear history, however the clients
interleave. -/
theorem Reachable.consistent (hkeys : ∀ earlier later, derives earlier later →
      keyOf later = keyOf earlier)
    {state : System ι K V} (h : Reachable keyOf fresh derives state) :
    Consistent keyOf fresh derives state := by
  induction h with
  | refl => exact ⟨History.nil, fun _ => rfl, by simp [System.empty]⟩
  | tail _ hstep ih => exact ih.step hkeys hstep

omit [DecidableEq K] in
/-- A property of fresh values that deriving keeps holds of every written value. -/
theorem History.forall {key : K} {log : List (Row V)} {property : V → Prop}
    (h : History keyOf fresh derives key log) (hfresh : ∀ value, fresh value → property value)
    (hderives : ∀ earlier later, property earlier → derives earlier later → property later) :
    ∀ row ∈ log, property row.value := by
  refine h.chain.induction (fun row : Row V => property row.value) log
    (fun earlier later hstep hearlier => hderives _ _ hearlier hstep) fun hne => ?_
  exact hfresh _ (h.first _ (List.head_mem_head? hne))

end TwEinvoice.Concurrency
