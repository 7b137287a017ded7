import Mathlib.Tactic.SplitIfs
import TwEinvoice.Effects.Program

/-!
# Readers and writers

`Write::write_all` and `io::copy` over any program that writes or reads some of the bytes. A
write may take any part of what it is given, a read may return any part of what is left, and
either may be interrupted, which is tried again without a bound; the loops take fuel.

The rules at the end carry what has been read and written so far through the loops.
-/

namespace TwEinvoice.Rust

open Effects

/-- An error of `std::io`, as far as the callers tell kinds apart. -/
inductive IoFailure where
  | interrupted
  | notFound (message : String)
  | writeZero
  | other (code : Nat)
  deriving DecidableEq

/-- How many of the given bytes a write has taken. -/
abbrev Written (bytes : List UInt8) : Type := Fin (bytes.length + 1)

/-- What a read with a buffer of this length has returned. -/
abbrev Chunk (bufferLength : Nat) : Type := {bytes : List UInt8 // bytes.length ≤ bufferLength}

/-- A program that writes some of the bytes. -/
abbrev Writer (S : Signature) : Type :=
  (bytes : List UInt8) → Program S (Except IoFailure (Written bytes))

/-- A program that reads some bytes. -/
abbrev Reader (S : Signature) (bufferLength : Nat) : Type :=
  Program S (Except IoFailure (Chunk bufferLength))

/-- The length of the buffer of `io::copy`. -/
def copyBufferLength : Nat := 8 * 1024

section Loops

variable {S : Signature}

/-- `Write::write_all`. -/
def writeAll (write : Writer S) : Nat → List UInt8 → ExceptT IoFailure (Program S) Unit
  | 0, _ => ExceptT.mk .outOfFuel
  | fuel + 1, bytes => ExceptT.mk do
      if bytes = [] then return .ok ()
      match ← write bytes with
      | .ok count =>
          if count.val = 0 then return .error .writeZero
          else (writeAll write fuel (bytes.drop count)).run
      | .error .interrupted => (writeAll write fuel bytes).run
      | .error error => return .error error

/-- `io::copy`. -/
def copy (read : Reader S copyBufferLength) (write : Writer S) :
    Nat → ExceptT IoFailure (Program S) Unit
  | 0 => ExceptT.mk .outOfFuel
  | fuel + 1 => ExceptT.mk do
      match ← read with
      | .ok chunk =>
          if chunk.val = [] then return .ok ()
          else ExceptT.run do
            writeAll write fuel chunk.val
            copy read write fuel
      | .error .interrupted => (copy read write fuel).run
      | .error error => return .error error

end Loops

/-! ## Rules -/

section Rules

variable {S : Signature} {σ : Type} {env : Environment S σ} {permits : S.Op → σ → Prop}

/-- Every write that takes some bytes adds them to what is known to be written. -/
def WritesTo (env : Environment S σ) (permits : S.Op → σ → Prop) (write : Writer S)
    (sent : List UInt8 → σ → Prop) : Prop :=
  ∀ bytes done state, sent done state →
    Must env permits (write bytes)
      (onResult (fun count after => sent (done ++ bytes.take count) after)
        fun _ after => sent done after) state

/-- After `write_all` everything is written, or some beginning of it. -/
theorem must_writeAll {write : Writer S} {sent : List UInt8 → σ → Prop}
    (hwrite : WritesTo env permits write sent) (fuel : Nat) {bytes done : List UInt8} {state : σ}
    (hstate : sent done state) :
    Must env permits (writeAll write fuel bytes).run
      (onResult (fun _ after => sent (done ++ bytes) after)
        fun _ after => ∃ some, some <+: bytes ∧ sent (done ++ some) after) state := by
  induction fuel generalizing bytes done state with
  | zero => trivial
  | succ fuel ih =>
      show Must env permits (if bytes = [] then _ else _) _ state
      split_ifs with hempty
      · subst hempty
        rw [List.append_nil]
        exact hstate
      refine must_bind.2 ((hwrite bytes done state hstate).mono fun reply after hreply => ?_)
      have hnone : sent done after → ∃ some, some <+: bytes ∧ sent (done ++ some) after :=
        fun hdone => ⟨[], List.nil_prefix, by rw [List.append_nil]; exact hdone⟩
      rcases reply with (_ | message | _ | code) | count
      · exact ih hreply
      · exact hnone hreply
      · exact hnone hreply
      · exact hnone hreply
      · have hsent : sent (done ++ bytes.take count) after := hreply
        show Must env permits (if count.val = 0 then _ else _) _ after
        split_ifs with hzero
        · rw [hzero, List.take_zero, List.append_nil] at hsent
          exact hnone hsent
        · -- The rest is written behind what has just been taken.
          refine (ih hsent).mono fun result final hresult => ?_
          cases result with
          | ok value =>
              rw [onResult_ok, List.append_assoc, List.take_append_drop] at hresult
              exact hresult
          | error error =>
              obtain ⟨some, ⟨rest, hrest⟩, hfinal⟩ := hresult
              refine ⟨bytes.take count ++ some, ⟨rest, ?_⟩, ?_⟩
              · rw [List.append_assoc, hrest, List.take_append_drop]
              · rw [← List.append_assoc]
                exact hfinal

/-- Every read adds what it returns to what is known to be read. -/
def ReadsFrom (env : Environment S σ) (permits : S.Op → σ → Prop)
    (read : Reader S copyBufferLength) (known : List UInt8 → List UInt8 → σ → Prop)
    (ended : List UInt8 → σ → Prop) : Prop :=
  ∀ received sent state, known received sent state →
    Must env permits read
      (onResult (fun chunk after => known (received ++ chunk.val) sent after ∧
          (chunk.val = [] → ended received after))
        fun _ after => known received sent after) state

/-- After `io::copy` everything that was read up to the end has been written, or some beginning
of what was read. -/
theorem must_copy {read : Reader S copyBufferLength} {write : Writer S}
    {known : List UInt8 → List UInt8 → σ → Prop} {ended : List UInt8 → σ → Prop}
    (hread : ReadsFrom env permits read known ended)
    (hwrite : ∀ received, WritesTo env permits write (known received)) (fuel : Nat)
    {received : List UInt8} {state : σ} (hstate : known received received state) :
    Must env permits (copy read write fuel).run
      (onResult (fun _ after => ∃ received, known received received after ∧ ended received after)
        fun _ after => ∃ received sent, sent <+: received ∧ known received sent after) state := by
  induction fuel generalizing received state with
  | zero => trivial
  | succ fuel ih =>
      refine must_bind.2 ((hread received received state hstate).mono fun reply after hreply => ?_)
      rcases reply with (_ | message | _ | code) | chunk
      · exact ih hreply
      · exact ⟨received, received, List.prefix_refl _, hreply⟩
      · exact ⟨received, received, List.prefix_refl _, hreply⟩
      · exact ⟨received, received, List.prefix_refl _, hreply⟩
      · obtain ⟨hknown, hended⟩ := hreply
        show Must env permits (if chunk.val = [] then _ else _) _ after
        split_ifs with hempty
        · rw [hempty, List.append_nil] at hknown
          exact ⟨received, hknown, hended hempty⟩
        · refine must_run_bind.2 ((must_writeAll (hwrite _) fuel hknown).mono ?_)
          intro result final hresult
          cases result with
          | ok value => exact ih hresult
          | error error =>
              obtain ⟨some, hbeginning, hfinal⟩ := hresult
              exact ⟨_, _, (List.prefix_append_right_inj received).2 hbeginning, hfinal⟩

/-! ## Termination -/

/-- A call that ends and is not interrupted. -/
def Uninterrupted {α : Type} (env : Environment S σ) (call : Program S (Except IoFailure α))
    (state : σ) (post : σ → Prop) : Prop :=
  Halts env call state ∧
    Must env (fun _ _ => True) call
      (fun reply after => reply ≠ .error .interrupted ∧ post after) state

/-- Without interruptions `write_all` ends: each write that takes nothing ends it. -/
theorem halts_writeAll {write : Writer S}
    (hwrite : ∀ bytes state, Uninterrupted env (write bytes) state fun _ => True) {fuel : Nat}
    {bytes : List UInt8} {state : σ} (hfuel : bytes.length < fuel) :
    Halts env (writeAll write fuel bytes).run state := by
  induction fuel generalizing bytes state with
  | zero => omega
  | succ fuel ih =>
      show Halts env (if bytes = [] then _ else _) state
      split_ifs with hempty
      · trivial
      refine halts_bind.2 ⟨(hwrite bytes state).1, (hwrite bytes state).2.mono ?_⟩
      intro reply after hreply
      rcases reply with (_ | message | _ | code) | count
      · exact absurd rfl hreply.1
      · trivial
      · trivial
      · trivial
      · show Halts env (if count.val = 0 then _ else _) after
        split_ifs with hzero
        · trivial
        · refine ih ?_
          rw [List.length_drop]
          have hpositive := List.length_pos_iff.2 hempty
          omega

/-- Without interruptions `io::copy` ends if each read leaves less to be read. -/
theorem halts_copy {read : Reader S copyBufferLength} {write : Writer S} (remaining : σ → Nat)
    (hread : ∀ state, Halts env read state ∧
      Must env (fun _ _ => True) read (fun reply after => reply ≠ .error .interrupted ∧
        ∀ chunk, reply = .ok chunk → remaining after + chunk.val.length ≤ remaining state) state)
    (hwrite : ∀ bytes state, Uninterrupted env (write bytes) state
      fun after => remaining after = remaining state)
    {fuel : Nat} {state : σ} (hfuel : remaining state + 1 < fuel) :
    Halts env (copy read write fuel).run state := by
  induction fuel generalizing state with
  | zero => omega
  | succ fuel ih =>
      refine halts_bind.2 ⟨(hread state).1, (hread state).2.mono fun reply after hreply => ?_⟩
      obtain ⟨hnot, hless⟩ := hreply
      rcases reply with (_ | message | _ | code) | chunk
      · exact absurd rfl hnot
      · trivial
      · trivial
      · trivial
      · show Halts env (if chunk.val = [] then _ else _) after
        have hchunk := hless chunk rfl
        split_ifs with hempty
        · trivial
        have hpositive := List.length_pos_iff.2 hempty
        have hwritten : ∀ bytes state, Uninterrupted env (write bytes) state fun _ => True :=
          fun bytes state => ⟨(hwrite bytes state).1,
            (hwrite bytes state).2.mono fun _ _ h => ⟨h.1, trivial⟩⟩
        refine halts_run_bind.2 ⟨halts_writeAll hwritten (by omega), ?_⟩
        -- Writing does not change what is left to be read.
        have hsame : WritesTo env (fun _ _ => True) write
            fun _ final => remaining final = remaining after := by
          intro bytes _ middle hmiddle
          refine (hwrite bytes middle).2.mono fun reply final hfinal => ?_
          cases reply <;> exact hfinal.2.trans hmiddle
        refine (@must_writeAll _ _ _ _ _ _ hsame fuel chunk.val [] after rfl).mono ?_
        intro result final hresult
        cases result with
        | error error => trivial
        | ok value =>
            have hkept : remaining final = remaining after := hresult
            exact ih (by omega)

end Rules

end TwEinvoice.Rust
