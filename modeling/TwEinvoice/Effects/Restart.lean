import Mathlib.Logic.Relation
import TwEinvoice.Effects.Program

/-!
# Processes that are killed and started again

A process works through jobs one after another on a state that outlives it. It may be killed
before any call of a job; the next process then starts on the state that the killed one left.
`Reachable.permits_call` reduces a property of every call in every such run to the behaviour of
one job.
-/

namespace TwEinvoice.Effects

variable {S : Signature} {α σ : Type}

/-- The job that the process is in the middle of, if any, and the state. -/
structure Process (S : Signature) (α σ : Type) where
  running : Option (Program S α)
  state : σ

variable (env : Environment S σ) (job : Program S α → Prop) (restart : σ → σ → Prop)

/-- One step of a process. A kill loses the job but not the state, which `restart` relates to
the state of the process started next. -/
inductive ProcessStep : Process S α σ → Process S α σ → Prop where
  | start {program state} : job program → ProcessStep ⟨none, state⟩ ⟨some program, state⟩
  | call {op next state reply middle} : env op state reply middle →
      ProcessStep ⟨some (.call op next), state⟩ ⟨some (next reply), middle⟩
  | finish {value state} : ProcessStep ⟨some (.pure value), state⟩ ⟨none, state⟩
  | kill {op next state final} : restart state final →
      ProcessStep ⟨some (.call op next), state⟩ ⟨none, final⟩
  | restart {state final} : restart state final → ProcessStep ⟨none, state⟩ ⟨none, final⟩

/-- The processes reachable from one that is idle in the given state. -/
def ProcessReachable (initial : σ) (process : Process S α σ) : Prop :=
  Relation.ReflTransGen (ProcessStep env job restart) ⟨none, initial⟩ process

variable {env job restart} {permits : S.Op → σ → Prop} {invariant : σ → Prop}

/-- What is known of a process: the invariant between jobs, and in the middle of a job that the
rest of it behaves. -/
def Process.Good (env : Environment S σ) (permits : S.Op → σ → Prop) (invariant : σ → Prop)
    (process : Process S α σ) : Prop :=
  match process.running with
  | none => invariant process.state
  | some program => Must env permits program (fun _ => invariant) process.state

/-- One step keeps a process good. -/
theorem ProcessStep.good {process next : Process S α σ}
    (hjob : ∀ program state, job program → invariant state →
      Must env permits program (fun _ => invariant) state)
    (hkill : ∀ op state final, permits op state → restart state final → invariant final)
    (hrestart : ∀ state final, restart state final → invariant state → invariant final)
    (hstep : ProcessStep env job restart process next)
    (hgood : process.Good env permits invariant) : next.Good env permits invariant := by
  cases hstep with
  | start hprogram => exact hjob _ _ hprogram hgood
  | call hreply => exact hgood.2 _ _ hreply
  | finish => exact hgood
  | kill hfinal => exact hkill _ _ _ hgood.1 hfinal
  | restart hfinal => exact hrestart _ _ hfinal hgood

/-- Every reachable process is good. -/
theorem ProcessReachable.good {initial : σ} {process : Process S α σ}
    (hjob : ∀ program state, job program → invariant state →
      Must env permits program (fun _ => invariant) state)
    (hkill : ∀ op state final, permits op state → restart state final → invariant final)
    (hrestart : ∀ state final, restart state final → invariant state → invariant final)
    (hinitial : invariant initial) (hreach : ProcessReachable env job restart initial process) :
    process.Good env permits invariant := by
  induction hreach with
  | refl => exact hinitial
  | tail _ hstep ih => exact hstep.good hjob hkill hrestart ih

/-- Every call in every run is permitted. -/
theorem ProcessReachable.permits_call (permits : S.Op → σ → Prop) (invariant : σ → Prop)
    {initial state : σ} {op : S.Op} {next : S.Reply op → Program S α}
    (hjob : ∀ program state, job program → invariant state →
      Must env permits program (fun _ => invariant) state)
    (hkill : ∀ op state final, permits op state → restart state final → invariant final)
    (hrestart : ∀ state final, restart state final → invariant state → invariant final)
    (hinitial : invariant initial)
    (hreach : ProcessReachable env job restart initial ⟨some (.call op next), state⟩) :
    permits op state :=
  (hreach.good hjob hkill hrestart hinitial).1

/-! ## Running a process -/

/-- Runs a program with the given choices up to the first call that `stop` selects. -/
def Handler.runUntil (handler : Handler S σ) (choose : (op : S.Op) → σ → handler.Choice op)
    (stop : S.Op → Bool) : Program S α → σ → Program S α × σ
  | .call op next, state =>
      if stop op then (.call op next, state)
      else
        let answer := handler.respond op (choose op state) state
        handler.runUntil choose stop (next answer.1) answer.2
  | program, state => (program, state)

/-- The operation that a program calls next. -/
def Program.pending : Program S α → Option S.Op
  | .call op _ => some op
  | _ => none

/-- A pending call is the next step. -/
theorem Program.exists_of_pending {program : Program S α} {op : S.Op}
    (h : program.pending = some op) : ∃ next, program = .call op next := by
  cases program with
  | pure value => cases h
  | call other next =>
      cases h
      exact ⟨next, rfl⟩
  | outOfFuel => cases h

/-- A process can do what `runUntil` computes. -/
theorem ProcessReachable.runUntil {handler : Handler S σ}
    {assume : (op : S.Op) → handler.Choice op → σ → Prop}
    {choose : (op : S.Op) → σ → handler.Choice op} {stop : S.Op → Bool} {initial state : σ}
    {program : Program S α} (hassume : ∀ op state, assume op (choose op state) state)
    (hreach : ProcessReachable (handler.environment assume) job restart initial
      ⟨some program, state⟩) :
    ProcessReachable (handler.environment assume) job restart initial
      ⟨some (handler.runUntil choose stop program state).1,
        (handler.runUntil choose stop program state).2⟩ := by
  induction program generalizing state with
  | pure value => exact hreach
  | call op next ih =>
      by_cases hstop : stop op
      · simpa [Handler.runUntil, hstop] using hreach
      · have hstep := hreach.tail (.call ⟨choose op state, hassume op state, rfl⟩)
        simpa [Handler.runUntil, hstop] using ih _ hstep
  | outOfFuel => exact hreach

section Jobs

variable {handler : Handler S σ} {assume : (op : S.Op) → handler.Choice op → σ → Prop}
variable {choose : (op : S.Op) → σ → handler.Choice op} {stop : S.Op → Bool}
variable {initial state : σ} {program : Program S α}

/-- An idle process can work through a job that returns. -/
theorem ProcessReachable.returned {value : α}
    (hreach : ProcessReachable (handler.environment assume) job restart initial ⟨none, state⟩)
    (hassume : ∀ op state, assume op (choose op state) state) (hjob : job program)
    (hreturned : (handler.runUntil choose stop program state).1 = .pure value) :
    ProcessReachable (handler.environment assume) job restart initial
      ⟨none, (handler.runUntil choose stop program state).2⟩ := by
  have hrun : ProcessReachable _ _ _ _ ⟨some (handler.runUntil choose stop program state).1, _⟩ :=
    ProcessReachable.runUntil hassume (hreach.tail (.start hjob))
  rw [hreturned] at hrun
  exact hrun.tail .finish

/-- An idle process can work on a job up to a call that is pending. -/
theorem ProcessReachable.pending {op : S.Op}
    (hreach : ProcessReachable (handler.environment assume) job restart initial ⟨none, state⟩)
    (hassume : ∀ op state, assume op (choose op state) state) (hjob : job program)
    (hpending : (handler.runUntil choose stop program state).1.pending = some op) :
    ∃ next, ProcessReachable (handler.environment assume) job restart initial
      ⟨some (.call op next), (handler.runUntil choose stop program state).2⟩ := by
  obtain ⟨next, hnext⟩ := Program.exists_of_pending hpending
  have hrun : ProcessReachable _ _ _ _ ⟨some (handler.runUntil choose stop program state).1, _⟩ :=
    ProcessReachable.runUntil hassume (hreach.tail (.start hjob))
  rw [hnext] at hrun
  exact ⟨next, hrun⟩

end Jobs

end TwEinvoice.Effects
