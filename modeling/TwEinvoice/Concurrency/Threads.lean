import Mathlib.Logic.Function.Basic
import Mathlib.Logic.Relation
import TwEinvoice.Effects.Restart

/-!
# Programs that run as threads

Threads share a state and take their steps in any order. A call may change the state any number
of times while it is pending, and once more when it is replied to.

A `Discipline` says what one thread may call, whatever the others do: it follows the thread
through phases that depend on its own calls and replies only. `Invariant.run` combines the
threads: an invariant of the state and all phases need only be checked for one call at a time.
-/

namespace TwEinvoice.Concurrency

open Effects

variable {S : Signature} {α σ φ ι : Type} [DecidableEq ι]

/-- The shared state, and what each thread that is running still has to do. -/
structure Threads (ι : Type) (S : Signature) (α σ : Type) where
  state : σ
  running : ι → Option (Program S α)

/-- The programs that a thread may begin, what one of its calls may do to the state while it is
pending, and how it may be replied to. -/
structure Rules (ι : Type) (S : Signature) (α σ : Type) where
  begins : ι → Program S α → Prop
  pending : ι → S.Op → σ → σ → Prop
  replies : ι → Environment S σ

/-- One step of some thread. -/
inductive Event (ι : Type) (S : Signature) where
  | begin (thread : ι)
  | work (thread : ι) (op : S.Op)
  | reply (thread : ι) (op : S.Op) (reply : S.Reply op)
  | finish (thread : ι)

variable {rules : Rules ι S α σ}

/-- Some thread takes a step. -/
inductive ThreadStep (rules : Rules ι S α σ) :
    Threads ι S α σ → Event ι S → Threads ι S α σ → Prop where
  | begin {state running thread program} :
      running thread = none → rules.begins thread program →
      ThreadStep rules ⟨state, running⟩ (.begin thread)
        ⟨state, Function.update running thread (some program)⟩
  | work {state running thread op next middle} :
      running thread = some (.call op next) → rules.pending thread op state middle →
      ThreadStep rules ⟨state, running⟩ (.work thread op) ⟨middle, running⟩
  | reply {state running thread op next reply middle} :
      running thread = some (.call op next) → rules.replies thread op state reply middle →
      ThreadStep rules ⟨state, running⟩ (.reply thread op reply)
        ⟨middle, Function.update running thread (some (next reply))⟩
  | finish {state running thread value} :
      running thread = some (.pure value) →
      ThreadStep rules ⟨state, running⟩ (.finish thread)
        ⟨state, Function.update running thread none⟩

/-- The threads take steps, in any order. -/
inductive ThreadRun (rules : Rules ι S α σ) :
    Threads ι S α σ → List (Event ι S) → Threads ι S α σ → Prop where
  | nil (threads) : ThreadRun rules threads [] threads
  | cons {first event middle events last} :
      ThreadStep rules first event middle → ThreadRun rules middle events last →
      ThreadRun rules first (event :: events) last

/-- Runs one after the other. -/
theorem ThreadRun.append {first middle last : Threads ι S α σ} {events more : List (Event ι S)}
    (h : ThreadRun rules first events middle) (hmore : ThreadRun rules middle more last) :
    ThreadRun rules first (events ++ more) last := by
  induction h with
  | nil => exact hmore
  | cons hstep _ ih => exact .cons hstep (ih hmore)

/-- A run splits before each of its events. -/
theorem ThreadRun.split {first last : Threads ι S α σ} {before after : List (Event ι S)}
    {event : Event ι S} (h : ThreadRun rules first (before ++ event :: after) last) :
    ∃ middle next, ThreadRun rules first before middle ∧ ThreadStep rules middle event next ∧
      ThreadRun rules next after last := by
  induction before generalizing first with
  | nil =>
      cases h with
      | cons hstep hrest => exact ⟨_, _, .nil first, hstep, hrest⟩
  | cons head before ih =>
      cases h with
      | cons hstep hrest =>
          obtain ⟨middle, next, hbefore, hevent, hafter⟩ := ih hrest
          exact ⟨middle, next, .cons hstep hbefore, hevent, hafter⟩

/-! ## A thread that is not interrupted -/

/-- While a call is pending it may change the state any number of times. -/
theorem ThreadRun.works {thread : ι} {op : S.Op} {next : S.Reply op → Program S α}
    {state middle : σ} {running : ι → Option (Program S α)}
    (hcall : running thread = some (.call op next))
    (h : Relation.ReflTransGen (rules.pending thread op) state middle) :
    ∃ events, ThreadRun rules ⟨state, running⟩ events ⟨middle, running⟩ := by
  induction h using Relation.ReflTransGen.head_induction_on with
  | refl => exact ⟨[], .nil _⟩
  | head hpending _ ih =>
      obtain ⟨events, hrest⟩ := ih
      exact ⟨_, .cons (.work hcall hpending) hrest⟩

/-- A thread that runs alone may do what `runUntil` computes, if its calls may do what the
handler responds. -/
theorem ThreadRun.runUntil {handler : Handler S σ} {choose : (op : S.Op) → σ → handler.Choice op}
    {stop : S.Op → Bool} {thread : ι} {invariant : σ → Prop}
    (hrespond : ∀ op state, invariant state →
      invariant (handler.respond op (choose op state) state).2 ∧
      ∃ middle, Relation.ReflTransGen (rules.pending thread op) state middle ∧
        rules.replies thread op middle (handler.respond op (choose op state) state).1
          (handler.respond op (choose op state) state).2)
    {program : Program S α} {state : σ} {running : ι → Option (Program S α)}
    (hstate : invariant state) (hrunning : running thread = some program) :
    ∃ events, ThreadRun rules ⟨state, running⟩ events
      ⟨(handler.runUntil choose stop program state).2,
        Function.update running thread
          (some (handler.runUntil choose stop program state).1)⟩ := by
  have hsame : ∀ {program : Program S α} {running : ι → Option (Program S α)},
      running thread = some program → Function.update running thread (some program) = running :=
    fun h => h ▸ Function.update_eq_self _ _
  induction program generalizing state running with
  | pure value => exact ⟨[], (hsame hrunning).symm ▸ .nil _⟩
  | call op next ih =>
      by_cases hstop : stop op
      · refine ⟨[], ?_⟩
        rw [Handler.runUntil, if_pos hstop, hsame hrunning]
        exact .nil _
      · obtain ⟨hnext, middle, hmiddle, hreply⟩ := hrespond op state hstate
        obtain ⟨events, hrest⟩ := @ih (handler.respond op (choose op state) state).1 _
          (Function.update running thread
            (some (next (handler.respond op (choose op state) state).1))) hnext
          (Function.update_self _ _ _)
        rw [Handler.runUntil, if_neg hstop]
        rw [Function.update_idem] at hrest
        -- Before the reply the handler may have worked on the call.
        obtain ⟨works, hworks⟩ := ThreadRun.works hrunning hmiddle
        exact ⟨_, hworks.append (.cons (.reply hrunning hreply) hrest)⟩
  | outOfFuel => exact ⟨[], (hsame hrunning).symm ▸ .nil _⟩

/-! ## Disciplines -/

/-- What a thread may call in each phase, the phase that a reply puts it in, and the phases in
which it may begin or end. -/
structure Discipline (S : Signature) (φ : Type) where
  permits : S.Op → φ → Prop
  after : (op : S.Op) → S.Reply op → φ → φ
  resting : φ → Prop

namespace Discipline

variable (discipline : Discipline S φ)

/-- The phases as an environment that makes any reply. -/
def environment : Environment S φ :=
  fun op phase reply next => next = discipline.after op reply phase

/-- From the phase on the thread only makes calls that are permitted, whatever the replies. -/
def Follows (program : Program S α) (phase : φ) : Prop :=
  Must discipline.environment discipline.permits program (fun _ => discipline.resting) phase

/-- A thread follows the discipline, or it is at rest. -/
def FollowedBy (running : Option (Program S α)) (phase : φ) : Prop :=
  match running with
  | none => discipline.resting phase
  | some program => discipline.Follows program phase

variable {discipline}

/-- A single call. -/
theorem must_perform {op : S.Op} {post : S.Reply op → φ → Prop} {phase : φ} :
    Must discipline.environment discipline.permits (.perform op) post phase ↔
      discipline.permits op phase ∧ ∀ reply, post reply (discipline.after op reply phase) := by
  refine Effects.must_perform.trans (and_congr_right fun _ => ⟨fun h reply => h reply _ rfl, ?_⟩)
  rintro h reply middle rfl
  exact h reply

end Discipline

/-- What is checked of one thread at a time: the invariant does not depend on which resting
phase a thread is in, and it survives every step of a permitted call. The replies are safe. -/
structure Invariant (rules : Rules ι S α σ) (discipline : Discipline S φ)
    (safe : ι → (op : S.Op) → S.Reply op → Prop) (invariant : (ι → φ) → σ → Prop) : Prop where
  rest : ∀ phases state thread phase, invariant phases state →
    discipline.resting (phases thread) → discipline.resting phase →
    invariant (Function.update phases thread phase) state
  work : ∀ phases state thread op next, invariant phases state →
    discipline.permits op (phases thread) → rules.pending thread op state next →
    invariant phases next
  reply : ∀ phases state thread op reply next, invariant phases state →
    discipline.permits op (phases thread) → rules.replies thread op state reply next →
    safe thread op reply ∧
      invariant (Function.update phases thread (discipline.after op reply (phases thread))) next

/-- The invariant holds, and each thread is in a phase from which it follows the discipline. -/
structure Orderly (discipline : Discipline S φ) (invariant : (ι → φ) → σ → Prop)
    (threads : Threads ι S α σ) (phases : ι → φ) : Prop where
  holds : invariant phases threads.state
  follows : ∀ thread, discipline.FollowedBy (threads.running thread) (phases thread)

/-- The event is a reply of this kind. -/
def Event.Replied (kind : (op : S.Op) → S.Reply op → Prop) : Event ι S → Prop
  | .reply _ op answer => kind op answer
  | _ => False

/-- The reply of an event is safe. -/
def Event.Safe (safe : ι → (op : S.Op) → S.Reply op → Prop) : Event ι S → Prop
  | .reply thread op answer => safe thread op answer
  | _ => True

section Invariant

variable {discipline : Discipline S φ} {safe : ι → (op : S.Op) → S.Reply op → Prop}
variable {invariant : (ι → φ) → σ → Prop}

/-- Only the thread that takes a step changes its phase. -/
theorem followedBy_update {running : ι → Option (Program S α)} {phases : ι → φ} (thread : ι)
    {program : Option (Program S α)} {phase : φ}
    (hfollows : ∀ other, discipline.FollowedBy (running other) (phases other))
    (hthread : discipline.FollowedBy program phase) (other : ι) :
    discipline.FollowedBy (Function.update running thread program other)
      (Function.update phases thread phase other) := by
  by_cases hother : other = thread
  · subst hother
    rw [Function.update_self, Function.update_self]
    exact hthread
  · rw [Function.update_of_ne hother, Function.update_of_ne hother]
    exact hfollows other

/-- One step. -/
theorem Invariant.step (h : Invariant rules discipline safe invariant)
    (hbegins : ∀ thread program, rules.begins thread program →
      ∃ phase, discipline.resting phase ∧ discipline.Follows program phase)
    {threads next : Threads ι S α σ} {event : Event ι S} {phases : ι → φ}
    (horderly : Orderly discipline invariant threads phases)
    (hstep : ThreadStep rules threads event next) :
    event.Safe safe ∧ ∃ phases', Orderly discipline invariant next phases' := by
  obtain ⟨hholds, hfollows⟩ := horderly
  cases hstep with
  | @begin state running thread program hnone hbegin =>
      obtain ⟨phase, hresting, hprogram⟩ := hbegins thread program hbegin
      have hthread := hfollows thread
      simp only [hnone] at hthread
      exact ⟨trivial, _, h.rest _ _ _ _ hholds hthread hresting,
        followedBy_update thread hfollows hprogram⟩
  | @work state running thread op rest middle hcall hpending =>
      have hthread := hfollows thread
      simp only [hcall] at hthread
      exact ⟨trivial, phases, h.work _ _ _ _ _ hholds hthread.1 hpending, hfollows⟩
  | @reply state running thread op rest reply middle hcall hreply =>
      have hthread := hfollows thread
      simp only [hcall] at hthread
      obtain ⟨hsafe, hnext⟩ := h.reply _ _ _ _ _ _ hholds hthread.1 hreply
      exact ⟨hsafe, _, hnext, followedBy_update thread hfollows (hthread.2 reply _ rfl)⟩
  | @finish state running thread value hpure =>
      have hthread := hfollows thread
      simp only [hpure] at hthread
      have hsame : Function.update phases thread (phases thread) = phases :=
        Function.update_eq_self thread phases
      have hended : discipline.FollowedBy (none : Option (Program S α)) (phases thread) := hthread
      refine ⟨trivial, phases, hholds, ?_⟩
      have hnext := followedBy_update thread hfollows hended
      rw [hsame] at hnext
      exact hnext

/-- The rule for runs: the invariant holds after each, and each reply in it is safe. -/
theorem Invariant.run (h : Invariant rules discipline safe invariant)
    (hbegins : ∀ thread program, rules.begins thread program →
      ∃ phase, discipline.resting phase ∧ discipline.Follows program phase)
    {threads last : Threads ι S α σ} {events : List (Event ι S)} {phases : ι → φ}
    (horderly : Orderly discipline invariant threads phases)
    (hrun : ThreadRun rules threads events last) :
    (∀ event ∈ events, event.Safe safe) ∧ ∃ phases', Orderly discipline invariant last phases' := by
  induction hrun generalizing phases with
  | nil => exact ⟨by simp, phases, horderly⟩
  | cons hstep _ ih =>
      obtain ⟨hsafe, phases', hmiddle⟩ := h.step hbegins horderly hstep
      obtain ⟨hrest, hlast⟩ := ih hmiddle
      refine ⟨fun event hevent => ?_, hlast⟩
      rcases List.mem_cons.1 hevent with rfl | hevent
      · exact hsafe
      · exact hrest event hevent

end Invariant

end TwEinvoice.Concurrency
