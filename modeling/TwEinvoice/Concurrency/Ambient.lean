import TwEinvoice.Concurrency.Threads

/-!
# Threads in a world that changes by itself

Between the steps of the threads the world may change the state as it likes. An invariant that
these changes keep as well holds in every state of an open run. A thread that keeps two
disciplines keeps both at once, so what is known of a thread can be tracked in parts.
-/

namespace TwEinvoice.Concurrency

open Effects

variable {S : Signature} {α σ φ ψ ι : Type}

/-! ## Two disciplines at once -/

/-- Keep both disciplines. -/
def Discipline.prod (first : Discipline S φ) (second : Discipline S ψ) :
    Discipline S (φ × ψ) where
  permits op phases := first.permits op phases.1 ∧ second.permits op phases.2
  after op reply phases := (first.after op reply phases.1, second.after op reply phases.2)
  resting phases := first.resting phases.1 ∧ second.resting phases.2

/-- A program that follows two disciplines follows both at once. -/
theorem Discipline.Follows.prod {first : Discipline S φ} {second : Discipline S ψ}
    {program : Program S α} {phase : φ} {other : ψ} (hfirst : first.Follows program phase)
    (hsecond : second.Follows program other) :
    (first.prod second).Follows program (phase, other) := by
  induction program generalizing phase other with
  | pure value => exact ⟨hfirst, hsecond⟩
  | call op next ih =>
      refine ⟨⟨hfirst.1, hsecond.1⟩, fun reply middle hmiddle => ?_⟩
      subst hmiddle
      exact ih reply (hfirst.2 reply _ rfl) (hsecond.2 reply _ rfl)
  | outOfFuel => trivial

/-! ## Open runs -/

variable [DecidableEq ι] {rules : Rules ι S α σ} {ambient : σ → σ → Prop}

/-- Some thread takes a step, or the world changes the state. -/
inductive OpenStep (rules : Rules ι S α σ) (ambient : σ → σ → Prop) :
    Threads ι S α σ → Threads ι S α σ → Prop where
  | thread {threads event next} :
      ThreadStep rules threads event next → OpenStep rules ambient threads next
  | ambient {state running middle} :
      ambient state middle → OpenStep rules ambient ⟨state, running⟩ ⟨middle, running⟩

/-- The threads and the world take steps, in any order. -/
abbrev OpenRun (rules : Rules ι S α σ) (ambient : σ → σ → Prop) :
    Threads ι S α σ → Threads ι S α σ → Prop :=
  Relation.ReflTransGen (OpenStep rules ambient)

/-- A run of the threads alone. -/
theorem ThreadRun.openRun {first last : Threads ι S α σ} {events : List (Event ι S)}
    (h : ThreadRun rules first events last) : OpenRun rules ambient first last := by
  induction h with
  | nil => exact .refl
  | cons hstep _ ih => exact .head (.thread hstep) ih

/-- The world's own steps keep the invariant in all phases of the threads. -/
def KeptBy (ambient : σ → σ → Prop) (invariant : (ι → φ) → σ → Prop) : Prop :=
  ∀ phases state next, invariant phases state → ambient state next → invariant phases next

section Invariant

variable {discipline : Discipline S φ} {safe : ι → (op : S.Op) → S.Reply op → Prop}
variable {invariant : (ι → φ) → σ → Prop}

/-- One step of an open run. -/
theorem Invariant.openStep (h : Invariant rules discipline safe invariant)
    (hkept : KeptBy ambient invariant)
    (hbegins : ∀ thread program, rules.begins thread program →
      ∃ phase, discipline.resting phase ∧ discipline.Follows program phase)
    {threads next : Threads ι S α σ} {phases : ι → φ}
    (horderly : Orderly discipline invariant threads phases)
    (hstep : OpenStep rules ambient threads next) :
    ∃ phases', Orderly discipline invariant next phases' := by
  cases hstep with
  | thread hthread => exact (h.step hbegins horderly hthread).2
  | ambient hambient =>
      exact ⟨phases, hkept _ _ _ horderly.holds hambient, horderly.follows⟩

/-- The rule for open runs. -/
theorem Invariant.openRun (h : Invariant rules discipline safe invariant)
    (hkept : KeptBy ambient invariant)
    (hbegins : ∀ thread program, rules.begins thread program →
      ∃ phase, discipline.resting phase ∧ discipline.Follows program phase)
    {threads last : Threads ι S α σ} {phases : ι → φ}
    (horderly : Orderly discipline invariant threads phases)
    (hrun : OpenRun rules ambient threads last) :
    ∃ phases', Orderly discipline invariant last phases' := by
  induction hrun with
  | refl => exact ⟨phases, horderly⟩
  | tail _ hstep ih =>
      obtain ⟨phases', hmiddle⟩ := ih
      exact h.openStep hkept hbegins hmiddle hstep

end Invariant

end TwEinvoice.Concurrency
