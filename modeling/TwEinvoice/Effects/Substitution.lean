import TwEinvoice.Effects.Views

/-!
# Programs whose calls are programs

Each call of a program is carried out by a program over another signature. If the states of the
two are related, and each permitted call is carried out so that its reply is one that the abstract
environment may make, then what must hold of the abstract program holds of the whole.
-/

namespace TwEinvoice.Effects

variable {S T : Signature} {α β ε σ τ : Type}

/-- Carry out each call by a program. -/
def Program.substitute (implement : (op : S.Op) → Program T (S.Reply op)) :
    Program S α → Program T α
  | .pure value => .pure value
  | .call op next => (implement op).bind fun reply => (next reply).substitute implement
  | .outOfFuel => .outOfFuel

/-! ## Laws -/

section Laws

variable {R : Signature} {inner : (op : R.Op) → Program S (R.Reply op)}
variable {outer : (op : S.Op) → Program T (S.Reply op)}

/-- Calls are replaced in both parts of a sequence. -/
theorem substitute_bind (program : Program S α) (f : α → Program S β) :
    (program.bind f).substitute outer =
      (program.substitute outer).bind fun value => (f value).substitute outer := by
  induction program with
  | pure value => rfl
  | call op next ih =>
      show (outer op).bind _ = ((outer op).bind _).bind _
      rw [Program.bind_assoc]
      exact congrArg (outer op).bind (funext ih)
  | outOfFuel => rfl

/-- Programs for the calls of programs for the calls. -/
theorem substitute_substitute (program : Program R α) :
    (program.substitute inner).substitute outer =
      program.substitute fun op => (inner op).substitute outer := by
  induction program with
  | pure value => rfl
  | call op next ih =>
      show ((inner op).bind _).substitute outer = _
      rw [substitute_bind]
      exact congrArg ((inner op).substitute outer).bind (funext ih)
  | outOfFuel => rfl

end Laws

variable {env : Environment S σ} {permits : S.Op → σ → Prop}
variable {env' : Environment T τ} {permits' : T.Op → τ → Prop}
variable {implement : (op : S.Op) → Program T (S.Reply op)} {related : σ → τ → Prop}

/-- The programs carry out the permitted calls as the abstract environment may. -/
def CarriesOut (env : Environment S σ) (permits : S.Op → σ → Prop) (env' : Environment T τ)
    (permits' : T.Op → τ → Prop) (implement : (op : S.Op) → Program T (S.Reply op))
    (related : σ → τ → Prop) : Prop :=
  ∀ op state actual, related state actual → permits op state →
    Must env' permits' (implement op)
      (fun reply after => ∃ next, env op state reply next ∧ related next after) actual

/-- What must hold of the abstract program holds of the one that is carried out. -/
theorem CarriesOut.must (h : CarriesOut env permits env' permits' implement related)
    {program : Program S α} {post : α → σ → Prop} {state : σ} {actual : τ}
    (hmust : Must env permits program post state) (hrelated : related state actual) :
    Must env' permits' (program.substitute implement)
      (fun value after => ∃ final, post value final ∧ related final after) actual := by
  induction program generalizing state actual with
  | pure value => exact ⟨state, hmust, hrelated⟩
  | call op next ih =>
      refine must_bind.2 ((h op state actual hrelated hmust.1).mono ?_)
      rintro reply after ⟨middle, hreply, hmiddle⟩
      exact ih reply (hmust.2 reply middle hreply) hmiddle
  | outOfFuel => trivial

/-- If each reply that the abstract environment makes may come from the program that carries out
the call, then each run of the abstract program may be one of the whole. -/
theorem Runs.substitute {embed : σ → τ}
    (h : ∀ op state reply next, env op state reply next →
      Runs env' (implement op) (embed state) reply (embed next))
    {program : Program S α} {state final : σ} {value : α}
    (hrun : Runs env program state value final) :
    Runs env' (program.substitute implement) (embed state) value (embed final) := by
  induction hrun with
  | pure value state => exact .pure value (embed state)
  | call hreply _ ih => exact (h _ _ _ _ hreply).bind ih

/-- What must hold of the results for two reasons. -/
theorem Must.and {other : S.Op → σ → Prop} {program : Program S α} {post post' : α → σ → Prop}
    {state : σ} (h : Must env permits program post state)
    (h' : Must env other program post' state) :
    Must env permits program (fun value final => post value final ∧ post' value final) state := by
  induction program generalizing state with
  | pure value => exact ⟨h, h'⟩
  | call op next ih =>
      exact ⟨h.1, fun reply middle hreply => ih reply (h.2 reply middle hreply)
        (h'.2 reply middle hreply)⟩
  | outOfFuel => trivial

/-- What must hold in an environment holds beside what holds whatever the replies. -/
theorem Must.only {allowed : S.Op → Prop} {program : Program S α} {post : α → σ → Prop} {state : σ}
    (h : Must env permits program post state) (honly : Only allowed program) :
    Must env (fun op state => permits op state ∧ allowed op) program post state := by
  induction program generalizing state with
  | pure value => exact h
  | call op next ih =>
      exact ⟨⟨h.1, honly.1⟩, fun reply middle hreply =>
        ih reply (h.2 reply middle hreply) (honly.2 reply () trivial)⟩
  | outOfFuel => trivial

/-- Any reply may be recorded. -/
theorem Must.only_of_recording {permits : S.Op → List (Exchange S) → Prop} {allowed : S.Op → Prop}
    {program : Program S α} {post : α → List (Exchange S) → Prop} {trace : List (Exchange S)}
    (h : Must (recording S) permits program post trace)
    (hallowed : ∀ op trace, permits op trace → allowed op) : Only allowed program := by
  induction program generalizing trace with
  | pure value => trivial
  | call op next ih =>
      exact ⟨hallowed op trace h.1, fun reply _ _ => ih reply (h.2 reply _ rfl)⟩
  | outOfFuel => trivial

end TwEinvoice.Effects
