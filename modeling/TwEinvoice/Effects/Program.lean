import Mathlib.Logic.Basic

/-!
# Programs that call an environment

A program is a tree of calls, each with one continuation for every reply. The environment is a
relation, so it may be nondeterministic and may keep a state. `Must` says what holds of every
behaviour of a program, `May` what holds of some behaviour, and both are computed by recursion
on the tree. A loop that the source leaves unbounded takes fuel and ends in `outOfFuel`, which
has no behaviour at all.
-/

namespace TwEinvoice.Effects

/-- The operations that a program may call, with the type of each one's reply. -/
structure Signature where
  Op : Type
  Reply : Op → Type

/-- A program that returns an `α`. -/
inductive Program (S : Signature) (α : Type) : Type where
  | pure (value : α)
  | call (op : S.Op) (next : S.Reply op → Program S α)
  | outOfFuel

variable {S : Signature} {α β σ : Type}

namespace Program

/-- Run one program and then another. -/
def bind : Program S α → (α → Program S β) → Program S β
  | .pure value, f => f value
  | .call op next, f => .call op fun reply => (next reply).bind f
  | .outOfFuel, _ => .outOfFuel

instance : Monad (Program S) where
  pure := .pure
  bind := .bind

/-- The right unit of sequencing. -/
theorem bind_pure (p : Program S α) : p.bind .pure = p := by
  induction p with
  | pure value => rfl
  | call op next ih => exact congrArg (Program.call op) (funext ih)
  | outOfFuel => rfl

/-- Sequencing is associative. -/
theorem bind_assoc {γ : Type} (p : Program S α) (f : α → Program S β) (g : β → Program S γ) :
    (p.bind f).bind g = p.bind fun value => (f value).bind g := by
  induction p with
  | pure value => rfl
  | call op next ih => exact congrArg (Program.call op) (funext ih)
  | outOfFuel => rfl

instance : LawfulMonad (Program S) :=
  LawfulMonad.mk' (Program S) bind_pure (fun _ _ => rfl) bind_assoc

/-- Call one operation and return its reply. -/
def perform (op : S.Op) : Program S (S.Reply op) :=
  .call op .pure

end Program

/-! ## Environments -/

/-- The replies that an environment in a given state may make, with the state that it is in
afterwards. -/
abbrev Environment (S : Signature) (σ : Type) :=
  (op : S.Op) → σ → S.Reply op → σ → Prop

/-- An environment that computes its reply from a choice. -/
structure Handler (S : Signature) (σ : Type) where
  Choice : S.Op → Type
  respond : (op : S.Op) → Choice op → σ → S.Reply op × σ

/-- The environment of a handler that makes only choices for which `assume` holds. -/
def Handler.environment (handler : Handler S σ)
    (assume : (op : S.Op) → handler.Choice op → σ → Prop) : Environment S σ :=
  fun op state reply next =>
    ∃ choice, assume op choice state ∧ handler.respond op choice state = (reply, next)

/-- An operation and the reply to it. -/
abbrev Exchange (S : Signature) := (op : S.Op) × S.Reply op

/-- The environment that makes any reply and records the exchange. -/
def recording (S : Signature) : Environment S (List (Exchange S)) :=
  fun op trace reply next => next = trace ++ [⟨op, reply⟩]

/-! ## Behaviours -/

/-- A program started in one state may return a value in another. -/
inductive Runs (env : Environment S σ) : Program S α → σ → α → σ → Prop where
  | pure (value state) : Runs env (.pure value) state value state
  | call {op next state reply middle value final} :
      env op state reply middle → Runs env (next reply) middle value final →
      Runs env (.call op next) state value final

/-- A run that begins with a recorded exchange. -/
theorem Runs.recorded {S : Signature} {op : S.Op} {next : S.Reply op → Program S α}
    (reply : S.Reply op) {trace final : List (Exchange S)} {value : α}
    (h : Runs (recording S) (next reply) (trace ++ [⟨op, reply⟩]) value final) :
    Runs (recording S) (.call op next) trace value final :=
  .call rfl h

/-- A run of a program whose result is then converted. -/
theorem Runs.map {env : Environment S σ} {p : Program S α} {convert : α → β} {state final : σ}
    {value : α} (h : Runs env p state value final) :
    Runs env (convert <$> p) state (convert value) final := by
  rw [map_eq_pure_bind]
  induction h with
  | pure value state => exact .pure (convert value) state
  | call hreply _ ih => exact .call hreply ih

/-- A run of a fallible program whose errors are converted. -/
theorem Runs.adapt {ε δ : Type} {env : Environment S σ} {p : ExceptT ε (Program S) α}
    {convert : ε → δ} {state final : σ} {result : Except ε α}
    (h : Runs env p.run state result final) :
    Runs env (ExceptT.adapt convert p).run state (result.mapError convert) final := by
  rw [ExceptT.run_adapt]
  exact h.map

/-- A program started in one state may come to make a call in another. -/
inductive Calls (env : Environment S σ) : Program S α → σ → S.Op → σ → Prop where
  | now {op next state} : Calls env (.call op next) state op state
  | later {op next state reply middle made final} :
      env op state reply middle → Calls env (next reply) middle made final →
      Calls env (.call op next) state made final

/-- No behaviour of the program runs out of fuel. -/
def Halts (env : Environment S σ) : Program S α → σ → Prop
  | .pure _, _ => True
  | .call op next, state =>
      ∀ reply middle, env op state reply middle → Halts env (next reply) middle
  | .outOfFuel, _ => False

/-- In every behaviour of the program each call is made in a state that permits it, and a value
is returned only in a state where `post` holds. -/
def Must (env : Environment S σ) (permits : S.Op → σ → Prop) :
    Program S α → (α → σ → Prop) → σ → Prop
  | .pure value, post, state => post value state
  | .call op next, post, state =>
      permits op state ∧
        ∀ reply middle, env op state reply middle → Must env permits (next reply) post middle
  | .outOfFuel, _, _ => True

/-- In some behaviour of the program a value is returned in a state where `post` holds. -/
def May (env : Environment S σ) : Program S α → (α → σ → Prop) → σ → Prop
  | .pure value, post, state => post value state
  | .call op next, post, state =>
      ∃ reply middle, env op state reply middle ∧ May env (next reply) post middle
  | .outOfFuel, _, _ => False

/-- A postcondition of a fallible program, given for both kinds of result. -/
def onResult {ε : Type} (ok : α → σ → Prop) (error : ε → σ → Prop) : Except ε α → σ → Prop
  | .ok value => ok value
  | .error failure => error failure

@[simp]
theorem onResult_ok {ε : Type} {ok : α → σ → Prop} {error : ε → σ → Prop} {value : α} {state : σ} :
    onResult ok error (.ok value) state ↔ ok value state := Iff.rfl

@[simp]
theorem onResult_error {ε : Type} {ok : α → σ → Prop} {error : ε → σ → Prop} {failure : ε}
    {state : σ} : onResult ok error (.error failure) state ↔ error failure state := Iff.rfl

section Must

variable {env : Environment S σ} {permits : S.Op → σ → Prop}

@[simp]
theorem must_pure {value : α} {post : α → σ → Prop} {state : σ} :
    Must env permits (pure value) post state ↔ post value state := Iff.rfl

/-- A run that does not return has nothing to show. -/
@[simp]
theorem must_outOfFuel {post : α → σ → Prop} {state : σ} :
    Must env permits .outOfFuel post state := trivial

/-- A single call. -/
@[simp]
theorem must_perform {op : S.Op} {post : S.Reply op → σ → Prop} {state : σ} :
    Must env permits (.perform op) post state ↔
      permits op state ∧ ∀ reply middle, env op state reply middle → post reply middle := Iff.rfl

/-- The rule for sequencing. -/
@[simp]
theorem must_bind {p : Program S α} {f : α → Program S β} {post : β → σ → Prop} {state : σ} :
    Must env permits (p >>= f) post state ↔
      Must env permits p (fun value middle => Must env permits (f value) post middle) state := by
  induction p generalizing state with
  | pure value => exact Iff.rfl
  | call op next ih =>
      show (_ ∧ ∀ _ _, _ → _) ↔ (_ ∧ ∀ _ _, _ → _)
      exact and_congr_right fun _ => forall₃_congr fun reply middle _ => ih reply
  | outOfFuel => exact Iff.rfl

/-- The rule of consequence. -/
theorem Must.mono {p : Program S α} {post post' : α → σ → Prop} {state : σ}
    (h : Must env permits p post state)
    (hpost : ∀ value final, post value final → post' value final) :
    Must env permits p post' state := by
  induction p generalizing state with
  | pure value => exact hpost value state h
  | call op next ih =>
      exact ⟨h.1, fun reply middle hreply => ih reply (h.2 reply middle hreply)⟩
  | outOfFuel => trivial

/-- A postcondition that always holds. -/
theorem must_of_forall {p : Program S α} {post : α → σ → Prop} {state : σ}
    (hpost : ∀ value final, post value final) : Must env (fun _ _ => True) p post state := by
  induction p generalizing state with
  | pure value => exact hpost value state
  | call op next ih => exact ⟨trivial, fun reply middle _ => ih reply⟩
  | outOfFuel => trivial

/-- A weaker condition on the calls. -/
theorem Must.permits_mono {permits' : S.Op → σ → Prop} {p : Program S α} {post : α → σ → Prop}
    {state : σ} (h : Must env permits p post state)
    (hpermits : ∀ op state, permits op state → permits' op state) :
    Must env permits' p post state := by
  induction p generalizing state with
  | pure value => exact h
  | call op next ih =>
      exact ⟨hpermits op state h.1, fun reply middle hreply => ih reply (h.2 reply middle hreply)⟩
  | outOfFuel => trivial

/-- What must hold of the calls holds of each call. -/
theorem Must.calls {p : Program S α} {post : α → σ → Prop} {state final : σ} {op : S.Op}
    (h : Must env permits p post state) (hcall : Calls env p state op final) :
    permits op final := by
  induction hcall with
  | now => exact h.1
  | later hreply _ ih => exact ih (h.2 _ _ hreply)

/-- What must hold holds of each run. -/
theorem Must.runs {p : Program S α} {post : α → σ → Prop} {state final : σ} {value : α}
    (h : Must env permits p post state) (hrun : Runs env p state value final) :
    post value final := by
  induction hrun with
  | pure value state => exact h
  | call hreply _ ih => exact ih (h.2 _ _ hreply)

/-- A call to a handler. -/
theorem must_perform_handler {handler : Handler S σ}
    {assume : (op : S.Op) → handler.Choice op → σ → Prop} {op : S.Op}
    {post : S.Reply op → σ → Prop} {state : σ} :
    Must (handler.environment assume) permits (.perform op) post state ↔
      permits op state ∧ ∀ choice, assume op choice state →
        post (handler.respond op choice state).1 (handler.respond op choice state).2 := by
  refine must_perform.trans (and_congr_right fun _ => ⟨fun h choice hassume => ?_, ?_⟩)
  · exact h _ _ ⟨choice, hassume, rfl⟩
  · rintro h reply middle ⟨choice, hassume, hrespond⟩
    have hpost := h choice hassume
    rw [hrespond] at hpost
    exact hpost

/-- A call that is recorded. -/
theorem must_perform_recording {S : Signature} {permits : S.Op → List (Exchange S) → Prop}
    {op : S.Op} {post : S.Reply op → List (Exchange S) → Prop} {trace : List (Exchange S)} :
    Must (recording S) permits (.perform op) post trace ↔
      permits op trace ∧ ∀ reply, post reply (trace ++ [⟨op, reply⟩]) := by
  refine must_perform.trans (and_congr_right fun _ => ⟨fun h reply => h reply _ rfl, ?_⟩)
  rintro h reply middle rfl
  exact h reply

/-- A program followed by another. -/
theorem Must.bind {p : Program S α} {f : α → Program S β} {middle : α → σ → Prop}
    {post : β → σ → Prop} {state : σ} (h : Must env permits p middle state)
    (hnext : ∀ value final, middle value final → Must env permits (f value) post final) :
    Must env permits (p >>= f) post state :=
  must_bind.2 (h.mono hnext)

/-- A fallible program followed by another, which runs only if the first has not failed. -/
theorem must_run_bind {ε : Type} {p : ExceptT ε (Program S) α}
    {f : α → ExceptT ε (Program S) β} {post : Except ε β → σ → Prop} {state : σ} :
    Must env permits (p >>= f).run post state ↔
      Must env permits p.run
        (onResult (fun value => Must env permits (f value).run post)
          (fun error => post (.error error))) state := by
  rw [ExceptT.run_bind, must_bind]
  refine ⟨fun h => h.mono ?_, fun h => h.mono ?_⟩ <;>
  · intro result middle hresult
    cases result <;> exact hresult

/-- A fallible program whose errors are converted. -/
theorem must_run_adapt {ε δ : Type} {p : ExceptT ε (Program S) α} {convert : ε → δ}
    {post : Except δ α → σ → Prop} {state : σ} :
    Must env permits (ExceptT.adapt convert p).run post state ↔
      Must env permits p.run (fun result => post (result.mapError convert)) state := by
  rw [ExceptT.run_adapt, map_eq_pure_bind, must_bind]
  exact Iff.rfl

/-- A program that cannot fail, among fallible ones. -/
theorem must_run_lift {ε : Type} {p : Program S α} {post : Except ε α → σ → Prop} {state : σ} :
    Must env permits (ExceptT.lift p).run post state ↔
      Must env permits p (fun value => post (.ok value)) state := by
  rw [ExceptT.run_lift, map_eq_pure_bind, must_bind]
  exact Iff.rfl

end Must

section Halts

variable {env : Environment S σ}

@[simp]
theorem halts_pure {value : α} {state : σ} :
    Halts env (pure value : Program S α) state := trivial

@[simp]
theorem halts_perform {op : S.Op} {state : σ} : Halts env (.perform op) state :=
  fun _ _ _ => trivial

/-- The rule for sequencing. -/
theorem halts_bind {p : Program S α} {f : α → Program S β} {state : σ} :
    Halts env (p >>= f) state ↔
      Halts env p state ∧
        Must env (fun _ _ => True) p (fun value middle => Halts env (f value) middle) state := by
  induction p generalizing state with
  | pure value => exact ⟨fun h => ⟨trivial, h⟩, And.right⟩
  | call op next ih =>
      show (∀ _ _, _ → _) ↔ (∀ _ _, _ → _) ∧ _ ∧ ∀ _ _, _ → _
      refine ⟨fun h => ⟨fun reply middle hreply => ((ih reply).1 (h reply middle hreply)).1,
        trivial, fun reply middle hreply => ((ih reply).1 (h reply middle hreply)).2⟩, ?_⟩
      rintro ⟨hfirst, _, hnext⟩ reply middle hreply
      exact (ih reply).2 ⟨hfirst reply middle hreply, hnext reply middle hreply⟩
  | outOfFuel => exact ⟨False.elim, And.left⟩

/-- A fallible program followed by another, which runs only if the first has not failed. -/
theorem halts_run_bind {ε : Type} {p : ExceptT ε (Program S) α}
    {f : α → ExceptT ε (Program S) β} {state : σ} :
    Halts env (p >>= f).run state ↔
      Halts env p.run state ∧
        Must env (fun _ _ => True) p.run
          (onResult (fun value => Halts env (f value).run) (fun _ _ => True)) state := by
  rw [ExceptT.run_bind, halts_bind]
  refine and_congr_right fun _ => ⟨fun h => h.mono ?_, fun h => h.mono ?_⟩ <;>
  · intro result middle hresult
    cases result
    · trivial
    · exact hresult

/-- A fallible program whose errors are converted. -/
theorem halts_run_adapt {ε δ : Type} {p : ExceptT ε (Program S) α} {convert : ε → δ} {state : σ} :
    Halts env (ExceptT.adapt convert p).run state ↔ Halts env p.run state := by
  rw [ExceptT.run_adapt, map_eq_pure_bind, halts_bind]
  exact and_iff_left_of_imp fun _ => must_of_forall fun _ _ => trivial

/-- A program that cannot fail, among fallible ones. -/
theorem halts_run_lift {ε : Type} {p : Program S α} {state : σ} :
    Halts env (ExceptT.lift p : ExceptT ε (Program S) α).run state ↔ Halts env p state := by
  rw [ExceptT.run_lift, map_eq_pure_bind, halts_bind]
  exact and_iff_left_of_imp fun _ => must_of_forall fun _ _ => trivial

end Halts

section May

variable {env : Environment S σ}

@[simp]
theorem may_pure {value : α} {post : α → σ → Prop} {state : σ} :
    May env (pure value) post state ↔ post value state := Iff.rfl

/-- A single call. -/
@[simp]
theorem may_perform {op : S.Op} {post : S.Reply op → σ → Prop} {state : σ} :
    May env (.perform op) post state ↔
      ∃ reply middle, env op state reply middle ∧ post reply middle := Iff.rfl

/-- The rule for sequencing. -/
@[simp]
theorem may_bind {p : Program S α} {f : α → Program S β} {post : β → σ → Prop} {state : σ} :
    May env (p >>= f) post state ↔
      May env p (fun value middle => May env (f value) post middle) state := by
  induction p generalizing state with
  | pure value => exact Iff.rfl
  | call op next ih =>
      show (∃ _ _, _ ∧ _) ↔ (∃ _ _, _ ∧ _)
      exact exists₂_congr fun reply middle => and_congr_right fun _ => ih reply
  | outOfFuel => exact Iff.rfl

/-- The rule of consequence. -/
theorem May.mono {p : Program S α} {post post' : α → σ → Prop} {state : σ}
    (h : May env p post state) (hpost : ∀ value final, post value final → post' value final) :
    May env p post' state := by
  induction p generalizing state with
  | pure value => exact hpost value state h
  | call op next ih =>
      obtain ⟨reply, middle, hreply, hnext⟩ := h
      exact ⟨reply, middle, hreply, ih reply hnext⟩
  | outOfFuel => exact h

/-- A call to a handler. -/
theorem may_perform_handler {handler : Handler S σ}
    {assume : (op : S.Op) → handler.Choice op → σ → Prop} {op : S.Op}
    {post : S.Reply op → σ → Prop} {state : σ} (choice : handler.Choice op)
    (hassume : assume op choice state)
    (hpost : post (handler.respond op choice state).1 (handler.respond op choice state).2) :
    May (handler.environment assume) (.perform op) post state :=
  may_perform.2 ⟨_, _, ⟨choice, hassume, rfl⟩, hpost⟩

/-- A fallible program followed by another, which runs only if the first has not failed. -/
theorem may_run_bind {ε : Type} {p : ExceptT ε (Program S) α}
    {f : α → ExceptT ε (Program S) β} {post : Except ε β → σ → Prop} {state : σ} :
    May env (p >>= f).run post state ↔
      May env p.run
        (onResult (fun value => May env (f value).run post)
          (fun error => post (.error error))) state := by
  rw [ExceptT.run_bind, may_bind]
  refine ⟨fun h => h.mono ?_, fun h => h.mono ?_⟩ <;>
  · intro result middle hresult
    cases result <;> exact hresult

/-- A fallible program whose errors are converted. -/
theorem may_run_adapt {ε δ : Type} {p : ExceptT ε (Program S) α} {convert : ε → δ}
    {post : Except δ α → σ → Prop} {state : σ} :
    May env (ExceptT.adapt convert p).run post state ↔
      May env p.run (fun result => post (result.mapError convert)) state := by
  rw [ExceptT.run_adapt, map_eq_pure_bind, may_bind]
  exact Iff.rfl

/-- What may hold holds of a run. -/
theorem May.exists_runs {p : Program S α} {post : α → σ → Prop} {state : σ}
    (h : May env p post state) :
    ∃ value final, Runs env p state value final ∧ post value final := by
  induction p generalizing state with
  | pure value => exact ⟨value, state, .pure value state, h⟩
  | call op next ih =>
      obtain ⟨reply, middle, hreply, hnext⟩ := h
      obtain ⟨value, final, hrun, hpost⟩ := ih reply hnext
      exact ⟨value, final, .call hreply hrun, hpost⟩
  | outOfFuel => exact h.elim

end May

end TwEinvoice.Effects
