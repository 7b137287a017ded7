import Mathlib.Tactic.SplitIfs
import TwEinvoice.Effects.Evaluation

/-!
# One handler seen through another

A handler on a larger state may answer as another does on a view of it. Then a program runs the
same on both, and what is known of its run on the view holds of its run on the larger state.
-/

namespace TwEinvoice.Effects

variable {S : Signature} {α β ε σ τ : Type} {handler : Handler S σ}
variable {choose : (op : S.Op) → σ → handler.Choice op}

/-! ## Views -/

/-- On every state the two handlers answer alike and have the same view afterwards. -/
def AnswersAs (handler : Handler S σ) (choose : (op : S.Op) → σ → handler.Choice op)
    (viewed : Handler S τ) (chosen : (op : S.Op) → τ → viewed.Choice op) (view : σ → τ) : Prop :=
  ∀ op state, viewed.respond op (chosen op (view state)) (view state) =
    ((handler.respond op (choose op state) state).1,
      view (handler.respond op (choose op state) state).2)

section View

variable {viewed : Handler S τ} {chosen : (op : S.Op) → τ → viewed.Choice op} {view : σ → τ}

/-- A run looks the same through the view. -/
theorem AnswersAs.runUntil (h : AnswersAs handler choose viewed chosen view)
    (stop : S.Op → Bool) (program : Program S α) (state : σ) :
    viewed.runUntil chosen stop program (view state) =
      ((handler.runUntil choose stop program state).1,
        view (handler.runUntil choose stop program state).2) := by
  induction program generalizing state with
  | pure value => rfl
  | call op next ih =>
      unfold Handler.runUntil
      split_ifs
      · rfl
      · rw [h op state]
        exact ih _ _
  | outOfFuel => rfl

/-- What the program returns on the larger state it returns on the view. -/
theorem AnswersAs.returns (h : AnswersAs handler choose viewed chosen view)
    {program : Program S α} {state final : σ} {value : α}
    (hreturns : handler.Returns choose program state value final) :
    viewed.Returns chosen program (view state) value (view final) := by
  unfold Handler.Returns at hreturns ⊢
  rw [h.runUntil, hreturns]

/-- What the program returns on the view it returns on the larger state. -/
theorem AnswersAs.exists_returns (h : AnswersAs handler choose viewed chosen view)
    {program : Program S α} {state : σ} {value : α} {final : τ}
    (hreturns : viewed.Returns chosen program (view state) value final) :
    handler.Returns choose program state value
        (handler.runUntil choose (fun _ => false) program state).2 ∧
      view (handler.runUntil choose (fun _ => false) program state).2 = final := by
  unfold Handler.Returns at hreturns ⊢
  rw [h.runUntil, Prod.mk.injEq] at hreturns
  exact ⟨Prod.ext hreturns.1 rfl, hreturns.2⟩

end View

/-! ## Choices that agree -/

/-- Whatever the replies, the program only makes calls that are allowed. -/
abbrev Only (allowed : S.Op → Prop) (program : Program S α) : Prop :=
  Must (fun _ _ _ _ => True : Environment S Unit) (fun op _ => allowed op) program
    (fun _ _ => True) ()

theorem Only.run_bind {p : ExceptT ε (Program S) α} {f : α → ExceptT ε (Program S) β}
    {allowed : S.Op → Prop} (h : Only allowed p.run) (hnext : ∀ value, Only allowed (f value).run) :
    Only allowed (p >>= f).run := by
  refine must_run_bind.2 (Must.mono h fun result _ _ => ?_)
  cases result with
  | error error => trivial
  | ok value => exact hnext value

/-- In any environment, what every allowed call keeps holds at the end. -/
theorem Only.keeps {env : Environment S σ} {allowed : S.Op → Prop} {invariant : σ → Prop}
    (hkeeps : ∀ op state reply next, allowed op → env op state reply next → invariant state →
      invariant next)
    {program : Program S α} (honly : Only allowed program) {state : σ} (hstate : invariant state) :
    Must env (fun _ _ => True) program (fun _ => invariant) state := by
  induction program generalizing state with
  | pure value => exact hstate
  | call op next ih =>
      exact ⟨trivial, fun reply middle hreply => ih reply (honly.2 reply () trivial)
        (hkeeps op state reply middle honly.1 hreply hstate)⟩
  | outOfFuel => trivial

/-- A fallible program followed by another ends if both end. -/
theorem Halts.run_bind {env : Environment S σ} {p : ExceptT ε (Program S) α}
    {f : α → ExceptT ε (Program S) β} {state : σ} (h : Halts env p.run state)
    (hnext : ∀ value middle, Halts env (f value).run middle) : Halts env (p >>= f).run state := by
  refine halts_run_bind.2 ⟨h, must_of_forall fun result middle => ?_⟩
  cases result with
  | error error => trivial
  | ok value => exact hnext value middle

/-- The run depends on the choices for the calls that the program makes. -/
theorem Handler.Returns.congr {choose' : (op : S.Op) → σ → handler.Choice op}
    {allowed : S.Op → Prop} (hagree : ∀ op state, allowed op → choose op state = choose' op state)
    {program : Program S α} (honly : Only allowed program) {state final : σ} {value : α}
    (h : handler.Returns choose program state value final) :
    handler.Returns choose' program state value final := by
  induction program generalizing state with
  | pure first => exact h
  | call op next ih =>
      have hsame := hagree op state honly.1
      have hnext : handler.Returns choose
          (next (handler.respond op (choose op state) state).1)
          (handler.respond op (choose op state) state).2 value final := h
      have hrest := ih _ (honly.2 _ () trivial) hnext
      rw [hsame] at hrest
      exact hrest
  | outOfFuel => exact h

/-- A call that comes after a first program has returned. -/
theorem Calls.bind {env : Environment S σ} {p : Program S α} {f : α → Program S β} {op : S.Op}
    {state middle final : σ} {value : α} (h : Runs env p state value middle)
    (hcalls : Calls env (f value) middle op final) : Calls env (p >>= f) state op final := by
  induction h with
  | pure value state => exact hcalls
  | call hreply _ ih => exact .later hreply (ih hcalls)

/-- A call of the second program, after a success of the first. -/
theorem Calls.run_bind {env : Environment S σ} {p : ExceptT ε (Program S) α}
    {f : α → ExceptT ε (Program S) β} {op : S.Op} {state middle final : σ} {value : α}
    (h : Runs env p.run state (.ok value) middle)
    (hcalls : Calls env (f value).run middle op final) :
    Calls env (p >>= f).run state op final := by
  rw [ExceptT.run_bind]
  exact Calls.bind h hcalls

/-- A run that stops is about to make a call. -/
theorem Handler.runUntil_calls {env : Environment S σ}
    (hrespond : ∀ op state, env op state (handler.respond op (choose op state) state).1
      (handler.respond op (choose op state) state).2)
    {stop : S.Op → Bool} {program : Program S α} {state : σ} {op : S.Op}
    (h : (handler.runUntil choose stop program state).1.pending = some op) :
    Calls env program state op (handler.runUntil choose stop program state).2 := by
  induction program generalizing state with
  | pure value => cases h
  | call made next ih =>
      unfold Handler.runUntil at h ⊢
      split_ifs at h ⊢
      · cases h
        exact .now
      · exact .later (hrespond made state) (ih _ h)
  | outOfFuel => cases h

/-- A run is one of any environment that may reply as the handler does. -/
theorem Handler.Returns.runs_of {env : Environment S σ}
    (hrespond : ∀ op state, env op state (handler.respond op (choose op state) state).1
      (handler.respond op (choose op state) state).2)
    {program : Program S α} {state final : σ} {value : α}
    (h : handler.Returns choose program state value final) :
    Runs env program state value final := by
  induction program generalizing state with
  | pure first =>
      cases h
      exact .pure _ _
  | call op next ih => exact .call (hrespond op state) (ih _ h)
  | outOfFuel => cases h

/-- What every response to an allowed call keeps holds at the end. -/
theorem Handler.Returns.keeps {allowed : S.Op → Prop} (invariant : σ → Prop)
    (hkeeps : ∀ op state, allowed op → invariant state →
      invariant (handler.respond op (choose op state) state).2)
    {program : Program S α} (honly : Only allowed program) {state final : σ} {value : α}
    (hstate : invariant state) (h : handler.Returns choose program state value final) :
    invariant final := by
  induction program generalizing state with
  | pure first =>
      cases h
      exact hstate
  | call op next ih =>
      exact ih _ (honly.2 _ () trivial) (hkeeps op state honly.1 hstate) h
  | outOfFuel => cases h

/-! ## Runs in sequence -/

section Runs

variable {env : Environment S σ}

theorem Runs.bind {p : Program S α} {f : α → Program S β} {state middle final : σ} {value : α}
    {result : β} (h : Runs env p state value middle)
    (hnext : Runs env (f value) middle result final) :
    Runs env (p >>= f) state result final := by
  induction h with
  | pure value state => exact hnext
  | call hreply _ ih => exact .call hreply (ih hnext)

/-- A fallible program followed by another. -/
theorem Runs.run_bind {p : ExceptT ε (Program S) α} {f : α → ExceptT ε (Program S) β}
    {state middle final : σ} {value : α} {result : Except ε β}
    (h : Runs env p.run state (.ok value) middle)
    (hnext : Runs env (f value).run middle result final) :
    Runs env (p >>= f).run state result final := by
  rw [ExceptT.run_bind]
  exact h.bind hnext

/-- What holds after a run and not before it has become true at one of its calls. -/
theorem Runs.exists_call {p : Program S α} {state final : σ} {value : α}
    (h : Runs env p state value final) (property : σ → Prop) (hbefore : ¬ property state)
    (hafter : property final) :
    ∃ op middle reply next, Calls env p state op middle ∧ env op middle reply next ∧
      ¬ property middle ∧ property next := by
  induction h with
  | pure value state => exact absurd hafter hbefore
  | @call op next state reply middle value final hreply _ ih =>
      by_cases hmiddle : property middle
      · exact ⟨op, state, reply, middle, .now, hreply, hbefore, hmiddle⟩
      · obtain ⟨made, first, answer, second, hcalls, hanswer, hchange⟩ := ih hmiddle hafter
        exact ⟨made, first, answer, second, .later hreply hcalls, hanswer, hchange⟩

/-- A single call. -/
theorem Runs.perform {op : S.Op} {reply : S.Reply op} {state final : σ}
    (h : env op state reply final) : Runs env (.perform op) state reply final :=
  .call h (.pure _ _)

/-- A result that is computed beforehand. -/
theorem runs_checked {δ : Type} {convert : ε → δ} {result : Except ε α} {value : α}
    (h : result = .ok value) (state : σ) :
    Runs env (ExceptT.adapt convert (ExceptT.mk (pure result))).run state (.ok value) state := by
  rw [h]
  exact .pure _ _

end Runs

/-! ## Programs that leave the state alone -/

/-- The state has not changed, and a value that is returned is a good one. -/
def Reads (good : α → Prop) (state : σ) (result : Except ε α) (after : σ) : Prop :=
  after = state ∧ ∀ value, result = .ok value → good value

section Reads

variable {env : Environment S σ} {permits : S.Op → σ → Prop} {good : α → Prop} {state : σ}

/-- What is computed beforehand is returned. -/
theorem reads_checked (result : Except ε α) :
    Must env permits (ExceptT.mk (pure result)).run (Reads (fun value => result = .ok value) state)
      state :=
  ⟨rfl, fun _ => id⟩

/-- Converting the errors changes no state. -/
theorem reads_adapt {δ : Type} {convert : ε → δ} {p : ExceptT ε (Program S) α}
    (h : Must env permits p.run (Reads good state) state) :
    Must env permits (ExceptT.adapt convert p).run (Reads good state) state := by
  refine must_run_adapt.2 (h.mono fun result after hafter => ?_)
  obtain ⟨hsame, hgood⟩ := hafter
  refine ⟨hsame, fun value hvalue => hgood value ?_⟩
  cases result with
  | error error => cases hvalue
  | ok first =>
      cases hvalue
      rfl

/-- A reading program followed by another, which goes on in the same state. -/
theorem Must.run_bind_reads {p : ExceptT ε (Program S) α} {f : α → ExceptT ε (Program S) β}
    {post : Except ε β → σ → Prop} (h : Must env permits p.run (Reads good state) state)
    (herror : ∀ error, post (.error error) state)
    (hnext : ∀ value, good value → Must env permits (f value).run post state) :
    Must env permits (p >>= f).run post state := by
  refine must_run_bind.2 (h.mono fun result after hafter => ?_)
  obtain ⟨rfl, hgood⟩ := hafter
  cases result with
  | error error => exact herror error
  | ok value => exact hnext value (hgood value rfl)

/-- Two reading programs, one after the other. -/
theorem Must.reads_bind {good' : β → Prop} {p : ExceptT ε (Program S) α}
    {f : α → ExceptT ε (Program S) β} (h : Must env permits p.run (Reads good state) state)
    (hnext : ∀ value, good value → Must env permits (f value).run (Reads good' state) state) :
    Must env permits (p >>= f).run (Reads good' state) state :=
  h.run_bind_reads (fun _ => ⟨rfl, nofun⟩) hnext

end Reads

end TwEinvoice.Effects
