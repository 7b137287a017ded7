import TwEinvoice.Effects.Restart

/-!
# Runs with given choices

A handler whose choices are given runs a program in one way. `Returns` says what the run returns
and in which state, and has one rule for each way to build a program.
-/

namespace TwEinvoice.Effects

variable {S : Signature} {α β ε σ : Type} {handler : Handler S σ}
variable {choose : (op : S.Op) → σ → handler.Choice op}

/-- With these choices the program returns the value, in the final state. -/
def Handler.Returns (handler : Handler S σ) (choose : (op : S.Op) → σ → handler.Choice op)
    (program : Program S α) (state : σ) (value : α) (final : σ) : Prop :=
  handler.runUntil choose (fun _ => false) program state = (.pure value, final)

namespace Handler.Returns

theorem pure (value : α) (state : σ) :
    handler.Returns choose (Pure.pure value) state value state := rfl

/-- A single call. -/
theorem perform (op : S.Op) (state : σ) :
    handler.Returns choose (.perform op) state (handler.respond op (choose op state) state).1
      (handler.respond op (choose op state) state).2 := rfl

/-- The rule for sequencing. -/
theorem bind {p : Program S α} {f : α → Program S β} {state middle final : σ} {value : α}
    {result : β} (hfirst : handler.Returns choose p state value middle)
    (hnext : handler.Returns choose (f value) middle result final) :
    handler.Returns choose (p >>= f) state result final := by
  induction p generalizing state with
  | pure first =>
      cases hfirst
      exact hnext
  | call op next ih => exact ih _ hfirst
  | outOfFuel => cases hfirst

/-- A fallible program followed by another. -/
theorem run_bind {p : ExceptT ε (Program S) α} {f : α → ExceptT ε (Program S) β}
    {state middle final : σ} {value : α} {result : Except ε β}
    (hfirst : handler.Returns choose p.run state (.ok value) middle)
    (hnext : handler.Returns choose (f value).run middle result final) :
    handler.Returns choose (p >>= f).run state result final := by
  rw [ExceptT.run_bind]
  exact hfirst.bind hnext

/-- A fallible program that fails is not followed by another. -/
theorem run_bind_error {p : ExceptT ε (Program S) α} {f : α → ExceptT ε (Program S) β}
    {state final : σ} {error : ε}
    (hfirst : handler.Returns choose p.run state (.error error) final) :
    handler.Returns choose (p >>= f).run state (.error error) final := by
  rw [ExceptT.run_bind]
  exact hfirst.bind (.pure _ _)

/-- A fallible program whose errors are converted. -/
theorem run_adapt {δ : Type} {p : ExceptT ε (Program S) α} {convert : ε → δ} {state final : σ}
    {result : Except ε α} (h : handler.Returns choose p.run state result final) :
    handler.Returns choose (ExceptT.adapt convert p).run state (result.mapError convert) final := by
  rw [ExceptT.run_adapt, map_eq_pure_bind]
  exact h.bind (.pure _ _)

/-- There is one result. -/
theorem unique {p : Program S α} {state final other : σ} {value result : α}
    (h : handler.Returns choose p state value final)
    (hother : handler.Returns choose p state result other) : value = result ∧ final = other := by
  have heq := h.symm.trans hother
  rw [Prod.mk.injEq, Program.pure.injEq] at heq
  exact heq

/-- The run is one of those of the environment in which these choices may be made. -/
theorem runs {p : Program S α} {state final : σ} {value : α}
    {assume : (op : S.Op) → handler.Choice op → σ → Prop}
    (hassume : ∀ op state, assume op (choose op state) state)
    (h : handler.Returns choose p state value final) :
    Runs (handler.environment assume) p state value final := by
  induction p generalizing state with
  | pure first =>
      cases h
      exact .pure _ _
  | call op next ih => exact .call ⟨choose op state, hassume op state, rfl⟩ (ih _ h)
  | outOfFuel => cases h

end Handler.Returns

end TwEinvoice.Effects
