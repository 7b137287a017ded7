import Mathlib.Data.List.Perm.Basic
import Mathlib.Data.List.Nodup
import Mathlib.Order.Lattice

/-!
# Journals of contributions

A journal folds a stream of contributions into three parts that only ever grow: a level, which
is raised to the supremum of the contributed levels; the distinct values observed so far, in
the order of their first observation; and a verdict, which the first contribution that carries
one decides for good. The laws here are the ones a consumer of at-least-once, unordered
delivery relies on: growth (`foldl_absorb_extends`), replay (`foldl_absorb_replay`) and
reordering (`level_perm`, `observed_perm`, `verdict_perm`).
-/

namespace TwEinvoice.EventLog

universe u v w

/-- What one event adds to a journal. -/
structure Contribution (τ : Type u) (α : Type v) (β : Type w) where
  level : τ
  observed : Option α
  verdict : Option β

/-- The accumulated contributions. -/
@[ext] structure Journal (τ : Type u) (α : Type v) (β : Type w) where
  level : τ
  observed : List α
  verdict : Option β

variable {τ : Type u} {α : Type v} {β : Type w} [SemilatticeSup τ] [DecidableEq α]

/-- Append a value unless it was seen before. -/
def observe (seen : List α) : Option α → List α
  | none => seen
  | some value => if value ∈ seen then seen else seen ++ [value]

theorem prefix_observe (seen : List α) (value : Option α) : seen <+: observe seen value := by
  cases value with
  | none => exact List.prefix_rfl
  | some value =>
      simp only [observe]
      split
      · exact List.prefix_rfl
      · exact List.prefix_append _ _

/-- What has been observed: what was, and the value. -/
theorem mem_observe {seen : List α} {value : Option α} {other : α} :
    other ∈ observe seen value ↔ other ∈ seen ∨ value = some other := by
  cases value with
  | none => simp [observe]
  | some value =>
      simp only [observe, Option.some.injEq]
      split
      · rename_i hmem
        exact ⟨Or.inl, fun h => h.elim id (fun heq => heq ▸ hmem)⟩
      · simp [eq_comm]

theorem nodup_observe {seen : List α} (value : Option α) (h : seen.Nodup) :
    (observe seen value).Nodup := by
  cases value with
  | none => exact h
  | some value =>
      simp only [observe]
      split
      · exact h
      · rename_i hmem
        exact h.append (List.nodup_singleton _) (by simpa using hmem)

namespace Journal

/-- The journal after one contribution. -/
def absorb (journal : Journal τ α β) (contribution : Contribution τ α β) : Journal τ α β where
  level := journal.level ⊔ contribution.level
  observed := observe journal.observed contribution.observed
  verdict := journal.verdict.or contribution.verdict

/-- A later journal of the same stream: a higher level, more observations at the end, and the
same verdict once there is one. -/
structure Extends (earlier later : Journal τ α β) : Prop where
  level : earlier.level ≤ later.level
  observed : earlier.observed <+: later.observed
  verdict : ∀ value, earlier.verdict = some value → later.verdict = some value

omit [DecidableEq α] in
theorem Extends.refl (journal : Journal τ α β) : Extends journal journal :=
  ⟨le_rfl, List.prefix_rfl, fun _ h => h⟩

omit [DecidableEq α] in
theorem Extends.trans {first second third : Journal τ α β} (h : Extends first second)
    (hnext : Extends second third) : Extends first third :=
  ⟨h.level.trans hnext.level, h.observed.trans hnext.observed,
    fun value hvalue => hnext.verdict value (h.verdict value hvalue)⟩

/-- A contribution only adds to a journal. -/
theorem absorb_extends (journal : Journal τ α β) (contribution : Contribution τ α β) :
    Extends journal (journal.absorb contribution) :=
  ⟨le_sup_left, prefix_observe _ _, fun value h => by simp [absorb, h]⟩

/-- A journal only grows along a stream. -/
theorem foldl_absorb_extends (journal : Journal τ α β)
    (contributions : List (Contribution τ α β)) :
    Extends journal (contributions.foldl absorb journal) := by
  induction contributions generalizing journal with
  | nil => exact Extends.refl journal
  | cons contribution rest ih =>
      exact (absorb_extends journal contribution).trans (ih _)

/-! ## Replay -/

/-- The journal already accounts for the contribution. -/
structure Covers (journal : Journal τ α β) (contribution : Contribution τ α β) : Prop where
  level : contribution.level ≤ journal.level
  observed : ∀ value, contribution.observed = some value → value ∈ journal.observed
  verdict : contribution.verdict ≠ none → journal.verdict ≠ none

/-- Absorbing a covered contribution changes nothing. -/
theorem Covers.absorb_eq {journal : Journal τ α β} {contribution : Contribution τ α β}
    (h : Covers journal contribution) : journal.absorb contribution = journal := by
  have hobserved : observe journal.observed contribution.observed = journal.observed := by
    cases hvalue : contribution.observed with
    | none => rfl
    | some value => simp [observe, h.observed value hvalue]
  have hverdict : journal.verdict.or contribution.verdict = journal.verdict := by
    cases hnow : journal.verdict with
    | some value => rfl
    | none =>
        have hnone : contribution.verdict = none := by
          by_contra hsome
          exact h.verdict hsome hnow
        rw [hnone, Option.or_none]
  exact Journal.ext (sup_eq_left.mpr h.level) hobserved hverdict

omit [DecidableEq α] in
/-- What is covered stays covered as the journal grows. -/
theorem Covers.extends {earlier later : Journal τ α β} {contribution : Contribution τ α β}
    (h : Covers earlier contribution) (hextends : Extends earlier later) :
    Covers later contribution := by
  refine ⟨h.level.trans hextends.level, ?_, ?_⟩
  · exact fun value hvalue => hextends.observed.subset (h.observed value hvalue)
  · intro hsome
    obtain ⟨value, hvalue⟩ := Option.ne_none_iff_exists'.mp (h.verdict hsome)
    rw [hextends.verdict value hvalue]
    exact Option.some_ne_none value

/-- A contribution that was absorbed is covered. -/
theorem covers_absorb (journal : Journal τ α β) (contribution : Contribution τ α β) :
    Covers (journal.absorb contribution) contribution := by
  refine ⟨le_sup_right, fun value hvalue => mem_observe.mpr (.inr hvalue), ?_⟩
  intro hsome
  simp [absorb, hsome]

/-- Every contribution of a stream is covered at its end. -/
theorem covers_of_mem {journal : Journal τ α β} {contributions : List (Contribution τ α β)}
    {contribution : Contribution τ α β} (h : contribution ∈ contributions) :
    Covers (contributions.foldl absorb journal) contribution := by
  induction contributions generalizing journal with
  | nil => cases h
  | cons head rest ih =>
      rcases List.mem_cons.mp h with rfl | hrest
      · exact (covers_absorb journal contribution).extends (foldl_absorb_extends _ rest)
      · exact ih hrest

/-- Delivering again any contributions of the stream, in any order and any number of times,
leaves the journal as it is. -/
theorem foldl_absorb_replay {journal : Journal τ α β}
    {contributions replayed : List (Contribution τ α β)}
    (h : ∀ contribution ∈ replayed, contribution ∈ contributions) :
    replayed.foldl absorb (contributions.foldl absorb journal) =
      contributions.foldl absorb journal := by
  induction replayed with
  | nil => rfl
  | cons contribution rest ih =>
      rw [List.foldl_cons, (covers_of_mem (h contribution (by simp))).absorb_eq]
      exact ih fun other hother => h other (by simp [hother])

/-! ## Reordering -/

/-- The level is the highest of all. -/
theorem level_foldl (journal : Journal τ α β) (contributions : List (Contribution τ α β)) :
    (contributions.foldl absorb journal).level =
      contributions.foldl (fun level contribution => level ⊔ contribution.level)
        journal.level := by
  induction contributions generalizing journal with
  | nil => rfl
  | cons contribution rest ih => exact ih _

/-- What has been observed after a log: what was before, and what its contributions have. -/
theorem mem_observed_foldl {journal : Journal τ α β}
    {contributions : List (Contribution τ α β)} {value : α} :
    value ∈ (contributions.foldl absorb journal).observed ↔
      value ∈ journal.observed ∨
        ∃ contribution ∈ contributions, contribution.observed = some value := by
  induction contributions generalizing journal with
  | nil => simp
  | cons contribution rest ih =>
      rw [List.foldl_cons, ih]
      simp only [absorb, mem_observe, List.mem_cons, exists_eq_or_imp, or_assoc]

/-- Nothing is observed twice in any log. -/
theorem nodup_observed_foldl {journal : Journal τ α β}
    (contributions : List (Contribution τ α β)) (h : journal.observed.Nodup) :
    (contributions.foldl absorb journal).observed.Nodup := by
  induction contributions generalizing journal with
  | nil => exact h
  | cons contribution rest ih => exact ih (nodup_observe _ h)

/-- The verdict after a log is the first that there was. -/
theorem verdict_foldl (journal : Journal τ α β) (contributions : List (Contribution τ α β)) :
    (contributions.foldl absorb journal).verdict =
      journal.verdict.or (contributions.filterMap Contribution.verdict).head? := by
  induction contributions generalizing journal with
  | nil => simp
  | cons contribution rest ih =>
      rw [List.foldl_cons, ih]
      cases hverdict : contribution.verdict with
      | none => simp [absorb, hverdict]
      | some value => cases hnow : journal.verdict <;> simp [absorb, hverdict, hnow]

variable {journal : Journal τ α β} {contributions permuted : List (Contribution τ α β)}

/-- The level does not depend on the order of the stream. -/
theorem level_perm (h : contributions.Perm permuted) :
    (contributions.foldl absorb journal).level = (permuted.foldl absorb journal).level := by
  rw [level_foldl, level_foldl]
  exact h.foldl_eq' (fun first _ second _ level => sup_right_comm level first.level second.level)
    journal.level

/-- The observations do not depend on the order of the stream, up to their own order. -/
theorem observed_perm (h : contributions.Perm permuted) (hnodup : journal.observed.Nodup) :
    (contributions.foldl absorb journal).observed.Perm
      (permuted.foldl absorb journal).observed := by
  rw [List.perm_ext_iff_of_nodup (nodup_observed_foldl _ hnodup)
    (nodup_observed_foldl _ hnodup)]
  intro value
  simp only [mem_observed_foldl, h.mem_iff]

/-- The verdict does not depend on the order of the stream when all verdicts agree. -/
theorem verdict_perm (h : contributions.Perm permuted)
    (hagree : ∀ first ∈ contributions.filterMap Contribution.verdict,
      ∀ second ∈ contributions.filterMap Contribution.verdict, first = second) :
    (contributions.foldl absorb journal).verdict = (permuted.foldl absorb journal).verdict := by
  rw [verdict_foldl, verdict_foldl]
  congr 1
  have hverdicts := h.filterMap Contribution.verdict
  cases hfirst : contributions.filterMap Contribution.verdict with
  | nil =>
      rw [hfirst, List.nil_perm] at hverdicts
      rw [hverdicts]
  | cons value rest =>
      cases hsecond : permuted.filterMap Contribution.verdict with
      | nil =>
          rw [hfirst, hsecond] at hverdicts
          cases hverdicts.eq_nil
      | cons other others =>
          have hother : other ∈ contributions.filterMap Contribution.verdict :=
            hverdicts.mem_iff.mpr (by simp [hsecond])
          have hvalue : value ∈ contributions.filterMap Contribution.verdict := by simp [hfirst]
          simp [hagree value hvalue other hother]

end Journal

end TwEinvoice.EventLog
