import Mathlib.Logic.Function.Basic
import Mathlib.Logic.Relation

/-!
# Handing items over

A source publishes items under names. It may publish a name again, and then offers the new content
until the name is withdrawn. A store takes items over: a name may be stored once, with a content
that was published under it, and withdrawn only when it is stored. Whatever the order of the steps,
what is stored stays, and a name that was only ever published with one content is still offered or
is stored with it.
-/

namespace TwEinvoice.Delivery

variable {N C : Type} [DecidableEq N]

/-- Every content that the source has published under a name, the one that it still offers, and the
one that is stored. -/
structure Handover (N C : Type) where
  published : N → List C
  offered : N → Option C
  stored : N → Option C

namespace Handover

/-- An item is published, perhaps under a name that was published before. -/
def publish (state : Handover N C) (name : N) (content : C) : Handover N C :=
  { state with
    published := Function.update state.published name (state.published name ++ [content])
    offered := Function.update state.offered name (some content) }

/-- An item is taken over. -/
def store (state : Handover N C) (name : N) (content : C) : Handover N C :=
  { state with stored := Function.update state.stored name (some content) }

/-- A name is no longer offered. -/
def withdraw (state : Handover N C) (name : N) : Handover N C :=
  { state with offered := Function.update state.offered name none }

/-- One step of the handover. -/
inductive Step : Handover N C → Handover N C → Prop where
  | publish {state} (name : N) (content : C) : Step state (state.publish name content)
  | store {state name content} :
      content ∈ state.published name → state.stored name = none →
      Step state (state.store name content)
  | withdraw {state name content} :
      content ∈ state.published name → state.stored name = some content →
      Step state (state.withdraw name)

/-- Any number of steps. -/
abbrev Run : Handover N C → Handover N C → Prop :=
  Relation.ReflTransGen Step

/-- The name was published with this content and with no other. -/
def Fixed (state : Handover N C) (name : N) (content : C) : Prop :=
  content ∈ state.published name ∧ ∀ other ∈ state.published name, other = content

/-- Nothing that was published with one content is lost. -/
def Conserved (state : Handover N C) : Prop :=
  ∀ name content, state.Fixed name content →
    state.offered name = some content ∨ state.stored name = some content

/-- What has happened since: publications and stored items stay as they are, only published items
are stored, and only stored names are withdrawn. -/
structure Grows (first last : Handover N C) : Prop where
  published : ∀ name, first.published name <+: last.published name
  stored : ∀ name content, first.stored name = some content → last.stored name = some content
  fetched : ∀ name content, last.stored name = some content → first.stored name = none →
    content ∈ last.published name
  withdrawn : ∀ name, first.offered name ≠ none → last.offered name = none →
    ∃ content ∈ last.published name, last.stored name = some content

omit [DecidableEq N] in
theorem Grows.refl (state : Handover N C) : Grows state state := by
  refine ⟨fun _ => List.prefix_rfl, fun _ _ h => h, fun name content h hnone => ?_,
    fun name h hnone => absurd hnone h⟩
  rw [hnone] at h
  cases h

omit [DecidableEq N] in
theorem Grows.trans {first middle last : Handover N C} (h : Grows first middle)
    (hlater : Grows middle last) : Grows first last := by
  refine ⟨fun name => (h.published name).trans (hlater.published name),
    fun name content hname => hlater.stored name content (h.stored name content hname),
    fun name content hlast hfirst => ?_, fun name hfirst hlast => ?_⟩
  · cases hmiddle : middle.stored name with
    | none => exact hlater.fetched name content hlast hmiddle
    | some earlier =>
        have hpublished := (hlater.published name).subset (h.fetched name earlier hmiddle hfirst)
        have hstored := hlater.stored name earlier hmiddle
        rw [hstored] at hlast
        cases hlast
        exact hpublished
  · by_cases hmiddle : middle.offered name = none
    · obtain ⟨content, hpublished, hstored⟩ := h.withdrawn name hfirst hmiddle
      exact ⟨content, (hlater.published name).subset hpublished,
        hlater.stored name content hstored⟩
    · exact hlater.withdrawn name hmiddle hlast

/-- A free entry of a table is filled, and the others stay. -/
theorem update_eq_some {table : N → Option C} {name other : N} {value found : C}
    (hfree : table name = none) (h : table other = some found) :
    Function.update table name (some value) other = some found := by
  have hne : other ≠ name := by
    intro heq
    rw [heq, hfree] at h
    cases h
  rw [Function.update_of_ne hne]
  exact h

/-- A publication adds to what was published. -/
theorem published_publish (state : Handover N C) (name other : N) (content : C) :
    state.published other <+: (state.publish name content).published other := by
  by_cases hother : other = name
  · show _ <+: Function.update state.published name _ other
    rw [hother, Function.update_self]
    exact List.prefix_append _ _
  · have hsame : (state.publish name content).published other = state.published other :=
      Function.update_of_ne hother _ _
    exact hsame ▸ List.prefix_rfl

/-- A publication leaves nothing that is not offered. -/
theorem offered_publish {state : Handover N C} {name other : N} {content : C}
    (h : (state.publish name content).offered other = none) : state.offered other = none := by
  have hnone : Function.update state.offered name (some content) other = none := h
  by_cases hother : other = name
  · rw [hother, Function.update_self] at hnone
    cases hnone
  · rw [Function.update_of_ne hother] at hnone
    exact hnone

/-- One step only adds to the history. -/
theorem Step.grows {state next : Handover N C} (h : Step state next) : Grows state next := by
  have hunchanged := Grows.refl state
  cases h with
  | publish name content =>
      refine ⟨fun other => published_publish state name other content, hunchanged.stored, ?_, ?_⟩
      · intro other found hfound hnone
        cases hnone.symm.trans hfound
      · intro other hoffered hnone
        exact absurd (offered_publish hnone) hoffered
  | @store name content hpublished hfree =>
      refine ⟨hunchanged.published, fun other found => update_eq_some hfree, ?_,
        fun other hoffered hnone => absurd hnone hoffered⟩
      intro other found (hfound : Function.update _ _ _ _ = _) hnone
      by_cases hother : other = name
      · rw [hother, Function.update_self, Option.some.injEq] at hfound
        rw [hother, ← hfound]
        exact hpublished
      · rw [Function.update_of_ne hother, hnone] at hfound
        cases hfound
  | @withdraw name content hpublished hstored =>
      refine ⟨hunchanged.published, hunchanged.stored, hunchanged.fetched, ?_⟩
      intro other hoffered (hnone : Function.update _ _ _ _ = _)
      by_cases hother : other = name
      · rw [hother]
        exact ⟨content, hpublished, hstored⟩
      · rw [Function.update_of_ne hother] at hnone
        exact absurd hnone hoffered

/-- Over a whole run. -/
theorem Run.grows {first last : Handover N C} (h : Run first last) : Grows first last := by
  induction h with
  | refl => exact .refl _
  | tail _ hstep ih => exact ih.trans hstep.grows

/-- One step loses nothing. -/
theorem Step.conserved {state next : Handover N C} (h : Step state next)
    (hconserved : state.Conserved) : next.Conserved := by
  intro other found hfixed
  cases h with
  | publish name content =>
      obtain ⟨hfound, hsame⟩ := hfixed
      by_cases hother : other = name
      · -- The new content is the one that the name has always had.
        subst hother
        have hcontent : content = found := by
          refine hsame content ?_
          show content ∈ Function.update state.published other _ other
          rw [Function.update_self]
          exact List.mem_append_right _ List.mem_cons_self
        exact .inl ((Function.update_self other _ _).trans (congrArg some hcontent))
      · have hpublished : (state.publish name content).published other = state.published other :=
          Function.update_of_ne hother _ _
        rw [hpublished] at hfound hsame
        exact (hconserved other found ⟨hfound, hsame⟩).imp_left
          (Function.update_of_ne hother _ _).trans
  | store hpublished hfree =>
      exact (hconserved other found hfixed).imp_right (update_eq_some hfree)
  | @withdraw name content hpublished hstored =>
      by_cases hother : other = name
      · -- The item that is withdrawn is stored as it was published.
        subst hother
        have hcontent : content = found := hfixed.2 content hpublished
        exact .inr (hstored.trans (congrArg some hcontent))
      · exact (hconserved other found hfixed).imp_left (Function.update_of_ne hother _ _).trans

/-- Nothing is lost in any run. -/
theorem Run.conserved {first last : Handover N C} (h : Run first last)
    (hconserved : first.Conserved) : last.Conserved := by
  induction h with
  | refl => exact hconserved
  | tail _ hstep ih => exact hstep.conserved ih

end Handover

end TwEinvoice.Delivery
