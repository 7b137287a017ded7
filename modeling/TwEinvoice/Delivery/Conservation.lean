import TwEinvoice.Delivery.Refinement
import TwEinvoice.Delivery.Uninterrupted

/-!
# Nothing that is published is lost

However the calls of the receivers interleave with each other, with publications and with
restarts, and whichever of them fail: the run is one of the handover. So an object leaves the
server only once a version of it is in the inbox, where it stays. Where all versions are the same,
nothing is lost.
-/

namespace TwEinvoice.Delivery

open Concurrency Effects Storage Transport

variable {ε ι : Type} [DecidableEq ι] {processOf : ι → UInt32}
variable {threads middle last : Receiving ι ε}

/-- The invariant holds in every state of a run, whatever handover it is counted from. -/
theorem Delivers.orderly (h : Starts threads) (hrun : Delivers processOf threads middle) :
    ∃ phases, Orderly (deliveryDiscipline ε) (Delivering middle.state.handover) middle phases := by
  obtain ⟨phases, hholds, hfollows⟩ := (delivering_invariant processOf _).openRun
    (delivering_ambient _) (system_begins processOf) h.orderly hrun
  exact ⟨phases, { hholds with reached := .refl }, hfollows⟩

/-- From any state that a run of receivers, server and processes reaches, whatever they do next is
a run of the handover. -/
theorem delivers_refines_handover (h : Starts threads)
    (hbefore : Delivers processOf threads middle) (hafter : Delivers processOf middle last) :
    Handover.Run middle.state.handover last.state.handover := by
  obtain ⟨phases, horderly⟩ := Delivers.orderly h hbefore
  obtain ⟨_, hend, _⟩ := (delivering_invariant processOf _).openRun
    (delivering_ambient _) (system_begins processOf) horderly hafter
  exact hend.reached

/-- The race of the sample is a run of the handover. -/
theorem sample_refines_handover :
    sampleRacing.state.server.offered sampleObject.name = some [65] ∧
    sampleReceived.state.server.offered sampleObject.name = none ∧
    Handover.Run sampleRacing.state.handover sampleReceived.state.handover :=
  ⟨sample_race_ends.1, sample_race_ends.2.1,
    delivers_refines_handover sampleStart_starts sample_races sample_receives⟩

/-- In every state of every run each object that was only ever published with one content is still
on the server or is in the inbox with it, unless its name is like one of a temporary file. -/
theorem nothing_lost (h : Starts threads) (hrun : Delivers processOf threads last) {name : String}
    {content : List UInt8} (hlasting : ¬ IsIncomingName name)
    (hname : content ∈ last.state.server.published name)
    (hsame : ∀ other ∈ last.state.server.published name, other = content) :
    last.state.server.offered name = some content ∨
      last.state.inbox.directory.read name = some content := by
  have hrefined := delivers_refines_handover h .refl hrun
  have hfixed : last.state.handover.Fixed name content := by
    rw [Handover.Fixed, handover_published hlasting]
    exact ⟨hname, hsame⟩
  have hconserved := Handover.Run.conserved hrefined h.conserved name content hfixed
  rw [handover_offered hlasting, handover_stored hlasting] at hconserved
  exact hconserved

/-- The object of the race has left the server, and is in the inbox. -/
theorem sample_nothing_lost :
    sampleReceived.state.server.offered sampleObject.name = none ∧
    (sampleReceived.state.server.offered sampleObject.name = some [65] ∨
      sampleReceived.state.inbox.directory.read sampleObject.name = some [65]) :=
  ⟨sample_race_ends.2.1, nothing_lost sampleStart_starts (sample_races.trans sample_receives)
    (fun h => absurd h.head (by decide)) (by decide) (by decide)⟩

/-- From any state of a run on, a lasting name of the inbox keeps its bytes, a new one has bytes
that were published under it, and what leaves the server is in the inbox as it was published. -/
theorem received_forever (h : Starts threads) (hbefore : Delivers processOf threads middle)
    (hafter : Delivers processOf middle last) {name : String} (hlasting : ¬ IsIncomingName name) :
    (∀ content, middle.state.inbox.directory.read name = some content →
      last.state.inbox.directory.read name = some content) ∧
    (∀ content, middle.state.inbox.directory.read name = none →
      last.state.inbox.directory.read name = some content →
      content ∈ last.state.server.published name) ∧
    (middle.state.server.offered name ≠ none → last.state.server.offered name = none →
      ∃ content ∈ last.state.server.published name,
        last.state.inbox.directory.read name = some content) := by
  have hgrows := Handover.Run.grows (delivers_refines_handover h hbefore hafter)
  have hmiddle := @handover_stored _ _ middle.state _ hlasting
  have hlast := @handover_stored _ _ last.state _ hlasting
  have hpublished := @handover_published _ _ last.state _ hlasting
  refine ⟨fun content hread => ?_, fun content hnone hread => ?_, fun hoffered hremoved => ?_⟩
  · exact hlast.symm.trans (hgrows.stored name content (hmiddle.trans hread))
  · rw [← hpublished]
    exact hgrows.fetched name content (hlast.trans hread) (hmiddle.trans hnone)
  · rw [← handover_offered hlasting] at hoffered hremoved
    obtain ⟨content, hcontent, hstored⟩ := hgrows.withdrawn name hoffered hremoved
    rw [hpublished] at hcontent
    exact ⟨content, hcontent, hlast.symm.trans hstored⟩

/-- The race keeps an earlier file, and adds the object. -/
theorem sample_received_forever :
    sampleRacing.state.inbox.directory.read sampleObject.name = none ∧
    sampleReceived.state.inbox.directory.read "SummaryResult.xml" = some [] ∧
    ∃ content ∈ sampleReceived.state.server.published sampleObject.name,
      sampleReceived.state.inbox.directory.read sampleObject.name = some content := by
  have hobject := received_forever sampleStart_starts sample_races sample_receives
    (fun h : IsIncomingName sampleObject.name => absurd h.head (by decide))
  have hother := received_forever sampleStart_starts sample_races sample_receives
    (fun h : IsIncomingName "SummaryResult.xml" => absurd h.head (by decide))
  exact ⟨by decide, hother.1 [] (by decide), hobject.2.2 (by decide) (by decide)⟩

end TwEinvoice.Delivery
