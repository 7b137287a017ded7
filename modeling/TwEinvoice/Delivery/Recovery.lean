import TwEinvoice.Delivery.Conservation
import TwEinvoice.Delivery.QuietRuns

/-!
# Every object can still be received

Whatever has happened, one receiver that is at rest can receive any object that is on the server
with a valid name and is not empty, unless the inbox has other bytes under the name: it calls
`receive`, nothing disturbs it, and the object is in the inbox and gone from the server.
-/

namespace TwEinvoice.Delivery

open Concurrency Effects Storage Transport

variable {ε ι : Type} [DecidableEq ι] {processOf : ι → UInt32} {receiver : ι}

/-- The world that the receiver sees is the one that it has left. -/
theorem view_absorb (shared : SharedInbox ι ε) {world : World ε}
    (h : world.processId = processOf receiver) :
    (shared.absorb processOf receiver world).view processOf receiver = world := by
  obtain ⟨directory, processId, nextTempId, remote⟩ := world
  simp only [SharedInbox.view, SharedInbox.absorb, Function.update_self, World.mk.injEq, true_and,
    and_true]
  exact h.symm

variable [Inhabited ε]

/-- The receiver cannot tell the system from its world with the server. -/
theorem answersAs_served :
    AnswersAs (System.handler processOf receiver) (fun op system => serving op system.server)
      (Served.handler ε) (fun op served => serving op served.2)
      fun system : System ι ε => (system.inbox.view processOf receiver, system.server) := by
  intro op system
  have hview : (system.inbox.absorb processOf receiver (World.respond op
      (serving op system.server) (system.inbox.view processOf receiver)).2).view processOf
        receiver =
      (World.respond op (serving op system.server) (system.inbox.view processOf receiver)).2 :=
    view_absorb _ processId_respond
  exact Prod.ext rfl (Prod.ext hview.symm rfl)

/-- The receiver does what `receive` returns in its world. -/
theorem delivers_of_serves {running : ι → Option (Program (inboxSignature ε)
      (Except (ReceiveError ε) ReceiveOutcome))} {system : System ι ε} {fuel : Nat}
    {object : RemoteObject} {result : Except (ReceiveError ε) ReceiveOutcome} {final : Served ε}
    (hidle : running receiver = none) (hsettled : Settled receiver system)
    (h : Serves (receive fuel object).run (system.inbox.view processOf receiver, system.server)
      result final) :
    ∃ last : System ι ε,
      Delivers processOf ⟨system, running⟩
        ⟨last, Function.update running receiver (some (.pure result))⟩ ∧
      (last.inbox.view processOf receiver, last.server) = final := by
  obtain ⟨hreturns, hfinal⟩ :=
    (@answersAs_served ε ι _ processOf receiver _).exists_returns h
  have hdelivers := @delivers_begin ε ι _ processOf receiver _ system running fuel object
    (fun _ => false) hsettled hidle
  have hresult : (System.runUntil processOf receiver (fun _ => false) (receive fuel object).run
      system).1 = .pure result := congrArg Prod.fst hreturns
  rw [hresult] at hdelivers
  exact ⟨_, hdelivers, hfinal⟩

omit [Inhabited ε] in
/-- A receiver at rest is settled in every state of every run. -/
theorem Delivers.settled {threads middle : Receiving ι ε} (h : Starts threads)
    (hrun : Delivers processOf threads middle) (hidle : middle.running receiver = none) :
    Settled receiver middle.state := by
  obtain ⟨phases, horderly⟩ := Delivers.orderly h hrun
  have hrest := horderly.follows receiver
  rw [hidle] at hrest
  refine ⟨(horderly.holds.owned.content receiver).written hrest.1, ?_⟩
  cases hopened : middle.state.opened receiver with
  | none => rfl
  | some content =>
      obtain ⟨object, path, file, hcreated, -⟩ := horderly.holds.opening receiver content hopened
      have hheld := hrest.1
      rw [hcreated] at hheld
      cases hheld

/-- In every state of every run a receiver at rest may go on to receive any object that is on the
server under a valid name and is not empty, unless the inbox has other bytes under the name or all
temporary names of the process are taken. -/
theorem object_receivable {threads middle : Receiving ι ε} {name : String} {content : List UInt8}
    (h : Starts threads) (hrun : Delivers processOf threads middle)
    (hidle : middle.running receiver = none)
    (hoffered : middle.state.server.offered name = some content)
    (hvalid : (validateRemoteName name : Except (ReceiveError ε) Unit) = .ok ())
    (hfault : nameFault name = none) (hlasting : ¬ IsIncomingName name)
    (hnonempty : content ≠ []) (hsize : content.length < 2 ^ 64)
    (hinbox : ∀ other, middle.state.inbox.directory.read name = some other → other = content)
    (hids : (middle.state.inbox.view processOf receiver).incomingNames.ncard < 2 ^ 64) :
    ∃ last outcome, Delivers processOf middle last ∧
      last.running receiver = some (.pure (.ok outcome)) ∧
      last.state.inbox.directory.read name = some content ∧
      last.state.server.offered name = none := by
  have hread : (middle.state.inbox.view processOf receiver).directory.read name = none ∨
      (middle.state.inbox.view processOf receiver).directory.read name = some content := by
    cases hother : middle.state.inbox.directory.read name with
    | none => exact .inl hother
    | some other => exact .inr (hother.trans (congrArg some (hinbox other hother)))
  let object : RemoteObject := ⟨name, .ofNat content.length⟩
  have hlength : content.length = object.size.toNat :=
    (UInt64.toNat_ofNat_of_lt' hsize).symm
  obtain ⟨fuel, outcome, final, hserves, hfinal⟩ :=
    @serves_receive ε _ _ middle.state.server object content hoffered hvalid hfault hlasting
      hnonempty hlength hread hids
  obtain ⟨last, hdelivers, hlast⟩ :=
    delivers_of_serves hidle (Delivers.settled h hrun hidle) hserves
  obtain ⟨hview, hserver⟩ := Prod.mk.inj hlast
  refine ⟨⟨last, _⟩, outcome, hdelivers, Function.update_self _ _ _, ?_, ?_⟩
  · show (last.inbox.view processOf receiver).directory.read name = _
    rw [hview]
    exact hfinal
  · rw [hserver]
    exact Function.update_self _ _ _

theorem sample_object_receivable :
    ∃ last outcome, Delivers (fun _ => 7) ⟨samplePublished, sampleStart.running⟩ last ∧
      last.running false = some (.pure (.ok outcome)) ∧
      last.state.inbox.directory.read "ProcessResult.xml" = some [65] ∧
      last.state.server.offered "ProcessResult.xml" = none := by
  have hids : (samplePublished.inbox.view (fun _ => 7) false).incomingNames = ∅ := by
    refine Set.eq_empty_of_forall_notMem fun name hname => ?_
    obtain ⟨hentry, id, rfl⟩ := hname
    have hne : incomingName 7 id ≠ "SummaryResult.xml" := by
      intro heq
      exact absurd (heq ▸ IsIncomingName.head ⟨7, id, rfl⟩) (by decide)
    exact hentry (@Function.update_of_ne _ _ _ _ _ hne (some ⟨0, false, false⟩) fun _ => none)
  have hvalid : (validateRemoteName "ProcessResult.xml" : Except (ReceiveError Unit) Unit) =
      .ok () := by
    unfold validateRemoteName
    exact if_pos (by decide)
  have hread : samplePublished.inbox.directory.read "ProcessResult.xml" = none := rfl
  refine object_receivable sampleStart_starts sample_publishes rfl (by decide) hvalid (by decide)
    (fun h => absurd h.head (by decide)) (by decide) (by decide) (fun other hother => ?_) ?_
  · cases hread.symm.trans hother
  · rw [hids, Set.ncard_empty]
    decide

end TwEinvoice.Delivery
