import TwEinvoice.Delivery.System
import TwEinvoice.Transport.ConcurrentReceivers

/-!
# A receiver that is not interrupted

While one receiver takes all the steps and the server serves what is in its directory, the system is
a handler of the calls of that receiver. What the handler computes the receivers may do.
-/

namespace TwEinvoice.Delivery

open Concurrency Effects Storage Transport

variable {ε ι : Type} [DecidableEq ι] {processOf : ι → UInt32} {receiver : ι}

/-- The system as the environment of one receiver. -/
def System.handler (processOf : ι → UInt32) (receiver : ι) :
    Handler (inboxSignature ε) (System ι ε) where
  Choice := World.Choice ε
  respond op choice system :=
    (((SharedInbox.handler processOf receiver).respond op choice system.inbox).1,
      ⟨((SharedInbox.handler processOf receiver).respond op choice system.inbox).2,
        system.server.after op, Function.update system.opened receiver none⟩)

/-- What the receiver does before its first call of this kind, and the system then. -/
def System.runUntil [Inhabited ε] (processOf : ι → UInt32) (receiver : ι) (stop : InboxOp → Bool)
    (program : Program (inboxSignature ε) (Except (ReceiveError ε) ReceiveOutcome))
    (system : System ι ε) :
    Program (inboxSignature ε) (Except (ReceiveError ε) ReceiveOutcome) × System ι ε :=
  (System.handler processOf receiver).runUntil (fun op system => serving op system.server) stop
    program system

/-- No download of the receiver has begun. -/
structure Settled (receiver : ι) (system : System ι ε) : Prop where
  unwritten : system.inbox.written receiver = []
  unopened : system.opened receiver = none

/-- A download that has written everything returns. -/
theorem replies_download {shared : SharedInbox ι ε} (hwritten : shared.written receiver = [])
    (object : RemoteObject) (file : Nat) (bytes : List UInt8) (reply : Except ε Unit) :
    InboxReplies processOf receiver (.download object file) (shared.write receiver file bytes)
      reply (shared.absorb processOf receiver (World.respond (.download object file)
        (bytes, reply) (shared.view processOf receiver)).2) := by
  have hfinish : shared.absorb processOf receiver (World.respond (.download object file)
        (bytes, reply) (shared.view processOf receiver)).2 =
      (shared.write receiver file bytes).finishDownload receiver object reply := by
    simp [SharedInbox.absorb, SharedInbox.finishDownload, SharedInbox.write, World.respond,
      SharedInbox.view, World.withDirectory, World.logged, hwritten]
  rw [hfinish]
  exact .download reply

section Serving

variable [Inhabited ε] {system : System ι ε}

/-- A download opens what is in the server's directory and writes everything at once. -/
theorem handler_downloads (h : Settled receiver system) (object : RemoteObject) (file : Nat) :
    ∃ middle, Relation.ReflTransGen ((systemRules processOf).pending receiver
        (.download object file)) system middle ∧
      (systemRules processOf).replies receiver (.download object file) middle
        ((System.handler processOf receiver).respond (.download object file)
          (serving (.download object file) system.server) system).1
        ((System.handler processOf receiver).respond (.download object file)
          (serving (.download object file) system.server) system).2 := by
  obtain ⟨inbox, server, opened⟩ := system
  have hwritten : inbox.written receiver = [] := h.unwritten
  cases hoffered : server.offered object.name with
  | none =>
      have hchoice : (serving (.download object file) server :
          World.Choice ε (.download object file)) = ([], .error default) := by
        simp only [serving, hoffered]
      refine ⟨⟨inbox.write receiver file [], server, opened⟩, .single (.writes ⟨[], rfl⟩), ?_⟩
      rw [hchoice]
      refine ⟨replies_download hwritten object file _ _, ⟨rfl, fun hok => ?_⟩, rfl⟩
      cases hok
  | some content =>
      have hchoice : (serving (.download object file) server :
          World.Choice ε (.download object file)) = (content, .ok ()) := by
        simp only [serving, hoffered]
      have hopens : SystemWork receiver (.download object file) ⟨inbox, server, opened⟩ _ :=
        .opens h.unopened hoffered
      refine ⟨_, (Relation.ReflTransGen.single hopens).tail (.writes ⟨content, rfl⟩), ?_⟩
      rw [hchoice]
      refine ⟨replies_download hwritten object file _ _, ⟨rfl, fun _ => ?_⟩, ?_⟩
      · show Function.update opened receiver (some content) receiver =
          some (Function.update inbox.written receiver (inbox.written receiver ++ content) receiver)
        rw [Function.update_self, Function.update_self, hwritten, List.nil_append]
      · exact (Function.update_idem _ _ _).symm

/-- The receiver is settled after each response, and the system may answer so. -/
theorem handler_system_replies (op : InboxOp) (system : System ι ε)
    (h : Settled receiver system) :
    Settled receiver ((System.handler processOf receiver).respond op
        (serving op system.server) system).2 ∧
      ∃ middle, Relation.ReflTransGen ((systemRules processOf).pending receiver op) system
          middle ∧
        (systemRules processOf).replies receiver op middle
          ((System.handler processOf receiver).respond op (serving op system.server) system).1
          ((System.handler processOf receiver).respond op (serving op system.server) system).2 := by
  refine ⟨⟨h.unwritten, Function.update_self _ _ _⟩, ?_⟩
  cases op with
  | download object file => exact handler_downloads h object file
  | delete object =>
      exact ⟨system, .refl, .other _ rfl, serving_delete object _ _ system.server, rfl⟩
  | _ => exact ⟨system, .refl, .other _ rfl, rfl, rfl⟩

/-- What the receiver does alone is a run of the system. -/
theorem delivers_runUntil {running : ι → Option (Program (inboxSignature ε)
      (Except (ReceiveError ε) ReceiveOutcome))}
    {program : Program (inboxSignature ε) (Except (ReceiveError ε) ReceiveOutcome)}
    (stop : InboxOp → Bool) (h : Settled receiver system)
    (hrunning : running receiver = some program) :
    Delivers processOf ⟨system, running⟩
      ⟨(System.runUntil processOf receiver stop program system).2, Function.update running receiver
        (some (System.runUntil processOf receiver stop program system).1)⟩ := by
  obtain ⟨events, hrun⟩ := @ThreadRun.runUntil _ _ _ _ _ (systemRules processOf)
    (System.handler processOf receiver) (fun op system => serving op system.server) stop receiver
    (Settled receiver) (fun op state hstate => handler_system_replies op state hstate) program
    system running h hrunning
  exact hrun.openRun

/-- A receiver begins, and runs alone. -/
theorem delivers_begin {running : ι → Option (Program (inboxSignature ε)
      (Except (ReceiveError ε) ReceiveOutcome))} (fuel : Nat) (object : RemoteObject)
    (stop : InboxOp → Bool) (h : Settled receiver system) (hidle : running receiver = none) :
    Delivers processOf ⟨system, running⟩
      ⟨(System.runUntil processOf receiver stop (receive fuel object).run system).2,
        Function.update running receiver
          (some (System.runUntil processOf receiver stop (receive fuel object).run system).1)⟩ := by
  have hbegin : OpenStep (systemRules processOf) Ambient ⟨system, running⟩ _ :=
    .thread (.begin hidle ⟨fuel, object, rfl⟩)
  have hrun := @delivers_runUntil ε ι _ processOf receiver _ system
    (Function.update running receiver (some (receive fuel object).run)) _ stop h
    (Function.update_self _ _ _)
  rw [Function.update_idem] at hrun
  exact .head hbegin hrun

end Serving

/-! ## A sample race -/

/-- Two receivers of process 7 with one file in the inbox, and a server that has published
nothing. -/
def sampleStart : Receiving Bool Unit where
  state :=
    ⟨⟨Directory.empty.create "SummaryResult.xml", fun _ => 0, fun _ => [], fun _ => []⟩,
      ⟨fun _ => [], fun _ => none, nofun⟩, fun _ => none⟩
  running _ := none

theorem sampleStart_starts : Starts sampleStart := by
  refine ⟨fun _ => rfl, fun _ => rfl, fun _ => rfl, fun name content hfixed => ?_⟩
  have hnone : sampleStart.state.handover.published name = [] := by
    by_cases hname : IsIncomingName name
    · exact lasting_of_incoming hname
    · exact lasting_eq hname
  obtain ⟨hpublished, -⟩ := hfixed
  rw [hnone] at hpublished
  cases hpublished

/-- The server has published one object. -/
def samplePublished : System Bool Unit :=
  { sampleStart.state with server := sampleStart.state.server.put sampleObject.name [65] }

/-- The first receiver gets as far as the hard link. -/
def sampleFirst : Program (inboxSignature Unit) (Except (ReceiveError Unit) ReceiveOutcome) ×
    System Bool Unit :=
  System.runUntil (fun _ => 7) false (fun op => op matches .hardLink ..)
    (receive 2 sampleObject).run samplePublished

/-- So does the second. -/
def sampleSecond : Program (inboxSignature Unit) (Except (ReceiveError Unit) ReceiveOutcome) ×
    System Bool Unit :=
  System.runUntil (fun _ => 7) true (fun op => op matches .hardLink ..)
    (receive 2 sampleObject).run sampleFirst.2

/-- Both have downloaded the object and are about to publish it. -/
def sampleRacing : Receiving Bool Unit where
  state := sampleSecond.2
  running receiver := some (bif receiver then sampleSecond.1 else sampleFirst.1)

/-- The first publishes the object and deletes it from the server. -/
def sampleWinner : Program (inboxSignature Unit) (Except (ReceiveError Unit) ReceiveOutcome) ×
    System Bool Unit :=
  System.runUntil (fun _ => 7) false (fun _ => false) sampleFirst.1 sampleSecond.2

/-- The second finds the same bytes in the inbox, and nothing to delete. -/
def sampleLoser : Program (inboxSignature Unit) (Except (ReceiveError Unit) ReceiveOutcome) ×
    System Bool Unit :=
  System.runUntil (fun _ => 7) true (fun _ => false) sampleSecond.1 sampleWinner.2

/-- Both have returned. -/
def sampleReceived : Receiving Bool Unit where
  state := sampleLoser.2
  running receiver := some (bif receiver then sampleLoser.1 else sampleWinner.1)

theorem sample_publishes :
    Delivers (fun _ => 7) sampleStart ⟨samplePublished, sampleStart.running⟩ :=
  .single (.ambient (.publish sampleObject.name [65]))

/-- Both receivers of the sample go on to their hard link. -/
theorem sample_races : Delivers (fun _ => 7) sampleStart sampleRacing := by
  have hfirst := @delivers_begin Unit Bool _ (fun _ => 7) false _ samplePublished
    sampleStart.running 2 sampleObject (fun op => op matches .hardLink ..) ⟨rfl, rfl⟩ rfl
  have hsecond := @delivers_begin Unit Bool _ (fun _ => 7) true _ sampleFirst.2
    (Function.update sampleStart.running false (some sampleFirst.1)) 2 sampleObject
    (fun op => op matches .hardLink ..) ⟨rfl, rfl⟩ rfl
  have hlast : Function.update (Function.update sampleStart.running false (some sampleFirst.1))
      true (some sampleSecond.1) = sampleRacing.running := by
    funext receiver
    cases receiver <;> rfl
  show Delivers _ _ ⟨sampleSecond.2, sampleRacing.running⟩
  rw [← hlast]
  exact (sample_publishes.trans hfirst).trans hsecond

/-- Both receivers of the sample come to their end. -/
theorem sample_receives : Delivers (fun _ => 7) sampleRacing sampleReceived := by
  have hwinner := @delivers_runUntil Unit Bool _ (fun _ => 7) false _ sampleRacing.state
    sampleRacing.running sampleFirst.1 (fun _ => false) ⟨rfl, rfl⟩ rfl
  have hloser := @delivers_runUntil Unit Bool _ (fun _ => 7) true _ sampleWinner.2
    (Function.update sampleRacing.running false (some sampleWinner.1)) sampleSecond.1
    (fun _ => false) ⟨rfl, rfl⟩ rfl
  have hlast : Function.update (Function.update sampleRacing.running false (some sampleWinner.1))
      true (some sampleLoser.1) = sampleReceived.running := by
    funext receiver
    cases receiver <;> rfl
  show Delivers _ _ ⟨sampleLoser.2, sampleReceived.running⟩
  rw [← hlast]
  exact hwinner.trans hloser

/-- The race ends with the object in the inbox, and one of the deletions fails. -/
theorem sample_race_ends :
    sampleRacing.state.server.offered sampleObject.name = some [65] ∧
    sampleReceived.state.server.offered sampleObject.name = none ∧
    sampleReceived.running false = some (.pure (.ok (.persisted sampleObject.name))) ∧
    sampleReceived.running true = some (.pure (.error (.remote .delete ()))) :=
  ⟨by decide, by decide, rfl, rfl⟩

end TwEinvoice.Delivery
