import TwEinvoice.Transport.InboxOwnership
import TwEinvoice.Transport.ReceiverDurability
import TwEinvoice.Transport.ReceiverEffects

/-!
# Concurrent receivers

However the steps of the receivers interleave, a name that one of them has published belongs to
nobody afterwards: no receiver writes to its file, removes it or publishes it again.
-/

namespace TwEinvoice.Transport

open Concurrency Effects Storage

variable {ε ι : Type} [DecidableEq ι] {keep : String → List UInt8 → Prop} {phases : ι → Phase}
variable {shared : SharedInbox ι ε} {processOf : ι → UInt32} {receiver : ι}

/-- The threads of the receivers. -/
abbrev Receivers (ι ε : Type) :=
  Threads ι (inboxSignature ε) (Except (ReceiveError ε) ReceiveOutcome) (SharedInbox ι ε)

/-- Receivers that have not begun, with any inbox and any counters. -/
def Receivers.start (directory : Directory) (nextTempId : UInt32 → UInt64) : Receivers ι ε where
  state := ⟨directory, nextTempId, fun _ => [], fun _ => []⟩
  running _ := none

omit [DecidableEq ι] in
/-- Receivers that have not begun own nothing. -/
theorem start_orderly (directory : Directory) (nextTempId : UInt32 → UInt64) :
    Orderly (receiverDiscipline ε) (Owned fun _ _ => False)
      (Receivers.start directory nextTempId : Receivers ι ε) fun _ => .resting :=
  ⟨⟨fun _ _ _ h => (by cases h), fun _ _ _ _ _ h => (by cases h), fun _ _ _ _ h => (by cases h),
    fun _ => rfl, fun _ _ h => h.elim, fun _ _ _ _ h => (by cases h)⟩, fun _ => rfl⟩

/-- The reply to a call other than a download is the world's. -/
theorem InboxReplies.exists_choice {op : InboxOp} {reply : (inboxSignature ε).Reply op}
    {next : SharedInbox ι ε} (h : InboxReplies processOf receiver op shared reply next)
    (hop : op.isDownload = false) :
    ∃ choice world, World.respond op choice (shared.view processOf receiver) = (reply, world) ∧
      next = shared.absorb processOf receiver world := by
  cases h with
  | download reply => cases hop
  | other choice => exact ⟨choice, _, rfl, rfl⟩

/-- A publication is of a complete download, and from then on the name is to be kept. -/
theorem Owned.published {source name : String} {next : SharedInbox ι ε}
    (h : Owned keep phases shared)
    (hpermits : (receiverDiscipline ε).permits (.hardLink source name) (phases receiver))
    (hreply : InboxReplies processOf receiver (.hardLink source name) shared (.ok ()) next) :
    ∃ object bytes, object.name = name ∧ Complete object bytes ∧
      (shared.remote receiver).getLast? = some (.download object bytes (.ok ())) ∧
      Owned (fun kept content => kept = name ∧ content = bytes)
        (Function.update phases receiver
          ((receiverDiscipline ε).after (.hardLink source name) (.ok ()) (phases receiver)))
        next := by
  obtain ⟨fault, world, hrespond, rfl⟩ := hreply.exists_choice rfl
  cases hphase : phases receiver with
  | measured object path file length =>
      rw [hphase] at hpermits
      obtain ⟨rfl, rfl, hpositive, hsize⟩ := hpermits
      have hcontent := h.content receiver
      rw [hphase] at hcontent
      -- The size check of the receiver compared this length with the announced one.
      obtain ⟨_, hlast, hlength⟩ := hcontent
      have hnamed := h.named receiver source file (by rw [hphase]; rfl)
      obtain ⟨found, hfound, hinode⟩ := Option.map_eq_some_iff.1 hnamed
      have hfree : shared.directory.entry object.name = none ∧
          world = (shared.view processOf receiver).withDirectory (shared.directory.link found
            (shared.directory.entry_lt source found hfound) object.name) :=
        hardLink_ok hfound hrespond
      obtain ⟨hnone, rfl⟩ := hfree
      have hlinked := @Owned.linked _ _ _ _ _ _ processOf _ _ _ _ _ _ _ h hphase hfound
        (shared.directory.entry_lt source found hfound) hnone
      refine ⟨object, (shared.directory.file file).bytes, rfl, ⟨?_, hlength.trans hsize⟩, hlast,
        hlinked.named, hlinked.apart, hlinked.sole, hlinked.content, ?_, ?_⟩
      · intro hnil
        exact hpositive (hlength.symm.trans (congrArg List.length hnil))
      · rintro _ _ ⟨rfl, rfl⟩
        show (shared.directory.link found (shared.directory.entry_lt source found hfound)
          object.name).read object.name = _
        rw [Directory.read_link_self, hinode]
      · -- A temporary name is taken, and this name was free.
        rintro other path file' bytes hown ⟨rfl, _⟩
        have hunheld := h.unheld (Directory.inodeOf_eq_none.2 hnone)
        rcases Owned.own_update Phase.holds hown with ⟨_, hown⟩ | ⟨_, hown⟩
        · refine hunheld receiver file' ?_
          rw [hphase]
          exact hown
        · exact hunheld other file' hown
  | _ =>
      rw [hphase] at hpermits
      exact hpermits.elim

/-- From a publication on the name keeps the bytes of a complete download, and it is neither
removed nor published again. -/
theorem kept_after_publication {threads published last : Receivers ι ε} {phases : ι → Phase}
    {receiver : ι} {source name : String} {after : List (Event ι (inboxSignature ε))}
    (horderly : Orderly (receiverDiscipline ε) (Owned keep) threads phases)
    (hpublish : ThreadStep (receivers processOf) threads
      (.reply receiver (.hardLink source name) (.ok ())) published)
    (hafter : ThreadRun (receivers processOf) published after last) :
    ∃ object bytes, object.name = name ∧ Complete object bytes ∧
      (threads.state.remote receiver).getLast? = some (.download object bytes (.ok ())) ∧
      published.state.directory.read name = some bytes ∧
      last.state.directory.read name = some bytes ∧
      ∀ event ∈ after, ¬ event.Replied (Publishes name) ∧ ¬ event.Replied (Removes name) := by
  obtain ⟨hholds, hfollows⟩ := horderly
  cases hpublish with
  | @reply shared running _ _ rest _ next hcall hreply =>
      have hthread := hfollows receiver
      simp only [hcall] at hthread
      obtain ⟨object, bytes, hname, hcomplete, hlast, howned⟩ := hholds.published hthread.1 hreply
      -- The rest of the run starts from the phase after the reply, with one more name to keep.
      have hrest : (receiverDiscipline ε).FollowedBy (some (rest (.ok ())))
          ((receiverDiscipline ε).after (.hardLink source name) (.ok ()) (phases receiver)) :=
        hthread.2 (.ok ()) _ rfl
      have hstart := followedBy_update receiver hfollows hrest
      obtain ⟨hsafe, phases', hend⟩ := (owned_invariant processOf _).run
        (receivers_begin processOf) ⟨howned, hstart⟩ hafter
      refine ⟨object, bytes, hname, hcomplete, hlast, howned.kept name bytes ⟨rfl, rfl⟩,
        hend.holds.kept name bytes ⟨rfl, rfl⟩, fun event hevent => ?_⟩
      have hspares := hsafe event hevent
      cases event with
      | reply other op answer => exact hspares name bytes ⟨rfl, rfl⟩
      | _ => exact ⟨id, id⟩

omit [DecidableEq ι] in
/-- Only a hard link publishes a name. -/
theorem exists_hardLink {name : String} {event : Event ι (inboxSignature ε)}
    (h : event.Replied (Publishes name)) :
    ∃ receiver source, event = .reply receiver (.hardLink source name) (.ok ()) := by
  cases event with
  | reply receiver op answer =>
      cases op with
      | hardLink source destination =>
          cases answer with
          | ok value => exact ⟨receiver, source, by cases h; rfl⟩
          | error error => exact h.elim
      | _ => exact h.elim
  | _ => exact h.elim

/-- In every run of any receivers on any inbox, once a hard link has published a name: the name
has the bytes of the receiver's complete download of an object of this name, it has the same
bytes whenever looked at later, no receiver removes it, and no other publication of it succeeds
before or after. -/
theorem published_forever (processOf : ι → UInt32) (directory : Directory)
    (nextTempId : UInt32 → UInt64) {threads published last : Receivers ι ε} {receiver : ι}
    {source name : String} {before after : List (Event ι (inboxSignature ε))}
    (hbefore : ThreadRun (receivers processOf) (Receivers.start directory nextTempId) before
      threads)
    (hpublish : ThreadStep (receivers processOf) threads
      (.reply receiver (.hardLink source name) (.ok ())) published)
    (hafter : ThreadRun (receivers processOf) published after last) :
    (∃ object bytes, object.name = name ∧ Complete object bytes ∧
      (threads.state.remote receiver).getLast? = some (.download object bytes (.ok ())) ∧
      published.state.directory.read name = some bytes ∧
      last.state.directory.read name = some bytes) ∧
    (∀ event ∈ after, ¬ event.Replied (Removes name)) ∧
    ∀ event ∈ before ++ after, ¬ event.Replied (Publishes name) := by
  have hreach : ∀ {events : List (Event ι (inboxSignature ε))} {middle : Receivers ι ε},
      ThreadRun (receivers processOf) (Receivers.start directory nextTempId) events middle →
      ∃ phases, Orderly (receiverDiscipline ε) (Owned fun _ _ => False) middle phases :=
    fun hrun => ((owned_invariant processOf _).run (receivers_begin processOf)
      (start_orderly directory nextTempId) hrun).2
  obtain ⟨phases, horderly⟩ := hreach hbefore
  obtain ⟨object, bytes, hname, hcomplete, hlast, hread, hread', hevents⟩ :=
    kept_after_publication horderly hpublish hafter
  refine ⟨⟨object, bytes, hname, hcomplete, hlast, hread, hread'⟩,
    fun event hevent => (hevents event hevent).2, fun event hevent hpublishes => ?_⟩
  rcases List.mem_append.1 hevent with hevent | hevent
  · -- After an earlier publication this one would not have succeeded.
    obtain ⟨earlier, other, rfl⟩ := exists_hardLink hpublishes
    obtain ⟨first, second, rfl⟩ := List.append_of_mem hevent
    obtain ⟨middle, next, hfirst, hearlier, hsecond⟩ := hbefore.split
    obtain ⟨phases', horderly'⟩ := hreach hfirst
    obtain ⟨_, _, _, _, _, _, _, hlater⟩ := kept_after_publication horderly' hearlier
      (hsecond.append (.cons hpublish (.nil _)))
    exact (hlater _ (List.mem_append_right _ List.mem_cons_self)).1 rfl
  · exact (hevents event hevent).1 hpublishes

/-! ## A race -/

/-- One receiver that is not interrupted sees the world of the sequential model. -/
def SharedInbox.handler (processOf : ι → UInt32) (receiver : ι) :
    Handler (inboxSignature ε) (SharedInbox ι ε) where
  Choice := World.Choice ε
  respond op choice shared :=
    ((World.respond op choice (shared.view processOf receiver)).1,
      shared.absorb processOf receiver
        (World.respond op choice (shared.view processOf receiver)).2)

/-- It may do what the handler responds: a download writes everything at once. -/
theorem handler_replies (op : InboxOp) (choice : World.Choice ε op)
    (hwritten : shared.written receiver = []) :
    ((SharedInbox.handler processOf receiver).respond op choice shared).2.written receiver = [] ∧
    ∃ middle, Relation.ReflTransGen ((receivers processOf).pending receiver op) shared middle ∧
      (receivers processOf).replies receiver op middle
        ((SharedInbox.handler processOf receiver).respond op choice shared).1
        ((SharedInbox.handler processOf receiver).respond op choice shared).2 := by
  refine ⟨hwritten, ?_⟩
  by_cases hdownload : op.isDownload = false
  · exact ⟨shared, .refl, .other choice hdownload⟩
  · cases op with
    | download object file =>
        obtain ⟨bytes, reply⟩ := choice
        refine ⟨shared.write receiver file bytes, .single ⟨bytes, rfl⟩, ?_⟩
        have hfinish : ((SharedInbox.handler processOf receiver).respond (.download object file)
              (bytes, reply) shared).2 =
            (shared.write receiver file bytes).finishDownload receiver object reply := by
          simp [SharedInbox.handler, SharedInbox.absorb, SharedInbox.finishDownload,
            SharedInbox.write, World.respond, SharedInbox.view, World.withDirectory, World.logged,
            hwritten]
        rw [hfinish]
        exact .download reply
    | _ => exact absurd rfl hdownload

/-- The choices of an undisturbed download of one byte. -/
def sampleChoice (receiver : Bool) (op : InboxOp) (shared : SharedInbox Bool Unit) :
    World.Choice Unit op :=
  choicesFor [65] none op (shared.view (fun _ => 7) receiver)

/-- One of two receivers of process 7 gets as far as the hard link. -/
def upToHardLink (receiver : Bool) (shared : SharedInbox Bool Unit) :
    Program (inboxSignature Unit) (Except (ReceiveError Unit) ReceiveOutcome) ×
      SharedInbox Bool Unit :=
  (SharedInbox.handler (fun _ => 7) receiver).runUntil (sampleChoice receiver)
    (fun op => op matches .hardLink ..) (receive 2 sampleObject).run shared

/-- A receiver may run by itself up to its hard link. -/
theorem run_upToHardLink {receiver : Bool} {shared : SharedInbox Bool Unit}
    {running : Bool → Option (Program (inboxSignature Unit)
      (Except (ReceiveError Unit) ReceiveOutcome))} (hrunning : running receiver = none)
    (hwritten : shared.written = fun _ => []) :
    ∃ events, ThreadRun (receivers fun _ => 7) ⟨shared, running⟩ events
        ⟨(upToHardLink receiver shared).2,
          Function.update running receiver (some (upToHardLink receiver shared).1)⟩ := by
  obtain ⟨events, hrun⟩ := @ThreadRun.runUntil _ _ _ _ _ (receivers fun _ => 7)
    (SharedInbox.handler (fun _ => 7) receiver) (sampleChoice receiver)
    (fun op => op matches .hardLink ..) receiver (fun state => state.written receiver = [])
    (fun op state hstate => handler_replies op (sampleChoice receiver op state) hstate)
    (receive 2 sampleObject).run shared
    (Function.update running receiver (some (receive 2 sampleObject).run))
    (by rw [hwritten]) (Function.update_self _ _ _)
  rw [Function.update_idem] at hrun
  exact ⟨_, .cons (.begin hrunning ⟨2, sampleObject, rfl⟩) hrun⟩

/-- A hard link that does not fail for another reason replies what the directory says. -/
theorem replies_hardLink {source destination : String}
    {reply : Except IoError Unit} {world : World ε} (hname : nameFault destination = none)
    (h : (shared.view processOf receiver).hardLink source destination = (reply, world)) :
    InboxReplies processOf receiver (.hardLink source destination) shared reply
      (shared.absorb processOf receiver world) := by
  have hreply := @InboxReplies.other _ _ _ processOf receiver (.hardLink source destination) shared
    none rfl
  rw [respond_hardLink_none hname, h] at hreply
  exact hreply

/-- A hard link to a free name. -/
theorem replies_linked {source destination : String} {found : Entry}
    (hname : nameFault destination = none)
    (hsource : shared.directory.entry source = some found)
    (hfree : shared.directory.entry destination = none) :
    InboxReplies processOf receiver (.hardLink source destination) shared (.ok ())
      (shared.absorb processOf receiver ((shared.view processOf receiver).withDirectory
        (shared.directory.link found (shared.directory.entry_lt source found hsource)
          destination))) :=
  replies_hardLink hname ((hardLink_eq hsource).trans (if_pos hfree))

/-- A hard link to a name that is taken. -/
theorem replies_taken {source destination : String} {found : Entry}
    (hname : nameFault destination = none)
    (hsource : shared.directory.entry source = some found)
    (htaken : shared.directory.entry destination ≠ none) :
    InboxReplies processOf receiver (.hardLink source destination) shared (.error .alreadyExists)
      (shared.absorb processOf receiver (shared.view processOf receiver)) :=
  replies_hardLink hname ((hardLink_eq hsource).trans (if_neg htaken))

/-- The receivers before they begin. -/
def sampleStart : Receivers Bool Unit := Receivers.start .empty fun _ => 0

/-- Two receivers have downloaded one object and are about to publish it. -/
theorem run_racing :
    ∃ (events : List (Event Bool (inboxSignature Unit))) (shared : SharedInbox Bool Unit)
      (running : Bool → Option (Program (inboxSignature Unit)
        (Except (ReceiveError Unit) ReceiveOutcome))) (next rest : _),
      ThreadRun (receivers fun _ => 7) sampleStart events ⟨shared, running⟩ ∧
      running false = some (.call (.hardLink ".incoming-7-0" sampleObject.name) next) ∧
      running true = some (.call (.hardLink ".incoming-7-1" sampleObject.name) rest) ∧
      shared.directory.entry ".incoming-7-0" = some ⟨0, false, false⟩ ∧
      shared.directory.entry ".incoming-7-1" = some ⟨1, false, false⟩ ∧
      shared.directory.entry sampleObject.name = none := by
  let first := upToHardLink false sampleStart.state
  let second := upToHardLink true first.2
  obtain ⟨events, hfirst⟩ := @run_upToHardLink false sampleStart.state sampleStart.running rfl rfl
  obtain ⟨more, hsecond⟩ := @run_upToHardLink true first.2
    (Function.update sampleStart.running false (some first.1)) rfl rfl
  obtain ⟨next, hnext⟩ := Program.exists_of_pending
    (show first.1.pending = some (.hardLink ".incoming-7-0" sampleObject.name) by decide)
  obtain ⟨rest, hrest⟩ := Program.exists_of_pending
    (show second.1.pending = some (.hardLink ".incoming-7-1" sampleObject.name) by decide)
  exact ⟨_, second.2, _, next, rest, hfirst.append hsecond, congrArg some hnext,
    congrArg some hrest, by decide, by decide, by decide⟩

/-- The first receiver publishes the object, and the second finds the name taken. -/
theorem sample_published_forever :
    ∃ (threads published last : Receivers Bool Unit)
      (before after : List (Event Bool (inboxSignature Unit))),
      ThreadRun (receivers fun _ => 7) sampleStart before threads ∧
      ThreadStep (receivers fun _ => 7) threads
        (.reply false (.hardLink ".incoming-7-0" sampleObject.name) (.ok ())) published ∧
      ThreadRun (receivers fun _ => 7) published after last ∧
      .reply true (.hardLink ".incoming-7-1" sampleObject.name) (.error .alreadyExists) ∈ after ∧
      (∃ object bytes, object.name = sampleObject.name ∧ Complete object bytes ∧
        (threads.state.remote false).getLast? = some (.download object bytes (.ok ())) ∧
        published.state.directory.read sampleObject.name = some bytes ∧
        last.state.directory.read sampleObject.name = some bytes) ∧
      (∀ event ∈ after, ¬ event.Replied (Removes sampleObject.name)) ∧
      ∀ event ∈ before ++ after, ¬ event.Replied (Publishes sampleObject.name) := by
  obtain ⟨before, shared, running, next, rest, hbefore, hnext, hrest, hentry, hother, hfree⟩ :=
    run_racing
  have hlinked : (receivers fun _ => 7).replies false
      (.hardLink ".incoming-7-0" sampleObject.name) shared (.ok ()) _ :=
    replies_linked (by decide) hentry hfree
  have hpublish := ThreadStep.reply hnext hlinked
  have hname : ".incoming-7-1" ≠ sampleObject.name := by decide
  have hkept : Function.update shared.directory.entry sampleObject.name
      (some ⟨0, true, false⟩) ".incoming-7-1" = some ⟨1, false, false⟩ :=
    (Function.update_of_ne hname _ _).trans hother
  have htaken : Function.update shared.directory.entry sampleObject.name
      (some ⟨0, true, false⟩) sampleObject.name ≠ none := by
    rw [Function.update_self]
    exact Option.some_ne_none _
  have hrefused : (receivers fun _ => 7).replies true
      (.hardLink ".incoming-7-1" sampleObject.name)
      (shared.absorb (fun _ => 7) false ((shared.view (fun _ => 7) false).withDirectory
        (shared.directory.link ⟨0, false, false⟩ (shared.directory.entry_lt _ _ hentry)
          sampleObject.name))) (.error .alreadyExists) _ :=
    replies_taken (by decide) hkept htaken
  have hwaiting : Function.update running false (some (next (.ok ()))) true =
      some (.call (.hardLink ".incoming-7-1" sampleObject.name) rest) :=
    (Function.update_of_ne (by decide) _ _).trans hrest
  have hafter := ThreadRun.cons (ThreadStep.reply hwaiting hrefused) (.nil _)
  exact ⟨_, _, _, _, _, hbefore, hpublish, hafter, List.mem_singleton.2 rfl,
    published_forever (fun _ => 7) .empty (fun _ => 0) hbefore hpublish hafter⟩

end TwEinvoice.Transport
