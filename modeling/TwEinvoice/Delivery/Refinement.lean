import TwEinvoice.Delivery.Knowledge

/-!
# Receiving refines the handover

What the receivers know is true in every state that they may reach together, so each step of a
receiver, of the server or of a process is a step of the handover or leaves it alone.
-/

namespace TwEinvoice.Delivery

open Concurrency Effects Storage Transport

variable {ε ι : Type}

/-- What holds of the whole system, with the handover that it began with. -/
structure Delivering (first : Handover String (List UInt8)) (phases : ι → Phase × Evidence)
    (system : System ι ε) : Prop where
  owned : Owned (fun _ _ => False) (fun receiver => (phases receiver).1) system.inbox
  temporary : ∀ receiver path file, (phases receiver).1.holds = some (path, file) →
    IsIncomingName path
  opening : ∀ receiver,
    Opened system.server.published (system.opened receiver) (phases receiver).1
  authentic : ∀ receiver,
    Authentic system.server.published system.inbox.directory (phases receiver).1
  evidence : ∀ receiver, (phases receiver).2.Holds system.server.published
    system.inbox.directory (phases receiver).1
  reached : Handover.Run first system.handover

/-- Both disciplines of `receive`. -/
abbrev deliveryDiscipline (ε : Type) : Discipline (inboxSignature ε) (Phase × Evidence) :=
  (receiverDiscipline ε).prod (evidenceDiscipline ε)

variable [DecidableEq ι] {first : Handover String (List UInt8)} {phases : ι → Phase × Evidence}
variable {system next : System ι ε} {processOf : ι → UInt32} {receiver : ι} {op : InboxOp}
variable {reply : (inboxSignature ε).Reply op}

/-- No reply disturbs a lasting name or a file that exists. -/
theorem Delivering.undisturbed (h : Delivering first phases system)
    (hpermits : (deliveryDiscipline ε).permits op (phases receiver))
    (hreply : SystemReplies processOf receiver op system reply next) :
    Undisturbed (· < system.inbox.directory.next) system.inbox.directory
      next.inbox.directory := by
  refine undisturbed_reply (fun path htouched => ?_) hreply.1
  cases op with
  | createNew path' =>
      cases htouched
      exact .inl hpermits.2
  | hardLink source destination =>
      cases htouched
      exact .inr ⟨source, rfl⟩
  | removeFile path' =>
      cases htouched
      obtain ⟨file, hfilled⟩ := hpermits.1
      exact .inl (h.temporary receiver path file (Phase.holds_of_filled hfilled))
  | _ => cases htouched

omit [DecidableEq ι] in
/-- The file that a receiver has exists. -/
theorem Delivering.holds_lt (h : Delivering first phases system) {path : String} {file : Nat}
    (hown : (phases receiver).1.holds = some (path, file)) :
    file < system.inbox.directory.next :=
  Directory.inodeOf_lt (h.owned.named receiver path file hown)

/-- A download that succeeds is what was published. -/
theorem Delivering.authentic_reply (h : Delivering first phases system)
    (hpermits : (deliveryDiscipline ε).permits op (phases receiver))
    (hreply : SystemReplies processOf receiver op system reply next) :
    Authentic next.server.published next.inbox.directory
      ((receiverDiscipline ε).after op reply (phases receiver).1) := by
  have hund := h.undisturbed hpermits hreply
  have hsame : Authentic next.server.published next.inbox.directory (phases receiver).1 := by
    refine (h.authentic receiver).mono (fun path file hown => ?_) ?_
    · exact hund.bytes file (h.holds_lt (Phase.holds_of_unpublished hown))
    · rw [hreply.2.1.published]
      exact fun _ => List.Subset.refl _
  have hcontent := h.owned.content receiver
  have hopened := h.opening receiver
  obtain ⟨hbase, -⟩ := hpermits
  cases op with
  | createNew path =>
      cases hphase : (phases receiver).1 <;> rw [hphase] at hsame <;> cases reply <;> exact hsame
  | download object file =>
      cases hphase : (phases receiver).1 with
      | created object' path file' =>
          simp only [hphase] at hbase hcontent hopened
          obtain ⟨rfl, rfl⟩ := hbase
          cases reply with
          | error error => trivial
          | ok _ =>
              have hbytes : (system.inbox.directory.file file).bytes =
                  system.inbox.written receiver := hcontent
              have hfile : file < system.inbox.directory.next :=
                @Delivering.holds_lt _ _ _ _ _ _ h path file (by rw [hphase]; rfl)
              show (next.inbox.directory.file file).bytes ∈ next.server.published object.name
              rw [hund.bytes file hfile, hbytes, hreply.2.1.published]
              -- The version that was opened has been written.
              obtain ⟨other, path', file', hcreated, hname⟩ := hopened _ (hreply.2.1.2 rfl)
              cases hcreated
              exact hname
      | _ =>
          simp only [hphase] at hbase
          exact hbase.elim
  | metadata file =>
      cases hphase : (phases receiver).1 <;> rw [hphase] at hsame <;> cases reply <;>
        exact hsame
  | hardLink source destination =>
      cases hphase : (phases receiver).1 <;> rw [hphase] at hsame <;>
        first | exact hsame | trivial
  | removeFile path => trivial
  | _ => exact hsame

/-- Evidence that a reply does not bear on stays true. -/
theorem Delivering.evidence_kept (h : Delivering first phases system)
    (hpermits : (deliveryDiscipline ε).permits op (phases receiver))
    (hreply : SystemReplies processOf receiver op system reply next)
    (hop : ∀ path, op ≠ .removeFile path) :
    (phases receiver).2.Holds next.server.published next.inbox.directory
      ((receiverDiscipline ε).after op reply (phases receiver).1) := by
  refine (h.evidence receiver).mono (fun source file hclosing => ?_)
    (h.undisturbed hpermits hreply) (fun source file hclosing => ?_) ?_
  · rw [hclosing]
    exact after_closing hop
  · exact @Delivering.holds_lt _ _ _ _ _ _ h source file (by rw [hclosing]; rfl)
  · rw [hreply.2.1.published]
    exact fun _ => List.Subset.refl _

/-- A link that is made publishes what was downloaded. -/
theorem Delivering.linked {source name : String} (h : Delivering first phases system)
    (hpermits : (deliveryDiscipline ε).permits (.hardLink source name) (phases receiver))
    (hreply : SystemReplies processOf receiver (.hardLink source name) system (.ok ()) next) :
    ∃ content ∈ system.server.published name,
      system.inbox.directory.read name = none ∧
      next.inbox.directory.read name = some content := by
  obtain ⟨object, bytes, rfl, _, hlast, howned⟩ := h.owned.published hpermits.1 hreply.1
  obtain ⟨hbase, -⟩ := hpermits
  have hauthentic := h.authentic receiver
  have hcontent := h.owned.content receiver
  cases hphase : (phases receiver).1 with
  | measured object' path file length =>
      simp only [hphase] at hbase hauthentic hcontent
      obtain ⟨rfl, hname, _, _⟩ := hbase
      obtain ⟨_, hlast', _⟩ := hcontent
      -- The last download of the receiver is the one that is published.
      rw [hlast] at hlast'
      cases hlast'
      refine ⟨_, hauthentic, ?_, howned.kept _ _ ⟨rfl, rfl⟩⟩
      obtain ⟨fault, world, hrespond, _⟩ := hreply.1.exists_choice rfl
      have hnamed := h.owned.named receiver source file (by rw [hphase]; rfl)
      obtain ⟨found, hfound, _⟩ := Option.map_eq_some_iff.1 hnamed
      exact Directory.read_eq_none.2 (hardLink_ok hfound hrespond).1
  | _ =>
      simp only [hphase] at hbase
      exact hbase.elim

/-- A link that is refused leaves the download to be compared. -/
theorem Delivering.refused {source name : String} (h : Delivering first phases system)
    (hpermits : (deliveryDiscipline ε).permits (.hardLink source name) (phases receiver))
    (hreply : SystemReplies processOf receiver (.hardLink source name) system
      (.error .alreadyExists) next) :
    (Evidence.refused source name).Holds next.server.published next.inbox.directory
      ((receiverDiscipline ε).after (.hardLink source name) (.error .alreadyExists)
        (phases receiver).1) := by
  have hund := h.undisturbed hpermits hreply
  obtain ⟨hbase, -⟩ := hpermits
  have hauthentic := h.authentic receiver
  cases hphase : (phases receiver).1 with
  | measured object path file length =>
      simp only [hphase] at hbase hauthentic
      obtain ⟨rfl, rfl, _, _⟩ := hbase
      have hfile : file < system.inbox.directory.next :=
        @Delivering.holds_lt _ _ _ _ _ _ h source file (by rw [hphase]; rfl)
      refine ⟨file, rfl, ?_⟩
      rw [hund.bytes file hfile, hreply.2.1.published]
      exact hauthentic
  | _ =>
      simp only [hphase] at hbase
      exact hbase.elim

/-- A file that is opened is the temporary file, or the one under the object's name. -/
theorem Delivering.opened {path : String} {inode : Nat} (h : Delivering first phases system)
    (hpermits : (deliveryDiscipline ε).permits (.openFile path) (phases receiver))
    (hreply : SystemReplies processOf receiver (.openFile path) system (.ok inode) next) :
    ((evidenceDiscipline ε).after (.openFile path) (.ok inode) (phases receiver).2).Holds
      next.server.published next.inbox.directory (phases receiver).1 := by
  have hkept := h.evidence_kept hpermits hreply (fun _ heq => by cases heq)
  have hund := h.undisturbed hpermits hreply
  obtain ⟨fault, world, hrespond, _⟩ := hreply.1.exists_choice rfl
  have hinode : system.inbox.directory.inodeOf path = some inode := openFile_ok hrespond
  cases hevidence : (phases receiver).2 with
  | refused source name =>
      show (if path = source then Evidence.opened source name inode else .nothing).Holds _ _ _
      rw [hevidence] at hkept
      obtain ⟨file, hclosing, hname⟩ := hkept
      have hclosing' : (phases receiver).1 = .closing source file := hclosing
      split_ifs with hpath
      · subst hpath
        have hnamed := h.owned.named receiver path file (by rw [hclosing']; rfl)
        rw [hnamed, Option.some.injEq] at hinode
        subst hinode
        exact ⟨hclosing', hname⟩
      · trivial
  | opened source name left =>
      show (if path = name then Evidence.comparing source name left inode [] else
        .nothing).Holds _ _ _
      rw [hevidence] at hkept
      obtain ⟨hclosing, hname⟩ := hkept
      split_ifs with hpath
      · subst hpath
        intro hlasting
        exact ⟨hclosing, hname, hund.inodeOf path inode hlasting hinode, List.nil_prefix,
          List.nil_prefix⟩
      · trivial
  | nothing | comparing _ _ _ _ _ | halfway _ _ _ _ _ _ | stored _ =>
      rw [hevidence] at hkept
      exact hkept

/-- A chunk that is read continues the comparison, or ends it at the ends of both files. -/
theorem Delivering.read {file position length : Nat} {chunk : List UInt8}
    (h : Delivering first phases system)
    (hpermits : (deliveryDiscipline ε).permits (.read file position length) (phases receiver))
    (hreply : SystemReplies processOf receiver (.read file position length) system (.ok chunk)
      next) :
    ((evidenceDiscipline ε).after (.read file position length) (.ok chunk)
      (phases receiver).2).Holds next.server.published next.inbox.directory
        (phases receiver).1 := by
  have hkept := h.evidence_kept hpermits hreply (fun _ heq => by cases heq)
  obtain ⟨choice, world, hrespond, hnext⟩ := hreply.1.exists_choice rfl
  obtain ⟨more, hchunk⟩ := read_ok hrespond
  -- A read changes nothing.
  have hsame : next.inbox.directory = system.inbox.directory := by
    have hlooks := @respond_looks ε (.read file position length) rfl choice
      (system.inbox.view processOf receiver)
    rw [hrespond] at hlooks
    rw [hnext]
    exact congrArg World.directory hlooks
  rw [hsame] at hkept ⊢
  have hchunk' : chunk =
      World.chunk (system.inbox.directory.file file).bytes position length more := hchunk
  cases hevidence : (phases receiver).2 with
  | comparing source name left right seen =>
      show (if file = left ∧ position = seen.length ∧ length = bufferLength then
        Evidence.halfway source name left right seen chunk else .nothing).Holds _ _ _
      rw [hevidence] at hkept
      split_ifs with hread
      · intro hlasting
        obtain ⟨hclosing, hname, hright, hleftSeen, hrightSeen⟩ := hkept hlasting
        obtain ⟨rfl, rfl, rfl⟩ := hread
        subst hchunk'
        exact ⟨hclosing, hname, hright, append_chunk_prefix hleftSeen, hrightSeen,
          eq_of_chunk_eq_nil hleftSeen⟩
      · trivial
  | halfway source name left right seen earlier =>
      show (if file = right ∧ position = seen.length ∧ length = bufferLength then
        Evidence.compared source name left right seen earlier chunk else .nothing).Holds _ _ _
      rw [hevidence] at hkept
      split_ifs with hread
      · obtain ⟨rfl, rfl, rfl⟩ := hread
        unfold Evidence.compared
        split_ifs with hdiffers hempty
        · trivial
        · -- Both files end behind what has been read of either.
          intro hlasting
          obtain ⟨hclosing, hname, hright, hleftSeen, hrightSeen, hended⟩ := hkept hlasting
          obtain rfl := not_not.1 hdiffers
          have hleftEnd := hended hempty
          have hrightEnd := eq_of_chunk_eq_nil hrightSeen (hchunk'.symm.trans hempty)
          refine ⟨_, hname, ?_⟩
          rw [Directory.read_eq_inodeOf, hright, Option.map_some, hrightEnd, hleftEnd]
        · intro hlasting
          obtain ⟨hclosing, hname, hright, hleftSeen, hrightSeen, hended⟩ := hkept hlasting
          obtain rfl := not_not.1 hdiffers
          refine ⟨hclosing, hname, hright, hleftSeen, ?_⟩
          rw [hchunk']
          exact append_chunk_prefix hrightSeen
      · trivial
  | nothing | refused _ _ | opened _ _ _ | stored _ =>
      rw [hevidence] at hkept
      exact hkept

/-- After every reply the evidence is true. -/
theorem Delivering.evidence_reply (h : Delivering first phases system)
    (hpermits : (deliveryDiscipline ε).permits op (phases receiver))
    (hreply : SystemReplies processOf receiver op system reply next) :
    ((evidenceDiscipline ε).after op reply (phases receiver).2).Holds next.server.published
      next.inbox.directory ((receiverDiscipline ε).after op reply (phases receiver).1) := by
  cases op with
  | removeFile path => trivial
  | hardLink source name =>
      rcases reply with (_ | _ | code) | _
      · exact h.refused hpermits hreply
      · trivial
      · trivial
      · obtain ⟨content, hpublished, _, hread⟩ := h.linked hpermits hreply
        exact fun _ => ⟨content, by rw [hreply.2.1.published]; exact hpublished, hread⟩
  | openFile path =>
      cases reply with
      | error error =>
          have hkept := h.evidence_kept hpermits hreply (fun _ heq => by cases heq)
          cases hevidence : (phases receiver).2 <;> rw [hevidence] at hkept <;> exact hkept
      | ok inode => exact h.opened hpermits hreply
  | read file position length =>
      cases reply with
      | error error =>
          have hkept := h.evidence_kept hpermits hreply (fun _ heq => by cases heq)
          cases hevidence : (phases receiver).2 <;> rw [hevidence] at hkept <;> exact hkept
      | ok chunk => exact h.read hpermits hreply
  | _ => exact h.evidence_kept hpermits hreply (fun _ heq => by cases heq)

/-! ## Steps of the handover -/

/-- A reply to a call that touches no lasting name leaves the handover alone. -/
theorem handover_of_touched (hserver : next.server = system.server)
    (htouched : ∀ name, touched op = some name → IsIncomingName name)
    (hreply : SystemReplies processOf receiver op system reply next) :
    next.handover = system.handover :=
  handover_eq hserver fun name hname =>
    read_reply (fun heq => hname (htouched name heq)) hreply.1

/-- A publication under a lasting name stores the item. -/
theorem Delivering.handover_linked {source name : String} (h : Delivering first phases system)
    (hpermits : (deliveryDiscipline ε).permits (.hardLink source name) (phases receiver))
    (hreply : SystemReplies processOf receiver (.hardLink source name) system (.ok ()) next) :
    Handover.Run system.handover next.handover := by
  have hserver : next.server = system.server := hreply.2.1
  by_cases hname : IsIncomingName name
  · rw [handover_of_touched hserver (fun other heq => ?_) hreply]
    cases heq
    exact hname
  obtain ⟨content, hpublished, hfree, hread⟩ := h.linked hpermits hreply
  have hdirectory : ∀ other, next.inbox.directory.read other =
      Function.update system.inbox.directory.read name (some content) other := by
    intro other
    by_cases hother : other = name
    · rw [hother, Function.update_self, hread]
    · rw [Function.update_of_ne hother]
      refine read_reply (fun heq => ?_) hreply.1
      cases heq
      exact hother rfl
  have hnext : next.handover = system.handover.store name content := by
    unfold System.handover Handover.store
    rw [hserver, lasting_congr fun other _ => hdirectory other, lasting_update hname]
  have hitem : content ∈ system.handover.published name := by
    rw [handover_published hname]
    exact hpublished
  rw [hnext]
  exact .single (.store hitem ((handover_stored hname).trans hfree))

/-- A deletion withdraws an item that is stored, or it fails. -/
theorem Delivering.handover_deleted {object : RemoteObject} {reply : Except ε Unit}
    (h : Delivering first phases system)
    (hpermits : (deliveryDiscipline ε).permits (.delete object) (phases receiver))
    (hreply : SystemReplies processOf receiver (.delete object) system reply next) :
    Handover.Run system.handover next.handover := by
  have hread : ∀ name, next.inbox.directory.read name = system.inbox.directory.read name :=
    fun name => read_reply (fun heq => by cases heq) hreply.1
  rcases hreply.2.1.2 with hremoved | ⟨_, hsame⟩
  · have hoffered : next.handover = { system.handover with
        offered := lasting none (Function.update system.server.offered object.name none) } := by
      unfold System.handover
      rw [hremoved, lasting_congr fun name _ => hread name]
      rfl
    by_cases hname : IsIncomingName object.name
    · rw [hoffered, lasting_update_incoming hname]
      exact .refl
    · have hevidence := h.evidence receiver
      rw [show (phases receiver).2 = .stored object.name from hpermits.2] at hevidence
      obtain ⟨content, hpublished, hstored⟩ := hevidence hname
      have hnext : next.handover = system.handover.withdraw object.name := by
        rw [hoffered, lasting_update hname]
        rfl
      have hitem : content ∈ system.handover.published object.name := by
        rw [handover_published hname]
        exact hpublished
      rw [hnext]
      exact .single (.withdraw hitem ((handover_stored hname).trans hstored))
  · rw [handover_eq hsame fun name _ => hread name]

/-- Each reply is a step of the handover, or leaves it alone. -/
theorem Delivering.handover_reply (h : Delivering first phases system)
    (hpermits : (deliveryDiscipline ε).permits op (phases receiver))
    (hreply : SystemReplies processOf receiver op system reply next) :
    Handover.Run system.handover next.handover := by
  have hsame : next.server = system.server →
      (∀ name, touched op = some name → IsIncomingName name) →
      Handover.Run system.handover next.handover := by
    intro hserver htouched
    rw [handover_of_touched hserver htouched hreply]
  cases op with
  | delete object => exact h.handover_deleted hpermits hreply
  | hardLink source name =>
      cases reply with
      | ok value => exact h.handover_linked hpermits hreply
      | error error =>
          obtain ⟨fault, world, hrespond, hnext⟩ := hreply.1.exists_choice rfl
          have hworld := hardLink_error hrespond
          rw [handover_eq hreply.2.1 fun other _ => by rw [hnext, hworld]; rfl]
  | download object file => exact hsame hreply.2.1.1 fun name heq => by cases heq
  | createNew path =>
      refine hsame hreply.2.1 fun name heq => ?_
      cases heq
      exact hpermits.2
  | removeFile path =>
      refine hsame hreply.2.1 fun name heq => ?_
      cases heq
      obtain ⟨file, hfilled⟩ := hpermits.1
      exact h.temporary receiver path file (Phase.holds_of_filled hfilled)
  | _ => exact hsame hreply.2.1 fun name heq => by cases heq

/-! ## The invariant -/

/-- One component of the phases after one receiver has changed its own. -/
theorem component_update {φ ψ γ : Type} (component : φ × ψ → γ) (phases : ι → φ × ψ)
    (receiver : ι) (phase : φ × ψ) :
    (fun other => component (Function.update phases receiver phase other)) =
      Function.update (fun other => component (phases other)) receiver (component phase) := by
  funext other
  by_cases hother : other = receiver
  · rw [hother, Function.update_self, Function.update_self]
  · rw [Function.update_of_ne hother, Function.update_of_ne hother]

/-- What holds of every receiver holds after one has changed its phase if it holds of that one. -/
theorem forall_update {φ : Type} (property : ι → φ → Prop) {phases : ι → φ} {phase : φ}
    (hself : property receiver phase) (hothers : ∀ other ≠ receiver, property other (phases other))
    (other : ι) : property other (Function.update phases receiver phase other) := by
  by_cases hother : other = receiver
  · rw [hother, Function.update_self]
    exact hself
  · rw [Function.update_of_ne hother]
    exact hothers other hother

/-- After every reply. -/
theorem Delivering.replied (h : Delivering first phases system)
    (hpermits : (deliveryDiscipline ε).permits op (phases receiver))
    (hreply : SystemReplies processOf receiver op system reply next) :
    Delivering first (Function.update phases receiver
      ((deliveryDiscipline ε).after op reply (phases receiver))) next := by
  have hund := h.undisturbed hpermits hreply
  have hpublished := hreply.2.1.published
  refine ⟨?_, ?_, ?_, ?_, ?_, h.reached.trans (h.handover_reply hpermits hreply)⟩
  · rw [component_update Prod.fst]
    exact ((owned_invariant processOf _).reply _ _ _ _ _ _ h.owned hpermits.1 hreply.1).2
  · refine forall_update (fun _ (phase : Phase × Evidence) => ∀ path file,
      phase.1.holds = some (path, file) → IsIncomingName path) (fun path file hown => ?_)
      fun other _ => h.temporary other
    rcases holds_after hown with hearlier | hcreate
    · exact h.temporary receiver path file hearlier
    · subst hcreate
      exact hpermits.2
  · rw [hpublished, hreply.2.2]
    refine forall_update (fun other (phase : Phase × Evidence) => Opened system.server.published
      (Function.update system.opened receiver none other) phase.1) ?_ fun other hother => ?_
    · -- No version is open once the call has returned.
      intro content hopened
      rw [Function.update_self] at hopened
      cases hopened
    · rw [Function.update_of_ne hother]
      exact h.opening other
  · refine forall_update (fun _ (phase : Phase × Evidence) =>
      Authentic next.server.published next.inbox.directory phase.1)
      (h.authentic_reply hpermits hreply) fun other _ => ?_
    rw [hpublished]
    exact (h.authentic other).mono
      (fun path file hown => hund.bytes file (h.holds_lt (Phase.holds_of_unpublished hown)))
      fun _ => List.Subset.refl _
  · refine forall_update (fun _ (phase : Phase × Evidence) =>
      phase.2.Holds next.server.published next.inbox.directory phase.1)
      (h.evidence_reply hpermits hreply) fun other _ => ?_
    rw [hpublished]
    exact (h.evidence other).mono (fun _ _ hclosing => hclosing) hund
      (fun source file hclosing => @Delivering.holds_lt _ _ _ _ _ _ h source file
        (by rw [hclosing]; rfl)) fun _ => List.Subset.refl _

/-- While a download is pending it opens a published version. -/
theorem Delivering.opens {object : RemoteObject} {file : Nat} {content : List UInt8}
    (h : Delivering first phases system)
    (hpermits : (deliveryDiscipline ε).permits (.download object file) (phases receiver))
    (hcontent : content ∈ system.server.published object.name) :
    Delivering first phases
      { system with opened := Function.update system.opened receiver (some content) } := by
  refine ⟨h.owned, h.temporary, fun other => ?_, h.authentic, h.evidence, h.reached⟩
  by_cases hother : other = receiver
  · subst hother
    intro found hfound
    have hsame : content = found :=
      Option.some.inj ((Function.update_self other _ system.opened).symm.trans hfound)
    subst hsame
    obtain ⟨hbase, -⟩ := hpermits
    cases hphase : (phases other).1 with
    | created object' path file' =>
        simp only [hphase] at hbase
        obtain ⟨rfl, rfl⟩ := hbase
        exact ⟨object, path, file, rfl, hcontent⟩
    | _ =>
        simp only [hphase] at hbase
        exact hbase.elim
  · show Opened _ (Function.update system.opened receiver (some content) other) _
    rw [Function.update_of_ne hother]
    exact h.opening other

/-- While a download is pending it writes to its temporary file. -/
theorem Delivering.writes {inbox : SharedInbox ι ε} (h : Delivering first phases system)
    (hpermits : (deliveryDiscipline ε).permits op (phases receiver))
    (hinbox : InboxWork receiver op system.inbox inbox) :
    Delivering first phases { system with inbox } := by
  have howned := h.owned.work hpermits.1 hinbox
  cases op with
  | download object file =>
      obtain ⟨bytes, hwrite⟩ := hinbox
      obtain ⟨hbase, -⟩ := hpermits
      cases hphase : (phases receiver).1 with
      | created object' path file' =>
          simp only [hphase] at hbase
          obtain ⟨rfl, rfl⟩ := hbase
          have hown : (phases receiver).1.unpublished = some (path, file) := by
            rw [hphase]
            rfl
          have hpath := h.temporary receiver path file (Phase.holds_of_unpublished hown)
          have hund := undisturbed_write h.owned hown hpath bytes
          rw [← hwrite] at hund
          refine ⟨howned, h.temporary, h.opening, fun other => ?_, fun other => ?_, ?_⟩
          · by_cases hother : other = receiver
            · -- The receiver itself does not know yet what it downloads.
              rw [hother, hphase]
              trivial
            · refine (h.authentic other).mono (fun source left hleft => ?_)
                fun _ => List.Subset.refl _
              exact hund.bytes left
                (ne_of_holds h.owned hown (Phase.holds_of_unpublished hleft) hother)
          · refine (h.evidence other).mono (fun _ _ hclosing => hclosing) hund
              (fun source left hclosing => ?_) fun _ => List.Subset.refl _
            by_cases hother : other = receiver
            · rw [hother, hphase] at hclosing
              cases hclosing
            · exact ne_of_holds h.owned hown (by rw [hclosing]; rfl) hother
          · have hread : ∀ name, ¬ IsIncomingName name →
                inbox.directory.read name = system.inbox.directory.read name := by
              intro name hname
              rw [hwrite]
              refine Directory.read_append_of_ne (fun found hfound hinode => ?_) bytes
              have hnamed : system.inbox.directory.inodeOf name = some file := by
                rw [Directory.inodeOf, hfound, Option.map_some, hinode]
              exact hname (h.owned.sole receiver path file name hown hnamed ▸ hpath)
            have hsame : ({ system with inbox } : System ι ε).handover = system.handover :=
              handover_eq rfl hread
            rw [hsame]
            exact h.reached
      | _ =>
          simp only [hphase] at hbase
          exact hbase.elim
  | _ => exact hinbox.elim

/-- While a call is pending. -/
theorem Delivering.work (h : Delivering first phases system)
    (hpermits : (deliveryDiscipline ε).permits op (phases receiver))
    (hwork : (systemRules processOf).pending receiver op system next) :
    Delivering first phases next := by
  cases hwork with
  | opens hclosed hoffered => exact h.opens hpermits (system.server.offers _ _ hoffered)
  | writes hinbox => exact h.writes hpermits hinbox

/-- A receiver that is at rest knows nothing. -/
theorem Delivering.rest (h : Delivering first phases system) {phase : Phase × Evidence}
    (hresting : (deliveryDiscipline ε).resting (phases receiver))
    (hphase : (deliveryDiscipline ε).resting phase) :
    Delivering first (Function.update phases receiver phase) system := by
  obtain ⟨hholds, hnothing⟩ := hphase
  refine ⟨?_, ?_, ?_, ?_, ?_, h.reached⟩
  · rw [component_update Prod.fst]
    exact h.owned.rest phase.1 hresting.1 hholds
  · refine forall_update (fun _ (phase : Phase × Evidence) => ∀ path file,
      phase.1.holds = some (path, file) → IsIncomingName path) (fun path file hown => ?_)
      fun other _ => h.temporary other
    cases hholds.symm.trans hown
  · refine forall_update (fun other (phase : Phase × Evidence) =>
      Opened system.server.published (system.opened other) phase.1) (fun content hopened => ?_)
      fun other _ => h.opening other
    -- A receiver that is at rest has nothing open.
    obtain ⟨object, path, file, hcreated, -⟩ := h.opening receiver content hopened
    have hheld := hresting.1
    rw [hcreated] at hheld
    cases hheld
  · refine forall_update (fun _ (phase : Phase × Evidence) =>
      Authentic system.server.published system.inbox.directory phase.1) ?_
      fun other _ => h.authentic other
    cases hphase : phase.1 with
    | resting | receiving _ | created _ _ _ | closing _ _ => trivial
    | downloaded _ _ _ | measured _ _ _ _ =>
        rw [hphase] at hholds
        cases hholds
  · refine forall_update (fun _ (phase : Phase × Evidence) =>
      phase.2.Holds system.server.published system.inbox.directory phase.1) ?_
      fun other _ => h.evidence other
    rw [show phase.2 = .nothing from hnothing]
    trivial

/-- The receivers keep the invariant. -/
theorem delivering_invariant (processOf : ι → UInt32)
    (first : Handover String (List UInt8)) :
    Invariant (systemRules processOf) (deliveryDiscipline ε) (fun _ _ _ => True)
      (Delivering first) :=
  ⟨fun _ _ _ _ h hresting hphase => h.rest hresting hphase,
    fun _ _ _ _ _ h hpermits hwork => h.work hpermits hwork,
    fun _ _ _ _ _ _ h hpermits hreply => ⟨trivial, h.replied hpermits hreply⟩⟩

omit [DecidableEq ι] in
/-- What the server puts into its directory is published, unless it has a temporary name. -/
theorem handover_put (name : String) (content : List UInt8) :
    Handover.Run system.handover
      ({ system with server := system.server.put name content } : System ι ε).handover := by
  have hput : ({ system with server := system.server.put name content } : System ι ε).handover =
      ⟨lasting [] (Function.update system.server.published name
          (system.server.published name ++ [content])),
        lasting none (Function.update system.server.offered name (some content)),
        system.handover.stored⟩ := rfl
  rw [hput]
  by_cases hname : IsIncomingName name
  · rw [lasting_update_incoming hname, lasting_update_incoming hname]
    exact .refl
  · rw [lasting_update hname, lasting_update hname, ← handover_published hname]
    exact .single (.publish name content)

omit [DecidableEq ι] in
/-- So do the server and the processes. -/
theorem delivering_ambient (first : Handover String (List UInt8)) :
    KeptBy (Ambient : System ι ε → System ι ε → Prop) (Delivering first) := by
  intro phases system next h hambient
  cases hambient with
  | restart processId =>
      have howned := h.owned
      exact ⟨⟨howned.named, howned.apart, howned.sole, howned.content, howned.kept, howned.free⟩,
        h.temporary, h.opening, h.authentic, h.evidence, h.reached⟩
  | publish name content =>
      have hpublished : ∀ other,
          system.server.published other ⊆ (system.server.put name content).published other := by
        intro other
        show _ ⊆ Function.update system.server.published name _ other
        by_cases hother : other = name
        · rw [hother, Function.update_self]
          exact List.subset_append_left _ _
        · rw [Function.update_of_ne hother]
          exact List.Subset.refl _
      refine ⟨h.owned, h.temporary, fun receiver => (h.opening receiver).mono hpublished,
        fun receiver => (h.authentic receiver).mono (fun _ _ _ => rfl) hpublished,
        fun receiver => ?_, h.reached.trans (handover_put name content)⟩
      exact @Evidence.Holds.mono _ _ _ (fun _ => True) _ _ _ _ (h.evidence receiver)
        (fun _ _ hclosing => hclosing)
        ⟨fun _ _ _ hinode => hinode, fun _ _ _ _ => trivial, fun _ _ => rfl⟩
        (fun _ _ _ => trivial) hpublished

/-- Receivers begin with a call of `receive`. -/
theorem system_begins (processOf : ι → UInt32) (receiver : ι)
    (program : Program (inboxSignature ε) (Except (ReceiveError ε) ReceiveOutcome))
    (h : (systemRules processOf).begins receiver program) :
    ∃ phase, (deliveryDiscipline ε).resting phase ∧
      (deliveryDiscipline ε).Follows program phase := by
  obtain ⟨fuel, object, rfl⟩ := h
  exact ⟨(.receiving object, .nothing), ⟨rfl, rfl⟩,
    (receive_follows fuel object).prod (receive_evident fuel object)⟩

omit [DecidableEq ι] in
/-- The invariant holds to begin with. -/
theorem Starts.orderly {threads : Receiving ι ε} (h : Starts threads) :
    Orderly (deliveryDiscipline ε) (Delivering threads.state.handover) threads
      fun _ => (.resting, .nothing) := by
  refine ⟨⟨?_, fun _ _ _ hown => (by cases hown), fun receiver content hopened => ?_,
    fun _ => trivial, fun _ => trivial, .refl⟩, fun receiver => ?_⟩
  · exact ⟨fun _ _ _ hown => (by cases hown), fun _ _ _ _ _ hown => (by cases hown),
      fun _ _ _ _ hown => (by cases hown), h.unwritten, fun _ _ hkeep => hkeep.elim,
      fun _ _ _ _ hown => (by cases hown)⟩
  · rw [h.unopened receiver] at hopened
    cases hopened
  · rw [h.idle receiver]
    exact ⟨rfl, rfl⟩

end TwEinvoice.Delivery
