import TwEinvoice.Delivery.Footprint
import TwEinvoice.Delivery.Handover
import TwEinvoice.Delivery.Server

/-!
# Receivers and the server they receive from

Receivers in any number of processes share an inbox and receive from one server, which nobody else
removes objects from. Processes may restart at any time: their receivers take no further step, their
temporary files stay, and their counters start again.
-/

namespace TwEinvoice.Delivery

open Concurrency Effects Storage Transport

variable {ε ι : Type} [DecidableEq ι]

/-- The receivers with their inbox, the server, and the version of its object that the pending
download of each receiver has opened. -/
structure System (ι ε : Type) where
  inbox : SharedInbox ι ε
  server : Server
  opened : ι → Option (List UInt8)

/-- The replies to the calls of one receiver. -/
def SystemReplies (processOf : ι → UInt32) (receiver : ι) :
    Environment (inboxSignature ε) (System ι ε) :=
  fun op system reply next =>
    InboxReplies processOf receiver op system.inbox reply next.inbox ∧
      ServerAnswers op (system.opened receiver) (system.inbox.written receiver) system.server reply
        next.server ∧
      next.opened = Function.update system.opened receiver none

/-- While a download is pending it opens the object that is in the server's directory then, and it
writes to its temporary file. -/
inductive SystemWork (receiver : ι) : InboxOp → System ι ε → System ι ε → Prop where
  | opens {system : System ι ε} {object file content} :
      system.opened receiver = none → system.server.offered object.name = some content →
      SystemWork receiver (.download object file) system
        { system with opened := Function.update system.opened receiver (some content) }
  | writes {system : System ι ε} {op inbox} :
      InboxWork receiver op system.inbox inbox →
      SystemWork receiver op system { system with inbox }

/-- Receivers call `receive` for any objects, any number of times. -/
def systemRules (processOf : ι → UInt32) :
    Rules ι (inboxSignature ε) (Except (ReceiveError ε) ReceiveOutcome) (System ι ε) where
  begins _ program := ∃ fuel object, program = (receive fuel object).run
  pending := SystemWork
  replies := SystemReplies processOf

omit [DecidableEq ι] in
/-- What happens beside the receivers: the server publishes, and a process restarts. -/
inductive Ambient : System ι ε → System ι ε → Prop where
  | publish {system : System ι ε} (name : String) (content : List UInt8) :
      Ambient system { system with server := system.server.put name content }
  | restart {system : System ι ε} (processId : UInt32) :
      Ambient system
        { system with
          inbox := { system.inbox with
            nextTempId := Function.update system.inbox.nextTempId processId 0 } }

/-- The threads of the receivers. -/
abbrev Receiving (ι ε : Type) :=
  Threads ι (inboxSignature ε) (Except (ReceiveError ε) ReceiveOutcome) (System ι ε)

/-- Any steps of receivers, processes and the server, in any order. -/
abbrev Delivers (processOf : ι → UInt32) : Receiving ι ε → Receiving ι ε → Prop :=
  OpenRun (systemRules processOf) Ambient

/-! ## What the system is for -/

section Lasting

variable {α : Type} {empty : α} {table table' : String → α} {name : String} {value : α}

open Classical in
/-- A table without its entries for temporary names. -/
noncomputable def lasting (empty : α) (table : String → α) (name : String) : α :=
  if IsIncomingName name then empty else table name

/-- A lasting name has its entry. -/
theorem lasting_eq (hname : ¬ IsIncomingName name) : lasting empty table name = table name :=
  if_neg hname

/-- A temporary name has no entry. -/
theorem lasting_of_incoming (hname : IsIncomingName name) : lasting empty table name = empty :=
  if_pos hname

/-- Only the entries for lasting names count. -/
theorem lasting_congr (h : ∀ name, ¬ IsIncomingName name → table name = table' name) :
    lasting empty table = lasting empty table' := by
  funext name
  by_cases hname : IsIncomingName name
  · rw [lasting_of_incoming hname, lasting_of_incoming hname]
  · rw [lasting_eq hname, lasting_eq hname, h name hname]

/-- An entry for a lasting name is updated. -/
theorem lasting_update (hname : ¬ IsIncomingName name) :
    lasting empty (Function.update table name value) =
      Function.update (lasting empty table) name value := by
  funext other
  by_cases hother : other = name
  · rw [hother, lasting_eq hname, Function.update_self, Function.update_self]
  · rw [Function.update_of_ne hother]
    by_cases hincoming : IsIncomingName other
    · rw [lasting_of_incoming hincoming, lasting_of_incoming hincoming]
    · rw [lasting_eq hincoming, lasting_eq hincoming, Function.update_of_ne hother]

/-- An update for a temporary name is not seen. -/
theorem lasting_update_incoming (hname : IsIncomingName name) :
    lasting empty (Function.update table name value) = lasting empty table := by
  refine lasting_congr fun other hother => Function.update_of_ne ?_ _ _
  rintro rfl
  exact hother hname

end Lasting

/-- Published objects are handed over to the inbox. Temporary files, and objects of the server with
names like theirs, are not part of it. -/
noncomputable def System.handover (system : System ι ε) : Handover String (List UInt8) where
  published := lasting [] system.server.published
  offered := lasting none system.server.offered
  stored := lasting none system.inbox.directory.read

section Handover

variable {system next : System ι ε} {name : String}

omit [DecidableEq ι]

@[simp]
theorem handover_published (hname : ¬ IsIncomingName name) :
    system.handover.published name = system.server.published name := lasting_eq hname

@[simp]
theorem handover_offered (hname : ¬ IsIncomingName name) :
    system.handover.offered name = system.server.offered name := lasting_eq hname

@[simp]
theorem handover_stored (hname : ¬ IsIncomingName name) :
    system.handover.stored name = system.inbox.directory.read name := lasting_eq hname

/-- The handover only depends on the server and on what lasting names refer to. -/
theorem handover_eq (hserver : next.server = system.server)
    (hread : ∀ name, ¬ IsIncomingName name →
      next.inbox.directory.read name = system.inbox.directory.read name) :
    next.handover = system.handover := by
  unfold System.handover
  rw [hserver, lasting_congr hread]

end Handover

/-- Receivers that have not begun, with any inbox. What the server has published so far is not
lost. -/
structure Starts (threads : Receiving ι ε) : Prop where
  idle : ∀ receiver, threads.running receiver = none
  unwritten : ∀ receiver, threads.state.inbox.written receiver = []
  unopened : ∀ receiver, threads.state.opened receiver = none
  conserved : threads.state.handover.Conserved

end TwEinvoice.Delivery
