import TwEinvoice.Transport.Receiver

/-!
# The server that objects are received from

The server puts objects into its `out` directory, under any names and in place of older versions of
them. A download that succeeds has written the version that it has opened. A deletion that succeeds
has removed the object; one that fails may have removed it too, since only the reply may have been
lost.
-/

namespace TwEinvoice.Delivery

open Effects Transport

variable {ε : Type}

/-- Every version that the server has published of an object, and the one that is in its directory
now. -/
structure Server where
  published : String → List (List UInt8)
  offered : String → Option (List UInt8)
  offers : ∀ name content, offered name = some content → content ∈ published name

namespace Server

/-- An object is removed. -/
def removed (server : Server) (name : String) : Server where
  published := server.published
  offered := Function.update server.offered name none
  offers other content h := by
    by_cases hother : other = name
    · rw [hother, Function.update_self] at h
      cases h
    · rw [Function.update_of_ne hother] at h
      exact server.offers other content h

/-- A version of an object is put into the directory. -/
def put (server : Server) (name : String) (content : List UInt8) : Server where
  published := Function.update server.published name (server.published name ++ [content])
  offered := Function.update server.offered name (some content)
  offers other found h := by
    by_cases hother : other = name
    · rw [hother, Function.update_self, Option.some.injEq] at h
      rw [hother, Function.update_self, h]
      exact List.mem_append_right _ List.mem_cons_self
    · rw [Function.update_of_ne hother] at h ⊢
      exact server.offers other found h

end Server

/-- How a remote call and its reply change the server, with the version that a download has opened
and what it has written. -/
def ServerAnswers (op : InboxOp) (opened : Option (List UInt8)) (written : List UInt8)
    (server : Server) (reply : (inboxSignature ε).Reply op) (next : Server) : Prop :=
  match op, reply with
  | .download .., reply => next = server ∧ (reply = .ok () → opened = some written)
  | .delete object, reply =>
      (reply = .ok () → server.offered object.name ≠ none) ∧
        (next = server.removed object.name ∨ reply ≠ .ok () ∧ next = server)
  | _, _ => next = server

/-- The calls of a receiver do not publish. -/
theorem ServerAnswers.published {op : InboxOp} {opened : Option (List UInt8)}
    {written : List UInt8} {server after : Server} {reply : (inboxSignature ε).Reply op}
    (h : ServerAnswers op opened written server reply after) :
    after.published = server.published := by
  cases op with
  | download object file => exact congrArg Server.published h.1
  | delete object =>
      rcases h.2 with heq | ⟨_, heq⟩
      · rw [heq]
        rfl
      · rw [heq]
  | _ => exact congrArg Server.published h

/-! ## A server that nothing goes wrong with -/

/-- The choice without a fault: the server serves what is in its directory. -/
def serving [Inhabited ε] (op : InboxOp) (server : Server) : World.Choice ε op :=
  match op with
  | .download object _ =>
      match server.offered object.name with
      | some content => (content, .ok ())
      | none => ([], .error default)
  | .delete object =>
      match server.offered object.name with
      | some _ => .ok ()
      | none => .error default
  | op => World.noFault op

/-- The server after a call that it has served. -/
def Server.after (server : Server) (op : InboxOp) : Server :=
  match op with
  | .delete object => server.removed object.name
  | _ => server

/-- A deletion is served as the server may answer it. -/
theorem serving_delete [Inhabited ε] (object : RemoteObject) (opened : Option (List UInt8))
    (written : List UInt8) (server : Server) :
    @ServerAnswers ε (.delete object) opened written server
      (serving (.delete object) server) (server.after (.delete object)) := by
  refine ⟨fun hok hnone => ?_, .inl rfl⟩
  simp only [serving, hnone] at hok
  cases hok

end TwEinvoice.Delivery
