import TwEinvoice.Transport.SharedInbox

/-!
# Who owns what in a shared inbox

Each receiver owns the name of its temporary file, since `create_new` only takes a free name and
nobody else removes it, and it owns the file until it has published it. `Owned` says so of all
receivers at once, together with the bytes under the names that nobody owns any more and that
are to be kept. `owned_invariant` says that every step of every receiver preserves it.
-/

namespace TwEinvoice.Transport

open Concurrency Effects Storage

variable {ε ι : Type}

/-! ## Ownership -/

/-- What a receiver in the phase knows of its temporary file. -/
def Phase.Content (phase : Phase) (written : List UInt8) (remote : List (RemoteCall ε))
    (bytes : Nat → List UInt8) : Prop :=
  match phase with
  | .resting | .receiving _ | .closing .. => written = []
  | .created _ _ file => bytes file = written
  | .downloaded object _ file =>
      written = [] ∧ remote.getLast? = some (.download object (bytes file) (.ok ()))
  | .measured object _ file length =>
      written = [] ∧ remote.getLast? = some (.download object (bytes file) (.ok ())) ∧
        (bytes file).length = length

/-- The temporary file, until it is published. -/
def Phase.unpublished : Phase → Option (String × Nat)
  | .created _ path file | .downloaded _ path file | .measured _ path file _ => some (path, file)
  | .resting | .receiving _ | .closing .. => none

theorem Phase.holds_of_unpublished {phase : Phase} {own : String × Nat}
    (h : phase.unpublished = some own) : phase.holds = some own := by
  cases phase <;> first | exact h | cases h

/-- Between downloads nothing is written. -/
theorem Phase.Content.written {phase : Phase} {written : List UInt8}
    {remote : List (RemoteCall ε)} {bytes : Nat → List UInt8}
    (h : phase.Content written remote bytes) (hresting : phase.holds = none) : written = [] := by
  cases phase <;> first | exact h | cases hresting

theorem Phase.content_of_resting {phase : Phase} {remote : List (RemoteCall ε)}
    {bytes : Nat → List UInt8} (hresting : phase.holds = none) :
    phase.Content [] remote bytes := by
  cases phase <;> first | rfl | cases hresting

/-- What a receiver knows depends on its own temporary file only. -/
theorem Phase.Content.congr {phase : Phase} {written : List UInt8} {remote : List (RemoteCall ε)}
    {bytes bytes' : Nat → List UInt8} (h : phase.Content written remote bytes)
    (hbytes : ∀ path file, phase.unpublished = some (path, file) → bytes' file = bytes file) :
    phase.Content written remote bytes' := by
  cases phase with
  | resting => exact h
  | receiving object => exact h
  | closing path file => exact h
  | created object path file =>
      show bytes' file = written
      rw [hbytes path file rfl]
      exact h
  | downloaded object path file =>
      show _ ∧ remote.getLast? = some (.download object (bytes' file) (.ok ()))
      rw [hbytes path file rfl]
      exact h
  | measured object path file length =>
      show _ ∧ remote.getLast? = some (.download object (bytes' file) (.ok ())) ∧
        (bytes' file).length = length
      rw [hbytes path file rfl]
      exact h

/-- The names of the temporary files refer to them, they are distinct, an unpublished file has no
other name, and the receivers know what is in the files. The names that are to be kept have
their bytes, and none of them is a temporary name. -/
structure Owned (keep : String → List UInt8 → Prop) (phases : ι → Phase)
    (shared : SharedInbox ι ε) : Prop where
  named : ∀ receiver path file, (phases receiver).holds = some (path, file) →
    shared.directory.inodeOf path = some file
  apart : ∀ receiver other path file file', (phases receiver).holds = some (path, file) →
    (phases other).holds = some (path, file') → receiver = other
  sole : ∀ receiver path file name, (phases receiver).unpublished = some (path, file) →
    shared.directory.inodeOf name = some file → name = path
  content : ∀ receiver, (phases receiver).Content (shared.written receiver)
    (shared.remote receiver) fun inode => (shared.directory.file inode).bytes
  kept : ∀ name bytes, keep name bytes → shared.directory.read name = some bytes
  free : ∀ receiver path file bytes, (phases receiver).holds = some (path, file) →
    ¬ keep path bytes

namespace Owned

variable {keep : String → List UInt8 → Prop} {phases : ι → Phase} {shared next : SharedInbox ι ε}

/-- Nobody holds a free name. -/
theorem unheld (h : Owned keep phases shared) {path : String}
    (hpath : shared.directory.inodeOf path = none) (receiver : ι) (file : Nat) :
    (phases receiver).holds ≠ some (path, file) := by
  intro hown
  cases (h.named receiver path file hown).symm.trans hpath

/-- A new file is made under a free name. -/
theorem create (h : Owned keep phases shared) {path : String}
    (hpath : shared.directory.inodeOf path = none)
    (hdirectory : next.directory = shared.directory.create path)
    (hwritten : next.written = shared.written) (hremote : next.remote = shared.remote) :
    Owned keep phases next := by
  refine ⟨fun receiver name file hown => ?_, h.apart, fun receiver name file other hown hname => ?_,
    fun receiver => ?_, fun name bytes hkeep => ?_, h.free⟩
  · have hname := h.named receiver name file hown
    rw [hdirectory, Directory.inodeOf_create,
      Function.update_of_ne (Directory.ne_of_inodeOf hname hpath)]
    exact hname
  · have hfile := h.named receiver name file (Phase.holds_of_unpublished hown)
    rw [hdirectory, Directory.inodeOf_create] at hname
    by_cases heq : other = path
    · rw [heq, Function.update_self, Option.some.injEq] at hname
      exact absurd (Directory.inodeOf_lt hfile) (by omega)
    · rw [Function.update_of_ne heq] at hname
      exact h.sole receiver name file other hown hname
  · rw [hwritten, hremote]
    refine (h.content receiver).congr fun name file hown => ?_
    have hfile := h.named receiver name file (Phase.holds_of_unpublished hown)
    rw [hdirectory]
    exact congrArg File.bytes
      (Function.update_of_ne (Nat.ne_of_lt (Directory.inodeOf_lt hfile)) _ _)
  · have hread := h.kept name bytes hkeep
    rw [hdirectory, Directory.read_create_of_ne (Directory.ne_of_read hread hpath)]
    exact hread

/-- An existing file gets a second, free name once nobody has it unpublished. -/
theorem link (h : Owned keep phases shared) {source : Entry}
    {hsource : source.inode < shared.directory.next} {destination : String}
    (hdestination : shared.directory.inodeOf destination = none)
    (hpublished : ∀ receiver path, (phases receiver).unpublished ≠ some (path, source.inode))
    (hdirectory : next.directory = shared.directory.link source hsource destination)
    (hwritten : next.written = shared.written) (hremote : next.remote = shared.remote) :
    Owned keep phases next := by
  refine ⟨fun receiver name file hown => ?_, h.apart, fun receiver name file other hown hname => ?_,
    fun receiver => ?_, fun name bytes hkeep => ?_, h.free⟩
  · have hname := h.named receiver name file hown
    rw [hdirectory, Directory.inodeOf_link,
      Function.update_of_ne (Directory.ne_of_inodeOf hname hdestination)]
    exact hname
  · rw [hdirectory, Directory.inodeOf_link] at hname
    by_cases heq : other = destination
    · rw [heq, Function.update_self, Option.some.injEq] at hname
      subst hname
      exact absurd hown (hpublished receiver name)
    · rw [Function.update_of_ne heq] at hname
      exact h.sole receiver name file other hown hname
  · rw [hwritten, hremote, hdirectory]
    exact h.content receiver
  · have hread := h.kept name bytes hkeep
    rw [hdirectory, Directory.read_link_of_ne (Directory.ne_of_read hread hdestination)]
    exact hread

/-- A name that nobody holds and that is not to be kept is removed. -/
theorem remove (h : Owned keep phases shared) {path : String}
    (hunheld : ∀ receiver file, (phases receiver).holds ≠ some (path, file))
    (hkeep : ∀ bytes, ¬ keep path bytes)
    (hdirectory : next.directory = shared.directory.remove path)
    (hwritten : next.written = shared.written) (hremote : next.remote = shared.remote) :
    Owned keep phases next := by
  refine ⟨fun receiver name file hown => ?_, h.apart, fun receiver name file other hown hname => ?_,
    fun receiver => ?_, fun name bytes hkept => ?_, h.free⟩
  · have hname : name ≠ path := by
      rintro rfl
      exact hunheld receiver file hown
    rw [hdirectory, Directory.inodeOf_remove, Function.update_of_ne hname]
    exact h.named receiver name file hown
  · rw [hdirectory, Directory.inodeOf_remove] at hname
    by_cases heq : other = path
    · rw [heq, Function.update_self] at hname
      cases hname
    · rw [Function.update_of_ne heq] at hname
      exact h.sole receiver name file other hown hname
  · rw [hwritten, hremote, hdirectory]
    exact h.content receiver
  · have hname : name ≠ path := by
      rintro rfl
      exact hkeep bytes hkept
    rw [hdirectory, Directory.read_remove_of_ne hname]
    exact h.kept name bytes hkept

section Phases

variable [DecidableEq ι]

/-- Who has a temporary file after one receiver has changed its phase: which one a receiver has is
told by its phase alone. -/
theorem own_update (ownOf : Phase → Option (String × Nat)) {receiver other : ι} {phase : Phase}
    {own : String × Nat} (h : ownOf (Function.update phases receiver phase other) = some own) :
    other = receiver ∧ ownOf phase = some own ∨
      other ≠ receiver ∧ ownOf (phases other) = some own := by
  by_cases hother : other = receiver
  · rw [hother, Function.update_self] at h
    exact .inl ⟨hother, h⟩
  · rw [Function.update_of_ne hother] at h
    exact .inr ⟨hother, h⟩

/-- One receiver enters another phase, in which it holds what it held or nothing. -/
theorem advance (h : Owned keep phases shared) (receiver : ι) (phase : Phase)
    (hfiles : shared.directory.SameFiles next.directory)
    (hwritten : ∀ other ≠ receiver, next.written other = shared.written other)
    (hremote : ∀ other ≠ receiver, next.remote other = shared.remote other)
    (hholds : ∀ own, phase.holds = some own → (phases receiver).holds = some own)
    (hunpublished : ∀ own, phase.unpublished = some own →
      (phases receiver).unpublished = some own)
    (hcontent : phase.Content (next.written receiver) (next.remote receiver)
      fun inode => (shared.directory.file inode).bytes) :
    Owned keep (Function.update phases receiver phase) next := by
  have holder : ∀ other own, (Function.update phases receiver phase other).holds = some own →
      (phases other).holds = some own := by
    intro other own hown
    rcases own_update Phase.holds hown with ⟨rfl, hphase⟩ | ⟨_, hown⟩
    · exact hholds own hphase
    · exact hown
  refine ⟨fun other path file hown => ?_, fun other another path file file' hown hown' => ?_,
    fun other path file name hown hname => ?_, fun other => ?_, fun name bytes hkeep => ?_,
    fun other path file bytes hown => ?_⟩
  · rw [hfiles.inodeOf]
    exact h.named other path file (holder other _ hown)
  · exact h.apart other another path file file' (holder other _ hown) (holder another _ hown')
  · rw [hfiles.inodeOf] at hname
    rcases own_update Phase.unpublished hown with ⟨rfl, hphase⟩ | ⟨_, hown⟩
    · exact h.sole other path file name (hunpublished _ hphase) hname
    · exact h.sole other path file name hown hname
  · simp only [hfiles.bytes]
    by_cases hother : other = receiver
    · subst hother
      rw [Function.update_self]
      exact hcontent
    · rw [Function.update_of_ne hother, hwritten other hother, hremote other hother]
      exact h.content other
  · rw [hfiles.read]
    exact h.kept name bytes hkeep
  · exact h.free other path file bytes (holder other _ hown)

/-- The receiver that made it owns the new file. -/
theorem acquire (h : Owned keep phases shared) (receiver : ι) (object : RemoteObject)
    {path : String} {file : Nat} (hresting : (phases receiver).holds = none)
    (hpath : shared.directory.inodeOf path = some file)
    (hunheld : ∀ other file', (phases other).holds ≠ some (path, file'))
    (hsole : ∀ name, shared.directory.inodeOf name = some file → name = path)
    (hempty : (shared.directory.file file).bytes = []) (hkeep : ∀ bytes, ¬ keep path bytes) :
    Owned keep (Function.update phases receiver (.created object path file)) shared := by
  have hwritten : shared.written receiver = [] := (h.content receiver).written hresting
  refine ⟨fun other name file' hown => ?_, fun other another name file' file'' hown hown' => ?_,
    fun other name file' name' hown hname => ?_, fun other => ?_, h.kept,
    fun other name file' bytes hown => ?_⟩
  · rcases own_update Phase.holds hown with ⟨_, hown⟩ | ⟨_, hown⟩
    · cases hown
      exact hpath
    · exact h.named other name file' hown
  · -- Nobody else holds the new name.
    rcases own_update Phase.holds hown with ⟨hother, hown⟩ | ⟨_, hown⟩
    · rcases own_update Phase.holds hown' with ⟨hanother, _⟩ | ⟨_, hown'⟩
      · rw [hother, hanother]
      · cases hown
        exact absurd hown' (hunheld another file'')
    · rcases own_update Phase.holds hown' with ⟨_, hown'⟩ | ⟨_, hown'⟩
      · cases hown'
        exact absurd hown (hunheld other file')
      · exact h.apart other another name file' file'' hown hown'
  · rcases own_update Phase.unpublished hown with ⟨_, hown⟩ | ⟨_, hown⟩
    · cases hown
      exact hsole name' hname
    · exact h.sole other name file' name' hown hname
  · by_cases hother : other = receiver
    · rw [hother, Function.update_self, hwritten]
      exact hempty
    · rw [Function.update_of_ne hother]
      exact h.content other
  · rcases own_update Phase.holds hown with ⟨_, hown⟩ | ⟨_, hown⟩
    · cases hown
      exact hkeep bytes
    · exact h.free other name file' bytes hown

/-- The receiver that downloads to its temporary file writes to it. -/
theorem write (h : Owned keep phases shared) {receiver : ι} {object : RemoteObject}
    {path : String} {file : Nat} (hphase : phases receiver = .created object path file)
    (bytes : List UInt8) : Owned keep phases (shared.write receiver file bytes) := by
  have hown : (phases receiver).unpublished = some (path, file) := by rw [hphase]; rfl
  have hbytes : ∀ inode ≠ file, ((shared.directory.append file bytes).file inode).bytes =
      (shared.directory.file inode).bytes := fun inode hne =>
    congrArg File.bytes (Function.update_of_ne hne _ _)
  refine ⟨h.named, h.apart, h.sole, fun other => ?_, fun name kept hkeep => ?_, h.free⟩
  · by_cases hother : other = receiver
    · subst hother
      have hcontent := h.content other
      rw [hphase] at hcontent ⊢
      show ((shared.directory.append file bytes).file file).bytes =
        Function.update shared.written other (shared.written other ++ bytes) other
      rw [Function.update_self, ← hcontent]
      simp [Directory.append]
    · show (phases other).Content
        (Function.update shared.written receiver (shared.written receiver ++ bytes) other) _ _
      rw [Function.update_of_ne hother]
      refine (h.content other).congr fun name file' hown' => hbytes file' ?_
      -- Otherwise the file would have the names of two temporary files.
      rintro rfl
      have hname := h.named other name file' (Phase.holds_of_unpublished hown')
      have hsame := h.sole receiver path file' name hown hname
      subst hsame
      exact hother (h.apart other receiver name file' file' (Phase.holds_of_unpublished hown')
        (Phase.holds_of_unpublished hown))
  · have hread := h.kept name kept hkeep
    refine (Directory.read_append_of_ne (fun found hfound hinode => ?_) bytes).trans hread
    have hname : shared.directory.inodeOf name = some file := by
      rw [Directory.inodeOf, hfound, Option.map_some, hinode]
    have hsame := h.sole receiver path file name hown hname
    subst hsame
    exact h.free receiver name file kept (Phase.holds_of_unpublished hown) hkeep

/-- A receiver enters another phase after a call that leaves the files alone. -/
theorem absorb (h : Owned keep phases shared) (processOf : ι → UInt32) (receiver : ι)
    (phase : Phase) {world : World ε} (hfiles : shared.directory.SameFiles world.directory)
    (hholds : ∀ own, phase.holds = some own → (phases receiver).holds = some own)
    (hunpublished : ∀ own, phase.unpublished = some own →
      (phases receiver).unpublished = some own)
    (hcontent : phase.Content (shared.written receiver) world.remote
      fun inode => (shared.directory.file inode).bytes) :
    Owned keep (Function.update phases receiver phase)
      (shared.absorb processOf receiver world) := by
  refine h.advance receiver phase hfiles (fun _ _ => rfl) (fun other hother => ?_) hholds
    hunpublished ?_
  · exact Function.update_of_ne hother _ _
  · show phase.Content (shared.written receiver)
      (Function.update shared.remote receiver world.remote receiver) _
    rw [Function.update_self]
    exact hcontent

/-- A call that leaves the receiver's phase and the files alone. -/
theorem quiet (h : Owned keep phases shared) (processOf : ι → UInt32) (receiver : ι)
    {world : World ε} (hfiles : shared.directory.SameFiles world.directory)
    (hremote : world.remote = shared.remote receiver) :
    Owned keep (Function.update phases receiver (phases receiver))
      (shared.absorb processOf receiver world) := by
  refine h.absorb processOf receiver _ hfiles (fun _ hown => hown) (fun _ hown => hown) ?_
  rw [hremote]
  exact h.content receiver

end Phases

end Owned

/-! ## Every step keeps the ownership -/

/-- The call has published the name. -/
def Publishes (name : String) : (op : InboxOp) → (inboxSignature ε).Reply op → Prop
  | .hardLink _ destination, .ok _ => destination = name
  | _, _ => False

/-- The call has removed the name. -/
def Removes (name : String) : (op : InboxOp) → (inboxSignature ε).Reply op → Prop
  | .removeFile path, .ok _ => path = name
  | _, _ => False

/-- The call has neither published nor removed a name that is to be kept. -/
def Spares (keep : String → List UInt8 → Prop) (_ : ι) (op : InboxOp)
    (reply : (inboxSignature ε).Reply op) : Prop :=
  ∀ name bytes, keep name bytes → ¬ Publishes name op reply ∧ ¬ Removes name op reply

variable [DecidableEq ι] {keep : String → List UInt8 → Prop} {phases : ι → Phase}
variable {shared : SharedInbox ι ε} {processOf : ι → UInt32} {receiver : ι}

/-- Moving between phases without a file keeps the ownership. -/
theorem Owned.rest (h : Owned keep phases shared) (phase : Phase)
    (hresting : (phases receiver).holds = none) (hphase : phase.holds = none) :
    Owned keep (Function.update phases receiver phase) shared := by
  refine h.advance receiver phase (.refl _) (fun _ _ => rfl) (fun _ _ => rfl) ?_ ?_ ?_
  · intro own hown
    cases hphase.symm.trans hown
  · intro own hown
    cases hphase.symm.trans (Phase.holds_of_unpublished hown)
  · rw [(h.content receiver).written hresting]
    exact Phase.content_of_resting hphase

/-- While a download is pending. -/
theorem Owned.work {next : SharedInbox ι ε} {op : InboxOp} (h : Owned keep phases shared)
    (hpermits : (receiverDiscipline ε).permits op (phases receiver))
    (hwork : InboxWork receiver op shared next) : Owned keep phases next := by
  cases op with
  | download object file =>
      obtain ⟨bytes, rfl⟩ := hwork
      cases hphase : phases receiver with
      -- Only a receiver with a file of its own may download.
      | created object' path file' =>
          rw [hphase] at hpermits
          obtain ⟨rfl, rfl⟩ := hpermits
          exact h.write hphase bytes
      | _ =>
          rw [hphase] at hpermits
          exact hpermits.elim
  | _ => exact hwork.elim

/-- A download returns. -/
theorem Owned.finishDownload {object : RemoteObject} {file : Nat} (h : Owned keep phases shared)
    (hpermits : (receiverDiscipline ε).permits (.download object file) (phases receiver))
    (reply : Except ε Unit) :
    Owned keep (Function.update phases receiver
        ((receiverDiscipline ε).after (.download object file) reply (phases receiver)))
      (shared.finishDownload receiver object reply) := by
  cases hphase : phases receiver with
  | created object' path file' =>
      rw [hphase] at hpermits
      obtain ⟨rfl, rfl⟩ := hpermits
      have hcontent := h.content receiver
      rw [hphase] at hcontent
      have hothers : ∀ {γ : Type} (f : ι → γ) value, ∀ other ≠ receiver,
          Function.update f receiver value other = f other :=
        fun f value other hother => Function.update_of_ne hother _ _
      cases reply with
      | ok _ =>
          refine h.advance receiver (.downloaded object path file) (.refl _) (hothers _ _)
            (hothers _ _) ?_ ?_ ?_
          · rw [hphase]
            exact fun _ hown => hown
          · rw [hphase]
            exact fun _ hown => hown
          · show Function.update shared.written receiver [] receiver = [] ∧
              (Function.update shared.remote receiver _ receiver).getLast? = _
            rw [Function.update_self, Function.update_self, List.getLast?_concat]
            exact ⟨rfl, by rw [← hcontent]⟩
      | error error =>
          refine h.advance receiver (.closing path file) (.refl _) (hothers _ _)
            (hothers _ _) ?_ ?_ ?_
          · rw [hphase]
            exact fun _ hown => hown
          · exact fun _ hown => by cases hown
          · exact Function.update_self _ _ _
  | _ =>
      rw [hphase] at hpermits
      exact hpermits.elim

/-- A temporary file is created. -/
theorem Owned.created {object : RemoteObject} {path : String} (h : Owned keep phases shared)
    (hphase : phases receiver = .receiving object)
    (hfree : shared.directory.entry path = none) :
    Owned keep
      (Function.update phases receiver (.created object path shared.directory.next))
      (shared.absorb processOf receiver ((shared.view processOf receiver).withDirectory
        (shared.directory.create path))) := by
  have hpath : shared.directory.inodeOf path = none := Directory.inodeOf_eq_none.2 hfree
  have hsame : Owned keep (Function.update phases receiver (phases receiver))
      (shared.absorb processOf receiver (shared.view processOf receiver)) :=
    h.quiet processOf receiver (.refl _) rfl
  rw [Function.update_eq_self] at hsame
  have hcreated : Owned keep phases (shared.absorb processOf receiver
      ((shared.view processOf receiver).withDirectory (shared.directory.create path))) :=
    hsame.create hpath rfl rfl rfl
  have hinode : (shared.directory.create path).inodeOf =
      Function.update shared.directory.inodeOf path (some shared.directory.next) :=
    Directory.inodeOf_create _ _
  refine hcreated.acquire receiver object (by rw [hphase]; rfl) ?_ ?_ ?_ ?_ ?_
  · exact (congrFun hinode path).trans (Function.update_self _ _ _)
  · exact h.unheld hpath
  · intro name hname
    by_contra hne
    have hold : shared.directory.inodeOf name = some shared.directory.next :=
      (Function.update_of_ne hne _ _).symm.trans ((congrFun hinode name).symm.trans hname)
    exact Nat.lt_irrefl _ (Directory.inodeOf_lt hold)
  · show (Function.update shared.directory.file shared.directory.next ⟨[], false⟩
      shared.directory.next).bytes = []
    rw [Function.update_self]
  · exact fun bytes hkeep => Directory.ne_of_read (h.kept path bytes hkeep) hpath rfl

/-- A download is published, and nobody owns its file any more. -/
theorem Owned.linked {object : RemoteObject} {path destination : String} {file length : Nat}
    {found : Entry} (h : Owned keep phases shared)
    (hphase : phases receiver = .measured object path file length)
    (hfound : shared.directory.entry path = some found)
    (hsource : found.inode < shared.directory.next)
    (hfree : shared.directory.entry destination = none) :
    Owned keep (Function.update phases receiver (.closing path file))
      (shared.absorb processOf receiver ((shared.view processOf receiver).withDirectory
        (shared.directory.link found hsource destination))) := by
  have hown : (phases receiver).holds = some (path, file) := by rw [hphase]; rfl
  have hinode : found.inode = file := by
    have hnamed := h.named receiver path file hown
    rw [Directory.inodeOf, hfound, Option.map_some] at hnamed
    exact Option.some.inj hnamed
  have hcontent := h.content receiver
  rw [hphase] at hcontent
  have hclosing : Owned keep (Function.update phases receiver (.closing path file))
      (shared.absorb processOf receiver (shared.view processOf receiver)) := by
    refine h.absorb processOf receiver _ (.refl _) ?_ ?_ hcontent.1
    · rw [hown]
      exact fun own hclosed => hclosed
    · exact fun own hnone => by cases hnone
  refine @Owned.link _ _ _ _ _ _ hclosing found hsource destination
    (Directory.inodeOf_eq_none.2 hfree) ?_ rfl rfl rfl
  intro other name hother
  rcases Owned.own_update Phase.unpublished hother with ⟨_, hnone⟩ | ⟨heq, hother⟩
  · cases hnone
  · rw [hinode] at hother
    -- The file would have the names of two temporary files.
    have hsame := h.sole other name file path hother (h.named receiver path file hown)
    subst hsame
    exact heq (h.apart other receiver path file file (Phase.holds_of_unpublished hother) hown)

/-- What has been written is logged once the download has returned. -/
theorem Phase.Content.written_of_filled {phase : Phase} {written : List UInt8}
    {remote : List (RemoteCall ε)} {bytes : Nat → List UInt8} {own : String × Nat}
    (h : phase.Content written remote bytes) (hfilled : phase.filled = some own) :
    written = [] := by
  cases phase with
  | resting | receiving _ | created _ _ _ => cases hfilled
  | downloaded object path file => exact h.1
  | measured object path file length => exact h.1
  | closing path file => exact h

theorem Phase.holds_of_filled {phase : Phase} {own : String × Nat}
    (h : phase.filled = some own) : phase.holds = some own := by
  cases phase <;> first | exact h | cases h

/-- A receiver gives up its temporary file. -/
theorem Owned.release {path : String} {file : Nat} (h : Owned keep phases shared)
    (processOf : ι → UInt32) (hfilled : (phases receiver).filled = some (path, file)) :
    Owned keep (Function.update phases receiver .resting)
      (shared.absorb processOf receiver (shared.view processOf receiver)) := by
  refine h.absorb processOf receiver .resting (.refl _) ?_ ?_
    ((h.content receiver).written_of_filled hfilled)
  · exact fun own hnone => by cases hnone
  · exact fun own hnone => by cases hnone

/-- A temporary file is removed. -/
theorem Owned.removed {path : String} {file : Nat} (h : Owned keep phases shared)
    (hfilled : (phases receiver).filled = some (path, file)) :
    Owned keep (Function.update phases receiver .resting)
      (shared.absorb processOf receiver ((shared.view processOf receiver).withDirectory
        (shared.directory.remove path))) := by
  have hown := Phase.holds_of_filled hfilled
  refine (h.release processOf hfilled).remove (fun other file' hother => ?_)
    (fun bytes => h.free receiver path file bytes hown) rfl rfl rfl
  rcases Owned.own_update Phase.holds hother with ⟨_, hnone⟩ | ⟨heq, hother⟩
  · cases hnone
  · exact heq (h.apart other receiver path file' file hother hown)

/-- The call only reads the directory. -/
def InboxOp.looks : InboxOp → Bool
  | .flush _ | .metadata _ | .pathMetadata _ | .openFile _ | .read .. | .openDirectory => true
  | _ => false

/-- A call that only looks changes nothing. -/
theorem respond_looks {op : InboxOp} (hlooks : op.looks) (choice : World.Choice ε op)
    (world : World ε) : (World.respond op choice world).2 = world := by
  have hfault : ∀ {γ : Type} (fault : Fault) (result : Except IoError γ × World ε),
      result.2 = world → (world.unlessFault fault result).2 = world := by
    intro γ fault result hresult
    cases fault with
    | some code => rfl
    | none => exact hresult
  have hlookup : ∀ path reply, (world.lookup path reply).2 = world := by
    intro path reply
    unfold World.lookup
    split <;> rfl
  cases op with
  | flush | metadata | openDirectory => exact hfault choice _ rfl
  | read => exact hfault choice.1 _ rfl
  | pathMetadata path => exact hfault choice _ (hlookup path _)
  | openFile path => exact hfault choice _ (hlookup path _)
  | _ => cases hlooks

/-- A call that only reads and does not advance the receiver. -/
theorem Owned.looks {op : InboxOp} (h : Owned keep phases shared) (hlooks : op.looks)
    (choice : World.Choice ε op) :
    Owned keep (Function.update phases receiver (phases receiver))
      (shared.absorb processOf receiver
        (World.respond op choice (shared.view processOf receiver)).2) := by
  rw [respond_looks hlooks]
  exact h.quiet processOf receiver (.refl _) rfl

/-- The length of a temporary file is read. -/
theorem Owned.metadata {file : Nat} (h : Owned keep phases shared)
    (hpermits : (receiverDiscipline ε).permits (.metadata file) (phases receiver))
    (fault : Fault) :
    Owned keep (Function.update phases receiver ((receiverDiscipline ε).after (.metadata file)
        (World.respond (.metadata file) fault (shared.view processOf receiver)).1
        (phases receiver)))
      (shared.absorb processOf receiver
        (World.respond (.metadata file) fault (shared.view processOf receiver)).2) := by
  have hsame : Owned keep (Function.update phases receiver (phases receiver))
      (shared.absorb processOf receiver (shared.view processOf receiver)) :=
    h.quiet processOf receiver (.refl _) rfl
  cases hphase : phases receiver with
  | downloaded object path file' =>
      rw [hphase] at hpermits hsame
      subst hpermits
      cases fault with
      | some code => exact hsame
      | none =>
          have hcontent := h.content receiver
          rw [hphase] at hcontent
          refine h.absorb processOf receiver (.measured object path file _) (.refl _) ?_ ?_
            ⟨hcontent.1, hcontent.2, rfl⟩
          · rw [hphase]
            exact fun _ hown => hown
          · rw [hphase]
            exact fun _ hown => hown
  | _ =>
      rw [hphase] at hsame
      cases fault <;> exact hsame

/-- A name for a temporary file is tried. -/
theorem Owned.createNew {path : String} (h : Owned keep phases shared)
    (hpermits : (receiverDiscipline ε).permits (.createNew path) (phases receiver))
    (fault : Fault) :
    Owned keep (Function.update phases receiver ((receiverDiscipline ε).after (.createNew path)
        (World.respond (.createNew path) fault (shared.view processOf receiver)).1
        (phases receiver)))
      (shared.absorb processOf receiver
        (World.respond (.createNew path) fault (shared.view processOf receiver)).2) := by
  cases hphase : phases receiver with
  | receiving object =>
      have hsame : Owned keep (Function.update phases receiver (.receiving object))
          (shared.absorb processOf receiver (shared.view processOf receiver)) :=
        hphase ▸ h.quiet processOf receiver (.refl _) rfl
      cases fault with
      | some code => exact hsame
      | none =>
          cases hentry : shared.directory.entry path with
          | none =>
              have hrespond : World.respond (.createNew path) none
                  (shared.view processOf receiver) = (.ok shared.directory.next,
                    (shared.view processOf receiver).withDirectory
                      (shared.directory.create path)) := by
                simp [World.respond, World.unlessFault, World.createNew, SharedInbox.view, hentry]
              rw [hrespond]
              exact h.created hphase hentry
          | some found =>
              have hrespond : World.respond (.createNew path) none
                  (shared.view processOf receiver) =
                    (.error .alreadyExists, shared.view processOf receiver) := by
                simp [World.respond, World.unlessFault, World.createNew, SharedInbox.view, hentry]
              rw [hrespond]
              exact hsame
  | _ =>
      rw [hphase] at hpermits
      exact hpermits.elim

/-- A hard link publishes a free name, or it changes nothing. -/
theorem Owned.hardLink {source destination : String} (h : Owned keep phases shared)
    (hpermits : (receiverDiscipline ε).permits (.hardLink source destination) (phases receiver))
    (fault : Fault) :
    Spares keep receiver (.hardLink source destination)
        (World.respond (.hardLink source destination) fault (shared.view processOf receiver)).1 ∧
      Owned keep (Function.update phases receiver ((receiverDiscipline ε).after
          (.hardLink source destination)
          (World.respond (.hardLink source destination) fault
            (shared.view processOf receiver)).1 (phases receiver)))
        (shared.absorb processOf receiver (World.respond (.hardLink source destination) fault
          (shared.view processOf receiver)).2) := by
  cases hphase : phases receiver with
  | measured object path file length =>
      rw [hphase] at hpermits
      obtain ⟨rfl, hdestination, _, _⟩ := hpermits
      have hcontent := h.content receiver
      rw [hphase] at hcontent
      have hsame : Owned keep (Function.update phases receiver (.closing source file))
          (shared.absorb processOf receiver (shared.view processOf receiver)) := by
        refine h.absorb processOf receiver _ (.refl _) ?_ ?_ hcontent.1
        · rw [hphase]
          exact fun _ hown => hown
        · exact fun _ hown => by cases hown
      rcases @respond_hardLink _ (shared.view processOf receiver) fault source destination with
        ⟨code, hrespond⟩ | ⟨_, _, hrespond⟩
      · rw [hrespond]
        exact ⟨fun _ _ _ => ⟨id, id⟩, hsame⟩
      · have hnamed := h.named receiver source file (by rw [hphase]; rfl)
        obtain ⟨found, hfound, _⟩ := Option.map_eq_some_iff.1 hnamed
        rw [hrespond, @hardLink_eq _ (shared.view processOf receiver) _ _ _ hfound]
        split_ifs with hfree
        · refine ⟨fun name bytes hkeep => ⟨?_, id⟩, h.linked hphase hfound _ hfree⟩
          -- The name was free, so it was none of the names to be kept.
          rintro rfl
          have hread := h.kept _ bytes hkeep
          have hnone : shared.directory.read destination = none := Directory.read_eq_none.2 hfree
          cases hnone.symm.trans hread
        · exact ⟨fun _ _ _ => ⟨id, id⟩, hsame⟩
  | _ =>
      rw [hphase] at hpermits
      exact hpermits.elim

/-- A receiver removes its temporary file, or fails to. -/
theorem Owned.removeFile {path : String} (h : Owned keep phases shared)
    (hpermits : (receiverDiscipline ε).permits (.removeFile path) (phases receiver))
    (fault : Fault) :
    Spares keep receiver (.removeFile path)
        (World.respond (.removeFile path) fault (shared.view processOf receiver)).1 ∧
      Owned keep (Function.update phases receiver ((receiverDiscipline ε).after (.removeFile path)
          (World.respond (.removeFile path) fault (shared.view processOf receiver)).1
          (phases receiver)))
        (shared.absorb processOf receiver
          (World.respond (.removeFile path) fault (shared.view processOf receiver)).2) := by
  obtain ⟨file, hfilled⟩ := hpermits
  have hown := Phase.holds_of_filled hfilled
  cases fault with
  | some code => exact ⟨fun _ _ _ => ⟨id, id⟩, h.release processOf hfilled⟩
  | none =>
      obtain ⟨found, hfound, _⟩ := Option.map_eq_some_iff.1 (h.named receiver path file hown)
      have hrespond : World.respond (.removeFile path) none (shared.view processOf receiver) =
          (.ok (), (shared.view processOf receiver).withDirectory
            (shared.directory.remove path)) := by
        simp [World.respond, World.unlessFault, World.removeFile, SharedInbox.view, hfound]
      rw [hrespond]
      refine ⟨fun name bytes hkeep => ⟨id, ?_⟩, h.removed hfilled⟩
      rintro rfl
      exact h.free receiver _ file bytes hown hkeep

/-- A call other than a download is replied to. -/
theorem Owned.other {op : InboxOp} (h : Owned keep phases shared)
    (hpermits : (receiverDiscipline ε).permits op (phases receiver))
    (choice : World.Choice ε op) (hother : op.isDownload = false) :
    Spares keep receiver op (World.respond op choice (shared.view processOf receiver)).1 ∧
      Owned keep (Function.update phases receiver ((receiverDiscipline ε).after op
          (World.respond op choice (shared.view processOf receiver)).1 (phases receiver)))
        (shared.absorb processOf receiver
          (World.respond op choice (shared.view processOf receiver)).2) := by
  have hspares : ∀ name : String, ∀ bytes : List UInt8, keep name bytes →
      (False → False) ∧ (False → False) := fun _ _ _ => ⟨id, id⟩
  cases op with
  | download => cases hother
  | fetchAddTempId | processId => exact ⟨hspares, h.quiet processOf receiver (.refl _) rfl⟩
  | flush | pathMetadata | openFile | read | openDirectory => exact ⟨hspares, h.looks rfl choice⟩
  | metadata file => exact ⟨hspares, h.metadata hpermits choice⟩
  | createNew path => exact ⟨hspares, h.createNew hpermits choice⟩
  | hardLink source destination => exact h.hardLink hpermits choice
  | removeFile path => exact h.removeFile hpermits choice
  | syncAll file =>
      cases choice with
      | some code => exact ⟨hspares, h.quiet processOf receiver (.refl _) rfl⟩
      | none =>
          exact ⟨hspares, h.quiet processOf receiver (Directory.sameFiles_sync _ _) rfl⟩
  | syncDirectory =>
      cases choice with
      | some code => exact ⟨hspares, h.quiet processOf receiver (.refl _) rfl⟩
      | none =>
          exact ⟨hspares, h.quiet processOf receiver (Directory.sameFiles_syncEntries _) rfl⟩
  | delete object =>
      refine ⟨hspares, ?_⟩
      cases hphase : phases receiver with
      | closing path file =>
          have hcontent := h.content receiver
          rw [hphase] at hcontent
          refine h.absorb processOf receiver (.closing path file) (.refl _) ?_ ?_ hcontent
          · rw [hphase]
            exact fun _ hown => hown
          · rw [hphase]
            exact fun _ hown => hown
      | _ =>
          rw [hphase] at hpermits
          exact hpermits.elim

/-- The ownership is an invariant of the receivers, and they spare the names that are to be
kept. -/
theorem owned_invariant (processOf : ι → UInt32) (keep : String → List UInt8 → Prop) :
    Invariant (receivers processOf) (receiverDiscipline ε) (Spares keep) (Owned keep) := by
  refine ⟨fun phases shared receiver phase h hresting hphase => h.rest phase hresting hphase,
    fun phases shared receiver op next h hpermits hwork => h.work hpermits hwork, ?_⟩
  rintro phases shared receiver op reply next h hpermits hreply
  cases hreply with
  | download reply => exact ⟨fun _ _ _ => ⟨id, id⟩, h.finishDownload hpermits reply⟩
  | other choice hother => exact h.other hpermits choice hother

/-- Receivers begin with a call of `receive`. -/
theorem receivers_begin (processOf : ι → UInt32) (receiver : ι)
    (program : Program (inboxSignature ε) (Except (ReceiveError ε) ReceiveOutcome))
    (h : (receivers processOf).begins receiver program) :
    ∃ phase, (receiverDiscipline ε).resting phase ∧
      (receiverDiscipline ε).Follows program phase := by
  obtain ⟨fuel, object, rfl⟩ := h
  exact ⟨.receiving object, rfl, receive_follows fuel object⟩

end TwEinvoice.Transport
