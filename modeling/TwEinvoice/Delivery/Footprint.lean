import TwEinvoice.Delivery.Evidence
import TwEinvoice.Transport.InboxOwnership

/-!
# What the calls of a receiver leave alone

One call changes the entry of at most one name, a hard link none that is taken, and only a
download changes the bytes of a file that exists. With the ownership of the temporary files this
says what no step of any receiver disturbs: the files of the others, and every name that is not
temporary, with its bytes.
-/

namespace TwEinvoice.Delivery

open Concurrency Effects Storage Transport

variable {ε ι : Type}

/-! ## One call -/

/-- The name whose entry the call may change. -/
def touched : InboxOp → Option String
  | .createNew path | .hardLink _ path | .removeFile path => some path
  | _ => none

section Respond

variable {world : World ε} {op : InboxOp} {choice : World.Choice ε op}

/-- A fault changes nothing. -/
theorem unlessFault_world {α : Type} (fault : Fault) (result : Except IoError α × World ε) :
    (world.unlessFault fault result).2 = world ∨
      (world.unlessFault fault result).2 = result.2 := by
  cases fault with
  | some code => exact .inl rfl
  | none => exact .inr rfl

/-- What an operation leaves alone a fault leaves alone too. -/
theorem unlessFault_eq {α β : Type} (view : World ε → β) {fault : Fault}
    {result : Except IoError α × World ε} (h : view result.2 = view world) :
    view (world.unlessFault fault result).2 = view world := by
  rcases unlessFault_world fault result with heq | heq
  · rw [heq]
  · rw [heq, h]

/-- Creating a file leaves the other names alone. -/
theorem inodeOf_createNew {path name : String} (hname : name ≠ path) :
    (world.createNew path).2.directory.inodeOf name = world.directory.inodeOf name := by
  unfold World.createNew
  cases world.directory.entry path with
  | some found => rfl
  | none =>
      show (world.directory.create path).inodeOf name = _
      rw [Directory.inodeOf_create, Function.update_of_ne hname]

/-- Removing a file leaves the other names alone. -/
theorem inodeOf_removeFile {path name : String} (hname : name ≠ path) :
    (world.removeFile path).2.directory.inodeOf name = world.directory.inodeOf name := by
  unfold World.removeFile
  cases world.directory.entry path with
  | none => rfl
  | some found =>
      show (world.directory.remove path).inodeOf name = _
      rw [Directory.inodeOf_remove, Function.update_of_ne hname]

/-- A hard link leaves every name alone but a free destination. -/
theorem inodeOf_hardLink {source destination name : String}
    (hname : name ≠ destination ∨ world.directory.inodeOf name ≠ none) :
    (world.hardLink source destination).2.directory.inodeOf name =
      world.directory.inodeOf name := by
  cases hsource : world.directory.entry source with
  | none =>
      unfold World.hardLink
      split
      · rfl
      · next found hfound => cases hfound.symm.trans hsource
  | some found =>
      rw [hardLink_eq hsource]
      split_ifs with hfree
      · have hne : name ≠ destination := by
          rcases hname with hne | htaken
          · exact hne
          · intro heq
            rw [heq] at htaken
            exact htaken (Directory.inodeOf_eq_none.2 hfree)
        show (world.directory.link found (world.directory.entry_lt source found hsource)
          destination).inodeOf name = _
        rw [Directory.inodeOf_link, Function.update_of_ne hne]
      · rfl

/-- A call changes no entry but that of one name. -/
theorem inodeOf_respond {name : String} (hname : touched op ≠ some name) :
    (World.respond op choice world).2.directory.inodeOf name = world.directory.inodeOf name := by
  have hne : ∀ path, touched op = some path → name ≠ path := by
    intro path hpath heq
    exact hname (hpath.trans (congrArg some heq.symm))
  let view : World ε → Option Nat := fun world => world.directory.inodeOf name
  cases op with
  | fetchAddTempId | processId | download | delete => rfl
  | flush | metadata | openDirectory | read | pathMetadata | openFile =>
      exact congrArg view (respond_looks rfl choice world)
  | createNew path => exact unlessFault_eq view (inodeOf_createNew (hne path rfl))
  | removeFile path => exact unlessFault_eq view (inodeOf_removeFile (hne path rfl))
  | hardLink source destination =>
      exact unlessFault_eq view (inodeOf_hardLink (.inl (hne destination rfl)))
  | syncAll file =>
      exact unlessFault_eq view (congrFun (Directory.sameFiles_sync _ file).inodeOf name)
  | syncDirectory =>
      exact unlessFault_eq view (congrFun (Directory.sameFiles_syncEntries _).inodeOf name)

/-- Only a download changes the bytes of a file that exists. -/
theorem bytes_respond (hop : op.isDownload = false) {inode : Nat}
    (hinode : inode < world.directory.next) :
    ((World.respond op choice world).2.directory.file inode).bytes =
      (world.directory.file inode).bytes := by
  let view : World ε → List UInt8 := fun world => (world.directory.file inode).bytes
  cases op with
  | download => cases hop
  | fetchAddTempId | processId | delete => rfl
  | flush | metadata | openDirectory | read | pathMetadata | openFile =>
      exact congrArg view (respond_looks rfl choice world)
  | createNew path =>
      refine unlessFault_eq view ?_
      unfold World.createNew
      cases world.directory.entry path with
      | some found => rfl
      | none => exact congrArg File.bytes (Function.update_of_ne (Nat.ne_of_lt hinode) _ _)
  | removeFile path =>
      refine unlessFault_eq view ?_
      unfold World.removeFile
      cases world.directory.entry path <;> rfl
  | hardLink source destination =>
      refine unlessFault_eq view ?_
      unfold World.hardLink
      split
      · rfl
      · next found hfound => cases world.directory.entry destination <;> rfl
  | syncAll file => exact unlessFault_eq view ((Directory.sameFiles_sync _ file).bytes inode)
  | syncDirectory => exact unlessFault_eq view ((Directory.sameFiles_syncEntries _).bytes inode)

/-- What a call adds to the log of the remote calls. -/
def loggedCalls (op : InboxOp) (choice : World.Choice ε op) : List (RemoteCall ε) :=
  match op, choice with
  | .download object _, choice => [.download object choice.1 choice.2]
  | .delete object, choice => [.delete object choice]
  | _, _ => []

/-- A call changes the directory, the counter and the log of the remote calls. -/
theorem respond_parts : ∃ directory nextTempId, (World.respond op choice world).2 =
    ⟨directory, world.processId, nextTempId, world.remote ++ loggedCalls op choice⟩ := by
  have hnil : ∀ directory nextTempId, (⟨directory, world.processId, nextTempId,
      world.remote⟩ : World ε) = ⟨directory, world.processId, nextTempId, world.remote ++ []⟩ := by
    intro directory nextTempId
    rw [List.append_nil]
  have hlocal : ∀ {α : Type} (fault : Fault) (result : Except IoError α × World ε),
      (∃ directory, result.2 = world.withDirectory directory) →
      ∃ directory nextTempId, (world.unlessFault fault result).2 =
        ⟨directory, world.processId, nextTempId, world.remote ++ []⟩ := by
    intro α fault result hresult
    obtain ⟨directory, hdirectory⟩ := hresult
    rcases unlessFault_world fault result with heq | heq
    · exact ⟨world.directory, world.nextTempId, heq.trans (hnil _ _)⟩
    · exact ⟨directory, world.nextTempId, (heq.trans hdirectory).trans (hnil _ _)⟩
  cases op with
  | download object file => exact ⟨_, world.nextTempId, rfl⟩
  | delete object => exact ⟨world.directory, world.nextTempId, rfl⟩
  | fetchAddTempId => exact ⟨world.directory, _, hnil _ _⟩
  | processId => exact ⟨world.directory, world.nextTempId, hnil _ _⟩
  | flush | metadata | openDirectory | read | pathMetadata | openFile =>
      exact ⟨_, _, (respond_looks rfl choice world).trans (hnil _ _)⟩
  | syncAll file => exact hlocal _ _ ⟨_, rfl⟩
  | syncDirectory => exact hlocal _ _ ⟨_, rfl⟩
  | createNew path =>
      refine hlocal _ _ ?_
      unfold World.createNew
      cases world.directory.entry path with
      | some found => exact ⟨world.directory, rfl⟩
      | none => exact ⟨_, rfl⟩
  | removeFile path =>
      refine hlocal _ _ ?_
      unfold World.removeFile
      cases world.directory.entry path with
      | some found => exact ⟨_, rfl⟩
      | none => exact ⟨world.directory, rfl⟩
  | hardLink source destination =>
      refine hlocal _ _ ?_
      unfold World.hardLink
      split
      · exact ⟨world.directory, rfl⟩
      · next found hfound =>
          cases world.directory.entry destination with
          | some taken => exact ⟨world.directory, rfl⟩
          | none => exact ⟨_, rfl⟩

/-- A process keeps its ID. -/
theorem processId_respond : (World.respond op choice world).2.processId = world.processId := by
  obtain ⟨_, _, hparts⟩ := @respond_parts ε world op choice
  rw [hparts]

/-- The log of the remote calls only grows. -/
theorem remote_respond :
    (World.respond op choice world).2.remote = world.remote ++ loggedCalls op choice := by
  obtain ⟨_, _, hparts⟩ := @respond_parts ε world op choice
  rw [hparts]

end Respond

/-! ## One step -/

/-- The names that are not temporary keep their files, and the files that are spared, which
include these, keep their bytes. -/
structure Undisturbed (spared : Nat → Prop) (directory next : Directory) : Prop where
  inodeOf : ∀ name inode, ¬ IsIncomingName name → directory.inodeOf name = some inode →
    next.inodeOf name = some inode
  lasting : ∀ name inode, ¬ IsIncomingName name → directory.inodeOf name = some inode →
    spared inode
  bytes : ∀ inode, spared inode → (next.file inode).bytes = (directory.file inode).bytes

/-- What a lasting name refers to is still read. -/
theorem Undisturbed.read {spared : Nat → Prop} {directory next : Directory}
    (h : Undisturbed spared directory next) {name : String} (hname : ¬ IsIncomingName name)
    {content : List UInt8} (hread : directory.read name = some content) :
    next.read name = some content := by
  rw [Directory.read_eq_inodeOf] at hread ⊢
  obtain ⟨inode, hinode, hbytes⟩ := Option.map_eq_some_iff.1 hread
  rw [h.inodeOf name inode hname hinode, Option.map_some,
    h.bytes inode (h.lasting name inode hname hinode), hbytes]

section Shared

variable [DecidableEq ι] {keep : String → List UInt8 → Prop} {phases : ι → Phase}
variable {shared next : SharedInbox ι ε} {processOf : ι → UInt32} {receiver : ι}

/-- A reply disturbs no file that exists. -/
theorem undisturbed_reply {op : InboxOp} {reply : (inboxSignature ε).Reply op}
    (htemporary : ∀ path, touched op = some path →
      IsIncomingName path ∨ ∃ source, op = .hardLink source path)
    (hreply : InboxReplies processOf receiver op shared reply next) :
    Undisturbed (· < shared.directory.next) shared.directory next.directory := by
  refine ⟨fun name inode hname hinode => ?_, fun name inode _ => Directory.inodeOf_lt, ?_⟩
  · cases hreply with
    | download reply => exact hinode
    | other choice hop =>
        refine Eq.trans ?_ hinode
        by_cases htouched : touched op = some name
        · rcases htemporary name htouched with hincoming | ⟨source, rfl⟩
          · exact absurd hincoming hname
          · -- The name is taken, so the link is refused.
            have htaken : shared.directory.inodeOf name ≠ none := by
              rw [hinode]
              exact Option.some_ne_none inode
            exact unlessFault_eq (fun world => world.directory.inodeOf name)
              (inodeOf_hardLink (.inr htaken))
        · exact inodeOf_respond htouched
  · intro inode hlt
    cases hreply with
    | download reply => rfl
    | other choice hop => exact bytes_respond hop hlt

/-- A reply leaves the bytes under every name but the one that the call touches. -/
theorem read_reply {op : InboxOp} {reply : (inboxSignature ε).Reply op} {name : String}
    (hname : touched op ≠ some name)
    (hreply : InboxReplies processOf receiver op shared reply next) :
    next.directory.read name = shared.directory.read name := by
  cases hreply with
  | download reply => rfl
  | other choice hop =>
      have hinode : (shared.absorb processOf receiver (World.respond op choice
            (shared.view processOf receiver)).2).directory.inodeOf name =
          shared.directory.inodeOf name := inodeOf_respond hname
      rw [Directory.read_eq_inodeOf, Directory.read_eq_inodeOf, hinode]
      cases hentry : shared.directory.inodeOf name with
      | none => rfl
      | some inode =>
          rw [Option.map_some, Option.map_some, Option.some.injEq]
          exact bytes_respond hop (Directory.inodeOf_lt hentry)

/-- While a download is pending it disturbs its own file only. -/
theorem undisturbed_write (howned : Owned keep phases shared) {path : String} {file : Nat}
    (hown : (phases receiver).unpublished = some (path, file)) (hpath : IsIncomingName path)
    (bytes : List UInt8) :
    Undisturbed (· ≠ file) shared.directory (shared.write receiver file bytes).directory := by
  refine ⟨fun _ _ _ hinode => hinode, fun name inode hname hinode => ?_, fun inode hne => ?_⟩
  · rintro rfl
    exact hname (howned.sole receiver path inode name hown hinode ▸ hpath)
  · exact congrArg File.bytes (Function.update_of_ne hne _ _)

omit [DecidableEq ι] in
/-- The files of the other receivers are not the one that is written. -/
theorem ne_of_holds (howned : Owned keep phases shared) {other : ι} {path source : String}
    {file left : Nat} (hown : (phases receiver).unpublished = some (path, file))
    (hother : (phases other).holds = some (source, left)) (hne : other ≠ receiver) :
    left ≠ file := by
  rintro rfl
  have hnamed := howned.named other source left hother
  have hsame := howned.sole receiver path left source hown hnamed
  subst hsame
  exact hne (howned.apart other receiver source left left hother
    (Phase.holds_of_unpublished hown))

end Shared

end TwEinvoice.Delivery
