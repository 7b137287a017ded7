import TwEinvoice.Concurrency.Ambient
import TwEinvoice.Transport.SharedInbox

/-!
# What a receiver has to show for a deletion

A second discipline of `receive`, beside the one for its temporary file: it follows the hard link
and, where that is refused, the comparison of the two files chunk by chunk. `delete` is only
called with a publication in hand, or after both files were read to their ends alike.
-/

namespace TwEinvoice.Delivery

open Concurrency Effects Transport

variable {ε : Type}

/-- What a receiver has seen of the object that it is about to publish. In `comparing` both
readers have returned `seen`, in `halfway` the first of them also the next chunk. -/
inductive Evidence where
  | nothing
  | refused (source name : String)
  | opened (source name : String) (left : Nat)
  | comparing (source name : String) (left right : Nat) (seen : List UInt8)
  | halfway (source name : String) (left right : Nat) (seen chunk : List UInt8)
  | stored (name : String)

/-- After the chunk of the other file. -/
def Evidence.compared (source name : String) (left right : Nat)
    (seen chunk other : List UInt8) : Evidence :=
  if chunk ≠ other then .nothing
  else if chunk = [] then .stored name
  else .comparing source name left right (seen ++ chunk)

/-- Temporary files have temporary names, and an object is deleted when it is stored. -/
def evidenceDiscipline (ε : Type) : Discipline (inboxSignature ε) Evidence where
  permits
    | .createNew path, _ => IsIncomingName path
    | .delete object, evidence => evidence = .stored object.name
    | _, _ => True
  after
    | .hardLink _ destination, .ok _, _ => .stored destination
    | .hardLink source destination, .error .alreadyExists, _ => .refused source destination
    | .hardLink .., .error _, _ => .nothing
    | .openFile path, .ok inode, .refused source name =>
        if path = source then .opened source name inode else .nothing
    | .openFile path, .ok inode, .opened source name left =>
        if path = name then .comparing source name left inode [] else .nothing
    | .read file position length, .ok chunk, .comparing source name left right seen =>
        if file = left ∧ position = seen.length ∧ length = bufferLength then
          .halfway source name left right seen chunk
        else .nothing
    | .read file position length, .ok other, .halfway source name left right seen chunk =>
        if file = right ∧ position = seen.length ∧ length = bufferLength then
          .compared source name left right seen chunk other
        else .nothing
    | .removeFile _, _, _ => .nothing
    | _, _, evidence => evidence
  resting evidence := evidence = .nothing

/-- In every behaviour of the program from the evidence on the discipline is kept. -/
abbrev Evident {α : Type} (program : Program (inboxSignature ε) α)
    (post : α → Evidence → Prop) (evidence : Evidence) : Prop :=
  Must (evidenceDiscipline ε).environment (evidenceDiscipline ε).permits program post evidence

/-- A call that the evidence permits. -/
theorem evident_request {op : InboxOp} {post : (inboxSignature ε).Reply op → Evidence → Prop}
    {evidence : Evidence} (hpermits : (evidenceDiscipline ε).permits op evidence)
    (hpost : ∀ reply, post reply ((evidenceDiscipline ε).after op reply evidence)) :
    Evident (request op) post evidence :=
  Discipline.must_perform.2 ⟨hpermits, hpost⟩

/-- A fallible program that needs no evidence and leaves it alone. -/
def KeepsEvidence {δ α : Type} (program : ExceptT δ (Program (inboxSignature ε)) α)
    (evidence : Evidence) : Prop :=
  Evident program.run (fun _ after => after = evidence) evidence

theorem KeepsEvidence.bind {δ α β : Type} {program : ExceptT δ (Program (inboxSignature ε)) α}
    {next : α → ExceptT δ (Program (inboxSignature ε)) β} {evidence : Evidence}
    (h : KeepsEvidence program evidence) (hnext : ∀ value, KeepsEvidence (next value) evidence) :
    KeepsEvidence (program >>= next) evidence := by
  refine must_run_bind.2 (Must.mono h fun result after hafter => ?_)
  subst hafter
  cases result with
  | error error => rfl
  | ok value => exact hnext value

/-! ## The comparison -/

/-- One of the two readers returns its next chunk. -/
theorem evident_read {reader : Reader} {evidence : Evidence}
    {post : Except IoError (List UInt8 × Reader) → Evidence → Prop}
    (herror : ∀ error, post (.error error) evidence)
    (hok : ∀ chunk : List UInt8,
      post (.ok (chunk, { reader with position := reader.position + chunk.length }))
        ((evidenceDiscipline ε).after (.read reader.file reader.position bufferLength)
          (.ok chunk) evidence)) :
    Evident (reader.read : FileProgram ε _).run post evidence := by
  refine must_run_bind.2 (evident_request trivial fun reply => ?_)
  cases reply with
  | error error =>
      cases evidence <;> exact herror error
  | ok chunk => exact hok chunk

/-- The loop finds the files equal only if it has read both to their ends alike. -/
theorem evident_readersEqual (fuel : Nat) {left right : Reader} {source name : String}
    {seen : List UInt8} (hleft : left.position = seen.length)
    (hright : right.position = seen.length) :
    Evident (readersEqual fuel left right : FileProgram ε Bool).run
      (onResult (fun equal evidence => equal = true → evidence = .stored name) fun _ _ => True)
      (.comparing source name left.file right.file seen) := by
  induction fuel generalizing left right seen with
  | zero => trivial
  | succ fuel ih =>
      refine must_run_bind.2 (evident_read (fun _ => trivial) fun chunk => ?_)
      have hhalfway : (evidenceDiscipline ε).after
          (.read left.file left.position bufferLength) (.ok chunk)
          (.comparing source name left.file right.file seen) =
            .halfway source name left.file right.file seen chunk :=
        if_pos ⟨rfl, hleft, rfl⟩
      rw [hhalfway]
      refine must_run_bind.2 (evident_read (fun _ => trivial) fun other => ?_)
      have hcompared : (evidenceDiscipline ε).after
          (.read right.file right.position bufferLength) (.ok other)
          (.halfway source name left.file right.file seen chunk) =
            .compared source name left.file right.file seen chunk other :=
        if_pos ⟨rfl, hright, rfl⟩
      rw [hcompared, onResult_ok]
      dsimp only
      split_ifs with hlength hempty hchunks
      · exact fun h => absurd h Bool.false_ne_true
      · -- Both chunks are empty.
        obtain rfl := List.length_eq_zero_iff.1 hempty
        obtain rfl := List.length_eq_zero_iff.1 ((not_not.1 hlength).symm.trans hempty)
        exact fun _ => rfl
      · exact fun h => absurd h Bool.false_ne_true
      · obtain rfl := not_not.1 hchunks
        have hchunk : chunk ≠ [] := fun hnil => hempty (List.length_eq_zero_iff.2 hnil)
        rw [Evidence.compared, if_neg (not_not.2 rfl), if_neg hchunk]
        refine ih ?_ ?_
        · rw [List.length_append, hleft]
        · rw [List.length_append, hright]

theorem keepsEvidence_pathMetadata (path : String) (evidence : Evidence) :
    KeepsEvidence (ExceptT.mk (request (.pathMetadata path)) : FileProgram ε Nat) evidence :=
  evident_request trivial fun _ => rfl

/-- One of the two files is opened. -/
theorem evident_openPath {path : String} {evidence : Evidence}
    {post : Except IoError Reader → Evidence → Prop}
    (herror : ∀ error, post (.error error) evidence)
    (hok : ∀ inode, post (.ok ⟨inode, 0⟩)
      ((evidenceDiscipline ε).after (.openFile path) (.ok inode) evidence)) :
    Evident (Reader.openPath path : FileProgram ε Reader).run post evidence := by
  refine must_run_bind.2 (evident_request trivial fun reply => ?_)
  cases reply with
  | error error =>
      cases evidence <;> exact herror error
  | ok inode => exact hok inode

/-- `files_equal` returns `true` only with the evidence that the object is stored. -/
theorem evident_filesEqual (fuel : Nat) (source name : String) :
    Evident (filesEqual fuel source name : FileProgram ε Bool).run
      (onResult (fun equal evidence => equal = true → evidence = .stored name) fun _ _ => True)
      (.refused source name) := by
  refine must_run_bind.2 ((keepsEvidence_pathMetadata source _).mono ?_)
  intro leftLength evidence hkept
  subst hkept
  rcases leftLength with _ | leftLength
  · trivial
  refine must_run_bind.2 ((keepsEvidence_pathMetadata name _).mono ?_)
  intro rightLength evidence hkept
  subst hkept
  rcases rightLength with _ | rightLength
  · trivial
  rw [onResult_ok]
  split_ifs with hlength
  · exact fun h => absurd h Bool.false_ne_true
  refine must_run_bind.2 (evident_openPath (fun _ => trivial) fun left => ?_)
  have hopened : (evidenceDiscipline ε).after (.openFile source) (.ok left)
      (.refused source name) = .opened source name left := if_pos rfl
  rw [hopened]
  refine must_run_bind.2 (evident_openPath (fun _ => trivial) fun right => ?_)
  have hcomparing : (evidenceDiscipline ε).after (.openFile name) (.ok right)
      (.opened source name left) = .comparing source name left right [] := if_pos rfl
  rw [hcomparing]
  exact evident_readersEqual fuel rfl rfl

/-! ## `receive` -/

/-- Without a temporary file there is no evidence yet. -/
theorem evident_create (fuel : Nat) :
    KeepsEvidence (IncomingFile.create fuel : FileProgram ε IncomingFile) .nothing := by
  induction fuel with
  | zero => trivial
  | succ fuel ih =>
      refine must_bind.2 (evident_request trivial fun id => ?_)
      refine must_bind.2 (evident_request trivial fun processId => ?_)
      refine must_bind.2 (evident_request ⟨processId, id, rfl⟩ fun reply => ?_)
      rcases reply with (_ | _ | code) | file
      · exact ih
      · exact rfl
      · exact rfl
      · exact rfl

theorem keepsEvidence_syncParentDirectory (evidence : Evidence) :
    KeepsEvidence (syncParentDirectory : FileProgram ε Unit) evidence :=
  KeepsEvidence.bind (evident_request trivial fun _ => rfl) fun _ =>
    evident_request trivial fun _ => rfl

/-- An outcome of `publish` comes with the evidence that the object is stored. -/
theorem evident_publish (fuel : Nat) (object : RemoteObject) (incoming : IncomingFile) :
    Evident (publish fuel object incoming : ReceiveProgram ε ReceiveOutcome).run
      (onResult (fun _ evidence => evidence = .stored object.name) fun _ _ => True)
      .nothing := by
  refine must_bind.2 (evident_request trivial fun reply => ?_)
  rcases reply with (_ | _ | code) | _
  · refine must_run_bind.2 (must_run_adapt.2 ((evident_filesEqual fuel _ _).mono ?_))
    intro result evidence hequal
    rcases result with _ | _ | _
    · trivial
    · trivial
    · exact hequal rfl
  · trivial
  · trivial
  · refine must_run_bind.2 (must_run_adapt.2 ((keepsEvidence_syncParentDirectory _).mono ?_))
    intro result evidence hkept
    cases result with
    | error error => trivial
    | ok _ => exact hkept

/-- A receiver deletes only with the evidence that it has. -/
theorem evident_receiveInto (fuel : Nat) (object : RemoteObject) (incoming : IncomingFile) :
    Evident (receiveInto fuel object incoming : ReceiveProgram ε ReceiveOutcome).run
      (fun _ _ => True) .nothing := by
  refine must_run_bind.2 (must_run_adapt.2 (evident_request trivial fun reply => ?_))
  rcases reply with _ | _
  · trivial
  have hflush : KeepsEvidence (incoming.flushAndSync : FileProgram ε Unit) .nothing :=
    KeepsEvidence.bind (evident_request trivial fun _ => rfl) fun _ =>
      evident_request trivial fun _ => rfl
  refine must_run_bind.2 (must_run_adapt.2 (hflush.mono fun result evidence hnothing => ?_))
  subst hnothing
  rcases result with _ | _
  · trivial
  refine must_run_bind.2 (must_run_adapt.2 (evident_request trivial fun reply => ?_))
  rcases reply with _ | length
  · trivial
  refine must_run_bind.2 ?_
  cases (checkSize object length : Except (ReceiveError ε) Unit) with
  | error error => trivial
  | ok _ =>
      refine must_run_bind.2 ((evident_publish fuel object incoming).mono ?_)
      intro result evidence hstored
      rcases result with _ | outcome
      · trivial
      · -- The evidence that `publish` leaves is what `delete` needs.
        refine must_run_bind.2 (must_run_adapt.2 (evident_request hstored fun reply => ?_))
        cases reply <;> trivial

/-- Whatever the replies to its calls, `receive` keeps the discipline. -/
theorem receive_evident (fuel : Nat) (object : RemoteObject) :
    (evidenceDiscipline ε).Follows (receive fuel object).run .nothing := by
  refine must_run_bind.2 ?_
  cases (validateRemoteName object.name : Except (ReceiveError ε) Unit) with
  | error error => rfl
  | ok _ =>
      refine must_run_bind.2 (must_run_adapt.2 ((evident_create fuel).mono ?_))
      intro result evidence hnothing
      subst hnothing
      rcases result with _ | incoming
      · rfl
      · refine must_bind.2 ((evident_receiveInto fuel object incoming).mono ?_)
        intro result evidence _
        exact must_bind.2 (must_bind.2 (evident_request trivial fun _ => rfl))

end TwEinvoice.Delivery
