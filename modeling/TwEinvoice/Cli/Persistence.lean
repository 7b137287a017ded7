import TwEinvoice.Effects.Evaluation

/-!
# Persistence of an artifact

`persist_artifact` of the command line tool opens the destination itself, writes the artifact and
synchronizes the file. A failure of the write or of the synchronization is not undone.
-/

namespace TwEinvoice.Cli

open Effects

/-- `io::ErrorKind`. -/
inductive ErrorKind where
  | alreadyExists
  | notFound
  | other (code : Nat)
  deriving DecidableEq

/-- `io::Error`. -/
structure IoError where
  kind : ErrorKind
  text : String
  deriving DecidableEq

/-- `OpenOptions`. -/
structure OpenOptions where
  write : Bool := false
  create : Bool := false
  truncate : Bool := false
  createNew : Bool := false
  deriving DecidableEq

/-- What the destination path holds, and the position of the file handle. -/
structure Destination where
  contents : Option (List UInt8)
  position : Nat
  deriving DecidableEq

/-- `OpenOptions::open`, for writing. `create_new` overrides the other two options. -/
def OpenOptions.open (options : OpenOptions) (destination : Destination) :
    Except IoError Unit × Destination :=
  match destination.contents, options.createNew with
  | some _, true => (.error ⟨.alreadyExists, "File exists (os error 17)"⟩, destination)
  | some bytes, false => (.ok (), ⟨some (if options.truncate then [] else bytes), 0⟩)
  | none, true => (.ok (), ⟨some [], 0⟩)
  | none, false =>
      if options.create then (.ok (), ⟨some [], 0⟩)
      else (.error ⟨.notFound, "No such file or directory (os error 2)"⟩, destination)

/-- Write at the position of the file handle. -/
def Destination.write (destination : Destination) (bytes : List UInt8) : Destination where
  contents := destination.contents.map fun before =>
    before.take destination.position ++ bytes ++ before.drop (destination.position + bytes.length)
  position := destination.position + bytes.length

/-- A call of `persist_artifact`. -/
inductive ArtifactOp where
  | open (options : OpenOptions)
  | writeAll (bytes : List UInt8)
  | syncAll

/-- Each call replies with an error or with nothing. -/
abbrev artifactSignature : Signature where
  Op := ArtifactOp
  Reply _ := Except IoError Unit

/-- What may stop a call. A write may be stopped behind any part of its bytes. -/
abbrev ArtifactOp.Fault : ArtifactOp → Type
  | .open _ | .syncAll => Option IoError
  | .writeAll _ => Option (Nat × IoError)

/-- The file system. -/
def artifactHandler : Handler artifactSignature Destination where
  Choice := ArtifactOp.Fault
  respond
    | .open options, fault, destination =>
        match fault with
        | some error => (.error error, destination)
        | none => options.open destination
    | .writeAll bytes, fault, destination =>
        match fault with
        | some (written, error) =>
            if written < bytes.length then (.error error, destination.write (bytes.take written))
            else (.ok (), destination.write bytes)
        | none => (.ok (), destination.write bytes)
    | .syncAll, fault, destination =>
        match fault with
        | some error => (.error error, destination)
        | none => (.ok (), destination)

/-- The steps of `persist_artifact`. -/
abbrev ArtifactProgram := ExceptT IoError (Program artifactSignature)

/-- One call. -/
def request (op : ArtifactOp) : ArtifactProgram Unit :=
  ExceptT.mk (Program.perform (S := artifactSignature) op)

/-- The options of `persist_artifact`. -/
def artifactOptions (force : Bool) : OpenOptions :=
  let options : OpenOptions := { write := true }
  if force then { options with create := true, truncate := true }
  else { options with createNew := true }

/-- The error of `persist_artifact` for a destination that is not opened. -/
def createError (path : String) (error : IoError) : IoError :=
  ⟨error.kind, "failed to create artifact " ++ path ++ ": " ++ error.text⟩

/-- `persist_artifact`. -/
def persistArtifact (path : String) (bytes : List UInt8) (force : Bool) : ArtifactProgram Unit := do
  ExceptT.adapt (createError path) (request (.open (artifactOptions force)))
  request (.writeAll bytes)
  request .syncAll

/-! ## What a failure leaves -/

/-- The faults that the three calls meet. -/
structure Faults where
  openFault : Option IoError
  writeFault : Option (Nat × IoError)
  syncFault : Option IoError

/-- The choices with these faults. -/
def Faults.choose (faults : Faults) : (op : ArtifactOp) → Destination → op.Fault
  | .open _, _ => faults.openFault
  | .writeAll _, _ => faults.writeFault
  | .syncAll, _ => faults.syncFault

/-- Whether the destination is not opened: a fault, or an artifact that must not be replaced. -/
def Faults.refusesOpen (faults : Faults) (force : Bool) (prior : Option (List UInt8)) : Bool :=
  faults.openFault.isSome || (!force && prior.isSome)

/-- The part of the artifact that is written. -/
def writtenPart (fault : Option (Nat × IoError)) (bytes : List UInt8) : List UInt8 :=
  match fault with
  | some (written, _) => bytes.take written
  | none => bytes

/-- Whether a write is stopped before its end. -/
def stopsWrite (fault : Option (Nat × IoError)) (bytes : List UInt8) : Bool :=
  match fault with
  | some (written, _) => written < bytes.length
  | none => false

/-- Whether one of the three calls fails. -/
def Faults.fails (faults : Faults) (bytes : List UInt8) (force : Bool)
    (prior : Option (List UInt8)) : Bool :=
  faults.refusesOpen force prior || stopsWrite faults.writeFault bytes || faults.syncFault.isSome

/-- The run with these faults. -/
abbrev Persists (faults : Faults) (path : String) (bytes : List UInt8) (force : Bool)
    (prior : Option (List UInt8)) (result : Except IoError Unit)
    (contents : Option (List UInt8)) : Prop :=
  ∃ position, artifactHandler.Returns faults.choose (persistArtifact path bytes force).run
    ⟨prior, 0⟩ result ⟨contents, position⟩

/-- An open destination is empty. -/
theorem open_empty {force : Bool} {destination : Destination}
    (h : (!force && destination.contents.isSome) = false) :
    (artifactOptions force).open destination = (.ok (), ⟨some [], 0⟩) := by
  obtain ⟨contents, position⟩ := destination
  cases force with
  | true => cases contents <;> rfl
  | false =>
      cases contents with
      | none => rfl
      | some bytes => cases h

/-- An artifact that must not be replaced is not opened. -/
theorem open_refused {force : Bool} {destination : Destination}
    (h : (!force && destination.contents.isSome) = true) :
    ∃ error, (artifactOptions force).open destination = (.error error, destination) := by
  obtain ⟨contents, position⟩ := destination
  cases force with
  | true => cases h
  | false =>
      cases contents with
      | none => cases h
      | some before => exact ⟨_, rfl⟩

/-- What opening the destination can do: nothing, or an empty file. -/
theorem respond_open {force : Bool} {fault : Option IoError} {destination next : Destination}
    {reply : Except IoError Unit}
    (h : artifactHandler.respond (.open (artifactOptions force)) fault destination =
      (reply, next)) :
    (∃ error, reply = .error error) ∧ next = destination ∨
      (!force && destination.contents.isSome) = false ∧ reply = .ok () ∧ next = ⟨some [], 0⟩ := by
  cases fault with
  | some error =>
      cases h
      exact .inl ⟨⟨error, rfl⟩, rfl⟩
  | none =>
      cases hrefuses : !force && destination.contents.isSome with
      | true =>
          obtain ⟨error, hopen⟩ := open_refused hrefuses
          cases hopen.symm.trans h
          exact .inl ⟨⟨error, rfl⟩, rfl⟩
      | false =>
          cases (open_empty hrefuses).symm.trans h
          exact .inr ⟨rfl, rfl, rfl⟩

theorem write_empty (bytes : List UInt8) :
    Destination.write ⟨some [], 0⟩ bytes = ⟨some bytes, bytes.length⟩ := by
  simp [Destination.write]

/-- A call returns what the file system replies. -/
theorem returns_request {faults : Faults} {op : ArtifactOp} {state final : Destination}
    {result : Except IoError Unit}
    (h : artifactHandler.respond op (faults.choose op state) state = (result, final)) :
    artifactHandler.Returns faults.choose (request op).run state result final := by
  have hcall : artifactHandler.Returns faults.choose (request op).run state
      (artifactHandler.respond op (faults.choose op state) state).1
      (artifactHandler.respond op (faults.choose op state) state).2 := rfl
  rw [h] at hcall
  exact hcall

/-- A write that is stopped returns an error, and leaves the part that was written. -/
theorem respond_write (fault : Option (Nat × IoError)) (bytes : List UInt8) :
    ∃ result position, artifactHandler.respond (.writeAll bytes) fault ⟨some [], 0⟩ =
        (result, ⟨some (writtenPart fault bytes), position⟩) ∧
      if stopsWrite fault bytes then ∃ error, result = .error error
      else result = .ok () ∧ writtenPart fault bytes = bytes := by
  cases fault with
  | none => exact ⟨.ok (), _, congrArg (Prod.mk _) (write_empty bytes), rfl, rfl⟩
  | some fault =>
      obtain ⟨written, error⟩ := fault
      by_cases hlt : written < bytes.length
      · refine ⟨.error error, (bytes.take written).length, (if_pos hlt).trans ?_, ?_⟩
        · exact congrArg (Prod.mk _) (write_empty (bytes.take written))
        · have hstops : stopsWrite (some (written, error)) bytes = true := decide_eq_true hlt
          rw [if_pos hstops]
          exact ⟨error, rfl⟩
      · have hall : bytes.take written = bytes := List.take_of_length_le (Nat.not_lt.1 hlt)
        refine ⟨.ok (), bytes.length, (if_neg hlt).trans ?_, ?_⟩
        · show (Except.ok (), Destination.write _ bytes) = (_, ⟨some (bytes.take written), _⟩)
          rw [write_empty, hall]
        · have hstops : ¬ stopsWrite (some (written, error)) bytes = true :=
            fun h => hlt (of_decide_eq_true h)
          rw [if_neg hstops]
          exact ⟨rfl, hall⟩

/-- A destination that is not opened stays as it was. -/
theorem persists_refused {faults : Faults} {force : Bool} {prior : Option (List UInt8)}
    (path : String) (bytes : List UInt8) (h : faults.refusesOpen force prior = true) :
    ∃ error, Persists faults path bytes force prior (.error error) prior := by
  have hopen : ∃ error, artifactHandler.respond (.open (artifactOptions force)) faults.openFault
      ⟨prior, 0⟩ = (.error error, ⟨prior, 0⟩) := by
    unfold Faults.refusesOpen at h
    cases hfault : faults.openFault with
    | some error => exact ⟨error, rfl⟩
    | none =>
        rw [hfault] at h
        exact open_refused h
  obtain ⟨error, hopen⟩ := hopen
  have hcall := returns_request hopen
  exact ⟨createError path error, 0, hcall.run_adapt.run_bind_error⟩

/-- A destination that is opened holds what is written. -/
theorem persists_opened {faults : Faults} {force : Bool} {prior : Option (List UInt8)}
    (path : String) (bytes : List UInt8) (h : faults.refusesOpen force prior = false) :
    ∃ result, Persists faults path bytes force prior result
        (some (writtenPart faults.writeFault bytes)) ∧
      if stopsWrite faults.writeFault bytes || faults.syncFault.isSome then
        ∃ error, result = .error error
      else result = .ok () ∧ writtenPart faults.writeFault bytes = bytes := by
  obtain ⟨hfault, hforce⟩ := Bool.or_eq_false_iff.1 h
  have hopen : artifactHandler.respond (.open (artifactOptions force)) faults.openFault
      ⟨prior, 0⟩ = (.ok (), ⟨some [], 0⟩) := by
    rw [Option.isSome_eq_false_iff, Option.isNone_iff_eq_none] at hfault
    rw [hfault]
    exact open_empty hforce
  obtain ⟨result, position, hwrite, hwritten⟩ := respond_write faults.writeFault bytes
  have hopened : artifactHandler.Returns faults.choose
      (ExceptT.adapt (createError path) (request (.open (artifactOptions force)))).run
      ⟨prior, 0⟩ (.ok ()) ⟨some [], 0⟩ :=
    (returns_request hopen).run_adapt
  have hwrote := returns_request hwrite
  cases hstops : stopsWrite faults.writeFault bytes with
  | true =>
      rw [if_pos hstops] at hwritten
      obtain ⟨error, rfl⟩ := hwritten
      exact ⟨.error error, ⟨position, hopened.run_bind hwrote.run_bind_error⟩, error, rfl⟩
  | false =>
      rw [hstops, if_neg Bool.false_ne_true] at hwritten
      obtain ⟨rfl, hall⟩ := hwritten
      have hsynced : ∀ result, artifactHandler.respond .syncAll faults.syncFault
          ⟨some (writtenPart faults.writeFault bytes), position⟩ =
            (result, ⟨some (writtenPart faults.writeFault bytes), position⟩) →
          Persists faults path bytes force prior result
            (some (writtenPart faults.writeFault bytes)) :=
        fun result hsync =>
          ⟨position, hopened.run_bind (hwrote.run_bind (returns_request hsync))⟩
      cases hsync : faults.syncFault with
      | none => exact ⟨.ok (), hsynced (.ok ()) (by rw [hsync]; rfl), rfl, hall⟩
      | some error => exact ⟨.error error, hsynced (.error error) (by rw [hsync]; rfl), error, rfl⟩

/-- A success leaves the artifact, and there is an error exactly when one of the calls fails.
Without permission to open the destination it stays as it was; any other error leaves the part that
was written. -/
theorem persist_artifact_outcome (faults : Faults) (path : String) (bytes : List UInt8)
    (force : Bool) (prior : Option (List UInt8)) :
    ∃ result contents, Persists faults path bytes force prior result contents ∧
      (result = .ok () → contents = some bytes) ∧
      (∀ error, result = .error error →
        contents = if faults.refusesOpen force prior then prior
          else some (writtenPart faults.writeFault bytes)) ∧
      (faults.fails bytes force prior = true ↔ ∃ error, result = .error error) := by
  unfold Faults.fails
  cases hrefuses : faults.refusesOpen force prior with
  | true =>
      obtain ⟨error, hpersists⟩ := persists_refused path bytes hrefuses
      exact ⟨.error error, prior, hpersists, nofun, fun _ _ => rfl, fun _ => ⟨error, rfl⟩,
        fun _ => rfl⟩
  | false =>
      obtain ⟨result, hpersists, hresult⟩ := persists_opened path bytes hrefuses
      rw [Bool.false_or]
      by_cases hfails : (stopsWrite faults.writeFault bytes || faults.syncFault.isSome) = true
      · rw [if_pos hfails] at hresult
        obtain ⟨error, rfl⟩ := hresult
        exact ⟨.error error, _, hpersists, nofun, fun _ _ => rfl, fun _ => ⟨error, rfl⟩,
          fun _ => hfails⟩
      · rw [if_neg hfails] at hresult
        obtain ⟨rfl, hwritten⟩ := hresult
        exact ⟨.ok (), _, hpersists, fun _ => congrArg some hwritten, nofun,
          fun htrue => absurd htrue hfails, nofun⟩

/-- The disk is full while an artifact is replaced. -/
def fullDisk : Faults where
  openFault := none
  writeFault := some (1, ⟨.other 28, "No space left on device (os error 28)"⟩)
  syncFault := none

/-- With force, a full disk loses the artifact that was there. -/
theorem persist_artifact_loses_prior :
    ∃ error contents, Persists fullDisk "signed.cms" [2, 3] true (some [1]) (.error error)
      contents ∧ contents ≠ some [1] :=
  ⟨_, some [2], ⟨1, rfl⟩, by simp⟩

end TwEinvoice.Cli
