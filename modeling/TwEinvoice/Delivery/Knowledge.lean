import TwEinvoice.Delivery.System
import TwEinvoice.Transport.ConcurrentReceivers

/-!
# What the receivers know

A complete download is a version that the server has published, and the evidence for a deletion is
that published bytes are under the object's name. Both stay true while the files they are about are
not disturbed, whatever else happens. Of an object with a temporary name nothing is known: its file
may be one that a receiver removes.
-/

namespace TwEinvoice.Delivery

open Concurrency Effects Storage Transport

variable {ε ι : Type}

/-! ## What a receiver knows -/

/-- A complete download is a version that was published under the name. -/
def Authentic (published : String → List (List UInt8)) (directory : Directory) : Phase → Prop
  | .downloaded object _ file | .measured object _ file _ =>
      (directory.file file).bytes ∈ published object.name
  | .resting | .receiving _ | .created .. | .closing .. => True

/-- A version that is open was published under the name of the object that is downloaded. -/
def Opened (published : String → List (List UInt8)) (opened : Option (List UInt8))
    (phase : Phase) : Prop :=
  ∀ content, opened = some content →
    ∃ object path file, phase = .created object path file ∧ content ∈ published object.name

/-- The evidence is true, unless the object has a temporary name. Until the comparison ends the
receiver keeps its temporary file, with published bytes; what both readers have returned begins
either file. -/
def Evidence.Holds (published : String → List (List UInt8)) (directory : Directory)
    (phase : Phase) : Evidence → Prop
  | .nothing => True
  | .refused source name =>
      ∃ file, phase = .closing source file ∧ (directory.file file).bytes ∈ published name
  | .opened source name left =>
      phase = .closing source left ∧ (directory.file left).bytes ∈ published name
  | .comparing source name left right seen =>
      ¬ IsIncomingName name →
        phase = .closing source left ∧ (directory.file left).bytes ∈ published name ∧
          directory.inodeOf name = some right ∧
          seen <+: (directory.file left).bytes ∧ seen <+: (directory.file right).bytes
  | .halfway source name left right seen chunk =>
      ¬ IsIncomingName name →
        phase = .closing source left ∧ (directory.file left).bytes ∈ published name ∧
          directory.inodeOf name = some right ∧
          seen ++ chunk <+: (directory.file left).bytes ∧
          seen <+: (directory.file right).bytes ∧
          (chunk = [] → (directory.file left).bytes = seen)
  | .stored name =>
      ¬ IsIncomingName name → ∃ content ∈ published name, directory.read name = some content

section Undisturbed

variable {published : String → List (List UInt8)} {directory next : Directory}
variable {spared : Nat → Prop} {phase phase' : Phase}

/-- What a receiver has downloaded stays authentic while its file is spared. -/
theorem Authentic.mono {published' : String → List (List UInt8)}
    (h : Authentic published directory phase)
    (hbytes : ∀ path file, phase.unpublished = some (path, file) →
      (next.file file).bytes = (directory.file file).bytes)
    (hpublished : ∀ name, published name ⊆ published' name) :
    Authentic published' next phase := by
  cases phase with
  | resting | receiving _ | created _ _ _ | closing _ _ => trivial
  | downloaded object path file =>
      show (next.file file).bytes ∈ published' object.name
      rw [hbytes path file rfl]
      exact hpublished _ h
  | measured object path file length =>
      show (next.file file).bytes ∈ published' object.name
      rw [hbytes path file rfl]
      exact hpublished _ h

/-- What is open stays a published version. -/
theorem Opened.mono {published' : String → List (List UInt8)} {opened : Option (List UInt8)}
    (h : Opened published opened phase) (hpublished : ∀ name, published name ⊆ published' name) :
    Opened published' opened phase := by
  intro content hopened
  obtain ⟨object, path, file, hphase, hcontent⟩ := h content hopened
  exact ⟨object, path, file, hphase, hpublished _ hcontent⟩

/-- Evidence stays true while the files of the comparison are spared. -/
theorem Evidence.Holds.mono {published' : String → List (List UInt8)} {evidence : Evidence}
    (h : evidence.Holds published directory phase)
    (hphase : ∀ source file, phase = .closing source file → phase' = .closing source file)
    (hnext : Undisturbed spared directory next)
    (hspared : ∀ source file, phase = .closing source file → spared file)
    (hpublished : ∀ name, published name ⊆ published' name) :
    evidence.Holds published' next phase' := by
  have hleft : ∀ source file, phase = .closing source file →
      (next.file file).bytes = (directory.file file).bytes :=
    fun source file hclosing => hnext.bytes file (hspared source file hclosing)
  cases evidence with
  | nothing => trivial
  | refused source name =>
      obtain ⟨file, hclosing, hname⟩ := h
      refine ⟨file, hphase _ _ hclosing, ?_⟩
      rw [hleft _ _ hclosing]
      exact hpublished _ hname
  | opened source name left =>
      obtain ⟨hclosing, hname⟩ := h
      refine ⟨hphase _ _ hclosing, ?_⟩
      rw [hleft _ _ hclosing]
      exact hpublished _ hname
  | comparing source name left right seen =>
      intro hlasting
      obtain ⟨hclosing, hname, hright, hseen⟩ := h hlasting
      refine ⟨hphase _ _ hclosing, ?_, hnext.inodeOf name right hlasting hright, ?_⟩
      · rw [hleft _ _ hclosing]
        exact hpublished _ hname
      · rw [hleft _ _ hclosing, hnext.bytes right (hnext.lasting name right hlasting hright)]
        exact hseen
  | halfway source name left right seen chunk =>
      intro hlasting
      obtain ⟨hclosing, hname, hright, hseen⟩ := h hlasting
      refine ⟨hphase _ _ hclosing, ?_, hnext.inodeOf name right hlasting hright, ?_⟩
      · rw [hleft _ _ hclosing]
        exact hpublished _ hname
      · rw [hleft _ _ hclosing, hnext.bytes right (hnext.lasting name right hlasting hright)]
        exact hseen
  | stored name =>
      intro hlasting
      obtain ⟨content, hname, hread⟩ := h hlasting
      exact ⟨content, hpublished _ hname, hnext.read hlasting hread⟩

end Undisturbed

/-! ## How a reply advances a receiver -/

section After

variable {op : InboxOp} {reply : (inboxSignature ε).Reply op} {phase : Phase}

/-- A receiver that has tried to publish is closing until it removes its temporary file. -/
theorem after_closing {source : String} {file : Nat} (hop : ∀ path, op ≠ .removeFile path) :
    (receiverDiscipline ε).after op reply (.closing source file) = .closing source file := by
  cases op with
  | removeFile path => exact absurd rfl (hop path)
  | createNew path => cases reply <;> rfl
  | download object other => cases reply <;> rfl
  | metadata other => cases reply <;> rfl
  | _ => rfl

/-- A temporary file is held that was held before or has just been created. -/
theorem holds_after {own : String × Nat}
    (h : ((receiverDiscipline ε).after op reply phase).holds = some own) :
    phase.holds = some own ∨ op = .createNew own.1 := by
  cases op with
  | removeFile path => cases h
  | createNew path =>
      cases phase <;> cases reply <;> first | exact .inl h | (cases h; exact .inr rfl)
  | download object other => cases phase <;> cases reply <;> exact .inl h
  | metadata other => cases phase <;> cases reply <;> exact .inl h
  | hardLink source destination => cases phase <;> exact .inl h
  | _ => exact .inl h

end After

section Chunks

variable {bytes seen : List UInt8} {more : Nat}

/-- The next chunk continues what has been read. -/
theorem append_chunk_prefix (h : seen <+: bytes) :
    seen ++ World.chunk bytes seen.length bufferLength more <+: bytes := by
  obtain ⟨rest, rfl⟩ := h
  rw [List.prefix_append_right_inj, World.chunk, List.drop_left]
  exact List.take_prefix _ _

/-- An empty chunk ends the file. -/
theorem eq_of_chunk_eq_nil (h : seen <+: bytes)
    (hchunk : World.chunk bytes seen.length bufferLength more = []) : bytes = seen := by
  have hrest := drop_eq_nil_of_chunk bytes seen.length (congrArg List.length hchunk)
  obtain ⟨rest, rfl⟩ := h
  rw [List.drop_left] at hrest
  rw [hrest, List.append_nil]

end Chunks

section Replies

variable {world next : World ε} {fault : Fault}

theorem openFile_ok {path : String} {inode : Nat}
    (h : World.respond (.openFile path) fault world = (.ok inode, next)) :
    world.directory.inodeOf path = some inode := by
  cases fault with
  | some code => cases h
  | none =>
      have hlookup : world.lookup path id = (.ok inode, next) := h
      unfold World.lookup at hlookup
      cases hentry : world.directory.entry path with
      | none =>
          rw [hentry] at hlookup
          cases hlookup
      | some found =>
          rw [hentry] at hlookup
          cases hlookup
          exact congrArg (Option.map Entry.inode) hentry

theorem read_ok {file position length : Nat} {choice : Fault × Nat} {chunk : List UInt8}
    (h : World.respond (.read file position length) choice world = (.ok chunk, next)) :
    ∃ more, chunk = World.chunk (world.directory.file file).bytes position length more := by
  obtain ⟨fault, more⟩ := choice
  cases fault with
  | some code => cases h
  | none =>
      cases h
      exact ⟨more, rfl⟩

/-- A hard link that fails changes nothing. -/
theorem hardLink_error {source destination : String} {error : IoError}
    (h : World.respond (.hardLink source destination) fault world = (.error error, next)) :
    next = world := by
  rcases @respond_hardLink _ world fault source destination with
    ⟨code, hrespond⟩ | ⟨_, _, hrespond⟩
  · exact (congrArg Prod.snd (hrespond.symm.trans h)).symm
  · have hlink : world.hardLink source destination = (.error error, next) :=
      hrespond.symm.trans h
    cases hsource : world.directory.entry source with
    | none =>
        unfold World.hardLink at hlink
        split at hlink
        · exact (congrArg Prod.snd hlink).symm
        · next found hfound => cases hfound.symm.trans hsource
    | some found =>
        rw [hardLink_eq hsource] at hlink
        split_ifs at hlink
        · cases hlink
        · exact (congrArg Prod.snd hlink).symm

end Replies

end TwEinvoice.Delivery
