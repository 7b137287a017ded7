import Mathlib.Data.List.Nodup
import Mathlib.Data.List.Perm.Basic
import TwEinvoice.Sftp.Authentication

/-!
# What a listing reports

A listing leaves out directories and reports every other entry, with a safe name and a size, or
nothing at all: one entry that it cannot report makes it fail. The objects are sorted by name, so
with distinct names the order of the server does not matter.
-/

namespace TwEinvoice.Sftp

open Effects Transport

variable {lib : SshLibrary} {entry : DirectoryEntry} {entries rest : List DirectoryEntry}
variable {object : RemoteObject} {objects : List RemoteObject} {error : SftpInboxError lib}

/-! ## One entry -/

/-- The entry is a file that is reported as this object. -/
structure Shows (entry : DirectoryEntry) (object : RemoteObject) : Prop where
  name : entryName entry = some object.name
  safe : safeRemoteBasename object.name = true
  size : entry.size = some object.size

/-- The entry is a file that cannot be reported. -/
inductive Refused (entry : DirectoryEntry) : SftpInboxError lib → Prop where
  | unnamed (hname : ∀ name, entryName entry = some name → safeRemoteBasename name = false) :
      Refused entry .invalidRemoteEntryName
  | unsized {name : String} (hname : entryName entry = some name)
      (hsafe : safeRemoteBasename name = true) (hsize : entry.size = none) :
      Refused entry (.missingRemoteSize name)

/-- The entries that are not directories. -/
def files (entries : List DirectoryEntry) : List DirectoryEntry :=
  entries.filter fun entry => !isDirectory entry

/-- Every entry has an object or an error. -/
theorem shows_or_refused (lib : SshLibrary) (entry : DirectoryEntry) :
    (∃ object, Shows entry object) ∨ ∃ error : SftpInboxError lib, Refused entry error := by
  cases hname : entryName entry with
  | none =>
      refine .inr ⟨_, .unnamed fun name h => ?_⟩
      rw [hname] at h
      cases h
  | some name =>
      cases hsafe : safeRemoteBasename name with
      | false =>
          refine .inr ⟨_, .unnamed fun other h => ?_⟩
          rw [← Option.some.inj (hname.symm.trans h)]
          exact hsafe
      | true =>
          cases hsize : entry.size with
          | none => exact .inr ⟨_, .unsized hname hsafe hsize⟩
          | some size => exact .inl ⟨⟨name, size⟩, hname, hsafe, hsize⟩

theorem Shows.unique {other : RemoteObject} (h : Shows entry object) (hother : Shows entry other) :
    object = other := by
  have hname := Option.some.inj (h.name.symm.trans hother.name)
  have hsize := Option.some.inj (h.size.symm.trans hother.size)
  cases object
  cases other
  rw [RemoteObject.mk.injEq]
  exact ⟨hname, hsize⟩

theorem Shows.not_refused (h : Shows entry object) : ¬ Refused entry error := by
  intro hrefused
  cases hrefused with
  | unnamed hname => exact absurd (hname _ h.name) (by rw [h.safe]; exact Bool.noConfusion)
  | unsized hname hsafe hsize => cases hsize.symm.trans h.size

/-! ## The loop -/

/-- Directories are left out. -/
theorem listEntries_directory (h : isDirectory entry = true) :
    (listEntries (entry :: rest) : Except (SftpInboxError lib) _) = listEntries rest := by
  simp only [listEntries, h, if_true]

/-- An entry with an object is listed before the rest. -/
theorem Shows.listEntries_cons (h : Shows entry object) (hfile : isDirectory entry = false) :
    (listEntries (entry :: rest) : Except (SftpInboxError lib) _) =
      (object :: ·) <$> listEntries rest := by
  simp only [listEntries, hfile, h.name, h.safe, h.size]
  rfl

/-- The first entry with an error ends the listing. -/
theorem Refused.listEntries_cons (h : Refused entry error) (hfile : isDirectory entry = false) :
    listEntries (entry :: rest) = .error error := by
  cases h with
  | unnamed hname =>
      cases hnamed : entryName entry with
      | none => simp only [listEntries, hfile, hnamed]; rfl
      | some name => simp only [listEntries, hfile, hnamed, hname name hnamed]; rfl
  | unsized hname hsafe hsize => simp only [listEntries, hfile, hname, hsafe, hsize]; rfl

/-- All files are reported, in the order of the server. -/
theorem listEntries_ok_iff :
    (listEntries entries : Except (SftpInboxError lib) _) = .ok objects ↔
      List.Forall₂ Shows (files entries) objects := by
  induction entries generalizing objects with
  | nil =>
      rw [files, List.filter_nil, List.forall₂_nil_left_iff]
      exact ⟨fun h => (Except.ok.inj h).symm, fun h => congrArg Except.ok h.symm⟩
  | cons entry rest ih =>
      cases hdirectory : isDirectory entry with
      | true =>
          rw [listEntries_directory hdirectory, files,
            List.filter_cons_of_neg (by simp [hdirectory])]
          exact ih
      | false =>
          rw [files, List.filter_cons_of_pos (by simp [hdirectory])]
          rcases shows_or_refused lib entry with ⟨object, hshows⟩ | ⟨error, hrefused⟩
          · rw [hshows.listEntries_cons hdirectory]
            constructor
            · intro h
              cases hrest : (listEntries rest : Except (SftpInboxError lib) _) with
              | error error => rw [hrest] at h; cases h
              | ok others =>
                  rw [hrest] at h
                  cases h
                  exact .cons hshows (ih.1 hrest)
            · intro h
              cases h with
              | cons hother hothers =>
                  rw [ih.2 hothers, hshows.unique hother]
                  rfl
          · rw [hrefused.listEntries_cons hdirectory]
            constructor
            · exact nofun
            · intro h
              cases h with
              | cons hother hothers => exact absurd hrefused hother.not_refused

/-- The first file that cannot be reported makes the listing fail. -/
theorem listEntries_error (h : listEntries entries = .error error) :
    ∃ before entry after shown, files entries = before ++ entry :: after ∧
      List.Forall₂ Shows before shown ∧ Refused entry error := by
  induction entries with
  | nil => cases h
  | cons entry rest ih =>
      cases hdirectory : isDirectory entry with
      | true =>
          rw [listEntries_directory hdirectory] at h
          rw [files, List.filter_cons_of_neg (by simp [hdirectory])]
          exact ih h
      | false =>
          rw [files, List.filter_cons_of_pos (by simp [hdirectory])]
          rcases shows_or_refused lib entry with ⟨object, hshows⟩ | ⟨other, hrefused⟩
          · rw [hshows.listEntries_cons hdirectory] at h
            cases hrest : (listEntries rest : Except (SftpInboxError lib) _) with
            | ok others => rw [hrest] at h; cases h
            | error failure =>
                rw [hrest] at h
                cases h
                obtain ⟨before, found, after, shown, hfiles, hbefore, hrefused⟩ := ih hrest
                refine ⟨entry :: before, found, after, object :: shown, ?_, ?_, hrefused⟩
                · exact congrArg (entry :: ·) hfiles
                · exact .cons hshows hbefore
          · rw [hrefused.listEntries_cons hdirectory] at h
            cases h
            exact ⟨[], entry, files rest, [], rfl, .nil, hrefused⟩

/-! ## Sorting -/

/-- The order of the objects of a listing. -/
def namedBefore (left right : RemoteObject) : Bool := left.name ≤ right.name

theorem namedBefore_trans (left middle right : RemoteObject) (h : namedBefore left middle = true)
    (h' : namedBefore middle right = true) : namedBefore left right = true :=
  decide_eq_true (String.le_trans (of_decide_eq_true h) (of_decide_eq_true h'))

theorem namedBefore_total (left right : RemoteObject) :
    (namedBefore left right || namedBefore right left) = true := by
  rw [Bool.or_eq_true]
  exact (String.le_total left.name right.name).imp decide_eq_true decide_eq_true

/-- Objects with distinct names are sorted in one way. -/
theorem mergeSort_eq_of_perm {others : List RemoteObject} (hperm : objects.Perm others)
    (hdistinct : (objects.map RemoteObject.name).Nodup) :
    objects.mergeSort namedBefore = others.mergeSort namedBefore := by
  have hsorted := List.pairwise_mergeSort namedBefore_trans namedBefore_total
  refine List.Perm.eq_of_pairwise ?_ (hsorted objects) (hsorted others)
    ((List.mergeSort_perm objects _).trans (hperm.trans (List.mergeSort_perm others _).symm))
  intro left right hleft hright hbefore hafter
  have hname : left.name = right.name :=
    String.le_antisymm (of_decide_eq_true hbefore) (of_decide_eq_true hafter)
  have hright' := hperm.mem_iff.2 (List.mem_mergeSort.1 hright)
  exact List.inj_on_of_nodup_map hdistinct (List.mem_mergeSort.1 hleft) hright' hname

/-- The entries of a directory in another order, with distinct names, are listed alike. -/
theorem listing_eq_of_perm {others : List DirectoryEntry} (hperm : entries.Perm others)
    (hok : (listEntries entries : Except (SftpInboxError lib) _) = .ok objects)
    (hdistinct : (objects.map RemoteObject.name).Nodup) :
    ∃ found, (listEntries others : Except (SftpInboxError lib) _) = .ok found ∧
      found.mergeSort namedBefore = objects.mergeSort namedBefore := by
  have hfiles : (files others).Perm (files entries) := (hperm.filter _).symm
  obtain ⟨found, hfound, hobjects⟩ := List.perm_comp_forall₂ hfiles (listEntries_ok_iff.1 hok)
  exact ⟨found, listEntries_ok_iff.2 hfound, (mergeSort_eq_of_perm hobjects.symm hdistinct).symm⟩

/-! ## The operation -/

/-- What a listing of these entries returns. -/
inductive Listing (entries : List DirectoryEntry) :
    Except (SftpInboxError lib) (List RemoteObject) → Prop where
  | listed {shown objects : List RemoteObject} (hshown : List.Forall₂ Shows (files entries) shown)
      (hperm : objects.Perm shown)
      (hsorted : objects.Pairwise fun left right => left.name ≤ right.name) :
      Listing entries (.ok objects)
  | refused {before after : List DirectoryEntry} {entry : DirectoryEntry}
      {shown : List RemoteObject} {error : SftpInboxError lib}
      (hfiles : files entries = before ++ entry :: after)
      (hbefore : List.Forall₂ Shows before shown) (hrefused : Refused entry error) :
      Listing entries (.error error)

/-- What `list` makes of the entries of a directory. -/
theorem listing_of_listEntries (lib : SshLibrary) (entries : List DirectoryEntry) :
    Listing entries ((listEntries entries : Except (SftpInboxError lib) _).map
      fun objects => objects.mergeSort namedBefore) := by
  cases hresult : (listEntries entries : Except (SftpInboxError lib) _) with
  | error error =>
      obtain ⟨before, entry, after, shown, hfiles, hbefore, hrefused⟩ := listEntries_error hresult
      exact .refused hfiles hbefore hrefused
  | ok objects =>
      refine .listed (listEntries_ok_iff.1 hresult) (List.mergeSort_perm objects _) ?_
      refine (List.pairwise_mergeSort namedBefore_trans namedBefore_total objects).imp ?_
      exact fun hbefore => of_decide_eq_true hbefore

/-- The server has listed the directory. -/
def Listed (config : SftpConfig) (trace : List (SshEvent lib)) : Prop :=
  ∃ entries, ⟨.readdir config.receiveDirectory, .ok entries⟩ ∈ trace

/-- A later call lists the directory only by reading it. -/
theorem Listed.of_append {config : SftpConfig} {trace : List (SshEvent lib)} {event : SshEvent lib}
    (h : Listed config (trace ++ [event]))
    (hevent : ∀ entries, event ≠ ⟨.readdir config.receiveDirectory, .ok entries⟩) :
    Listed config trace := by
  obtain ⟨entries, hmem⟩ := h
  rcases List.mem_append.1 hmem with hmem | hmem
  · exact ⟨entries, hmem⟩
  · exact absurd (List.mem_singleton.1 hmem).symm (hevent entries)

/-- A run of a listing. -/
inductive ListRun (config : SftpConfig) :
    Except (SftpInboxError lib) (List RemoteObject) → List (SshEvent lib) → Prop where
  | disconnected {trace : List (SshEvent lib)} (error : SftpConnectionError lib)
      (hlisted : ¬ Listed config trace) : ListRun config (.error (.connection error)) trace
  | answered {entries : List DirectoryEntry}
      {result : Except (SftpInboxError lib) (List RemoteObject)} (before : List (SshEvent lib))
      (hlisting : Listing entries result) :
      ListRun config result (before ++ [⟨.readdir config.receiveDirectory, .ok entries⟩])

/-- Every run of `list` returns what the server has listed, or an error. -/
theorem must_list (config : SftpConfig) (credentials : SftpCredentials)
    {trace : List (SshEvent lib)} (htrace : ¬ Listed config trace) :
    Must (recording _) (fun _ _ => True)
      (list config credentials : ExceptT (SftpInboxError lib) _ _).run (ListRun config) trace := by
  have hsession : Must (recording _) (fun _ _ => True)
      (connectSession config credentials : ConnectProgram lib _).run
      (fun _ after => ¬ Listed config after) trace := by
    refine (only_connectSession config credentials).keeps ?_ htrace
    rintro op before reply _ hop rfl hbefore hlisted
    refine hbefore (hlisted.of_append fun entries heq => hop ?_)
    rw [(Sigma.mk.inj heq).1]
    trivial
  refine must_run_bind.2 (must_run_adapt.2 (must_run_bind.2 (hsession.mono ?_)))
  intro session opened hopened
  cases session with
  | error error => exact .disconnected error hopened
  | ok value =>
      refine must_run_bind.2 (must_run_adapt.2 (must_perform_recording.2 ⟨trivial, ?_⟩))
      intro reply
      have hinitialized : ¬ Listed config (opened ++ [⟨.sftp, reply⟩]) :=
        fun hlisted => hopened (hlisted.of_append fun _ heq => by cases (Sigma.mk.inj heq).1)
      rcases reply with error | value
      · exact .disconnected (.ssh error) hinitialized
      refine must_run_adapt.2 (must_perform_recording.2 ⟨trivial, fun reply => ?_⟩)
      rcases reply with error | entries
      · refine .disconnected (.ssh error) fun hlisted => hinitialized (hlisted.of_append ?_)
        intro entries heq
        cases eq_of_heq (Sigma.mk.inj heq).2
      have hlisting := listing_of_listEntries lib entries
      refine must_run_bind.2 ?_
      cases hresult : (listEntries entries : Except (SftpInboxError lib) _) with
      | error error =>
          rw [hresult] at hlisting
          exact .answered _ hlisting
      | ok objects =>
          rw [hresult] at hlisting
          exact .answered _ hlisting

/-- In every run of a listing, if the server has listed the directory then all of its files are
returned, sorted by name, or the error is about the first of them that cannot be reported. -/
theorem list_exact {config : SftpConfig} {credentials : SftpCredentials}
    {result : Except (SftpInboxError lib) (List RemoteObject)} {trace : List (SshEvent lib)}
    (h : Runs (recording _) (list config credentials).run [] result trace) :
    ListRun config result trace :=
  (must_list config credentials fun ⟨_, hmem⟩ => List.not_mem_nil hmem).runs h

/-- The files of the sample, as they are sorted. -/
def sampleObjects : List RemoteObject := [⟨"ProcessResult", 3⟩, ⟨"SummaryResult", 3⟩]

theorem sample_sorted :
    List.mergeSort [⟨"SummaryResult", 3⟩, ⟨"ProcessResult", 3⟩] namedBefore = sampleObjects := by
  simp [List.mergeSort, List.MergeSort.Internal.splitInTwo, namedBefore, sampleObjects]

/-- A listing of two files and a directory. -/
def sampleListing :
    Program (sshSignature sampleLibrary)
        (Except (SftpInboxError sampleLibrary) (List RemoteObject)) ×
      List (SshEvent sampleLibrary) :=
  sampleHandler.runUntil (fun _ _ => ()) (fun _ => false)
    (list sampleConfig ⟨"transport-id", "secret"⟩).run []

/-- The sample lists two files. -/
theorem sample_list_exact : ListRun sampleConfig (.ok sampleObjects) sampleListing.2 := by
  have hreturns : sampleHandler.Returns (fun _ _ => ())
      (list sampleConfig ⟨"transport-id", "secret"⟩).run []
      (.ok (List.mergeSort [⟨"SummaryResult", 3⟩, ⟨"ProcessResult", 3⟩] namedBefore))
      sampleListing.2 := Prod.ext (by rfl) rfl
  rw [sample_sorted] at hreturns
  exact list_exact (hreturns.runs_of fun _ _ => rfl)

end TwEinvoice.Sftp
