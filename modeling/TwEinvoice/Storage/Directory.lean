import Mathlib.Logic.Function.Basic

/-!
# A directory of files with hard links

Names refer to files through directory entries, so two names may refer to one file. Beside the
bytes the model keeps what has been synchronized: a file's bytes since they were last written,
and an entry since it was made. `CrashDurable` is what the two say together about a name.
-/

namespace TwEinvoice.Storage

/-- The contents of a file. `synced` says that they were synchronized after the last write. -/
structure File where
  bytes : List UInt8
  synced : Bool
  deriving DecidableEq

/-- An entry of a directory. `linked` says that a hard link made it, `synced` that the
directory was synchronized after that. -/
structure Entry where
  inode : Nat
  linked : Bool
  synced : Bool
  deriving DecidableEq

/-- A directory with the files that its entries refer to; `next` is the next unused file. -/
structure Directory where
  entry : String → Option Entry
  file : Nat → File
  next : Nat
  entry_lt : ∀ name found, entry name = some found → found.inode < next

namespace Directory

/-- The directory without entries. -/
def empty : Directory := ⟨fun _ => none, fun _ => ⟨[], false⟩, 0, by simp⟩

/-- The bytes under a name. -/
def read (directory : Directory) (name : String) : Option (List UInt8) :=
  (directory.entry name).map fun found => (directory.file found.inode).bytes

/-- Make a new empty file under the name. -/
def create (directory : Directory) (name : String) : Directory where
  entry := Function.update directory.entry name (some ⟨directory.next, false, false⟩)
  file := Function.update directory.file directory.next ⟨[], false⟩
  next := directory.next + 1
  entry_lt := by
    intro other found hfound
    by_cases hname : other = name
    · subst hname
      simp only [Function.update_self, Option.some.injEq] at hfound
      subst hfound
      exact Nat.lt_succ_self _
    · rw [Function.update_of_ne hname] at hfound
      exact Nat.lt_succ_of_lt (directory.entry_lt other found hfound)

/-- Write bytes at the end of a file. -/
def append (directory : Directory) (inode : Nat) (bytes : List UInt8) : Directory :=
  { directory with
    file := Function.update directory.file inode
      ⟨(directory.file inode).bytes ++ bytes, false⟩ }

/-- Synchronize a file. -/
def sync (directory : Directory) (inode : Nat) : Directory :=
  { directory with
    file := Function.update directory.file inode ⟨(directory.file inode).bytes, true⟩ }

/-- Make a hard link to the file of an entry. -/
def link (directory : Directory) (source : Entry) (hsource : source.inode < directory.next)
    (destination : String) : Directory where
  entry := Function.update directory.entry destination (some ⟨source.inode, true, false⟩)
  file := directory.file
  next := directory.next
  entry_lt := by
    intro other found hfound
    by_cases hname : other = destination
    · subst hname
      simp only [Function.update_self, Option.some.injEq] at hfound
      subst hfound
      exact hsource
    · rw [Function.update_of_ne hname] at hfound
      exact directory.entry_lt other found hfound

/-- Synchronize the directory itself. -/
def syncEntries (directory : Directory) : Directory where
  entry := fun name => (directory.entry name).map fun found => { found with synced := true }
  file := directory.file
  next := directory.next
  entry_lt := by
    intro name found hfound
    obtain ⟨earlier, hearlier, rfl⟩ := Option.map_eq_some_iff.1 hfound
    exact directory.entry_lt name earlier hearlier

/-- Remove one name. -/
def remove (directory : Directory) (name : String) : Directory where
  entry := Function.update directory.entry name none
  file := directory.file
  next := directory.next
  entry_lt := by
    intro other found hfound
    by_cases hname : other = name
    · subst hname
      simp at hfound
    · rw [Function.update_of_ne hname] at hfound
      exact directory.entry_lt other found hfound

/-- The name survives a loss of power with the file's bytes: a hard link made its entry, the
directory was synchronized after that, and so was the file after its last write. -/
def CrashDurable (directory : Directory) (name : String) : Prop :=
  ∃ found, directory.entry name = some found ∧ found.linked ∧ found.synced ∧
    (directory.file found.inode).synced

/-- A hard link only ever publishes synchronized bytes. -/
def LinksSynced (directory : Directory) : Prop :=
  ∀ name found, directory.entry name = some found → found.linked →
    (directory.file found.inode).synced

/-- All entries except temporary ones were made by a hard link and synchronized since. -/
def Settled (temporary : String → Prop) (directory : Directory) : Prop :=
  ∀ name found, ¬ temporary name → directory.entry name = some found → found.linked ∧ found.synced

/-! ## Which file a name refers to -/

/-- The file that a name refers to. -/
def inodeOf (directory : Directory) (name : String) : Option Nat :=
  (directory.entry name).map Entry.inode

/-- What is read under a name are the bytes of its inode. -/
theorem read_eq_inodeOf (directory : Directory) (name : String) :
    directory.read name =
      (directory.inodeOf name).map fun inode => (directory.file inode).bytes := by
  rw [inodeOf, Option.map_map]
  rfl

@[simp]
theorem inodeOf_eq_none {directory : Directory} {name : String} :
    directory.inodeOf name = none ↔ directory.entry name = none := by
  simp [inodeOf]

theorem inodeOf_lt {directory : Directory} {name : String} {inode : Nat}
    (h : directory.inodeOf name = some inode) : inode < directory.next := by
  obtain ⟨found, hfound, rfl⟩ := Option.map_eq_some_iff.1 h
  exact directory.entry_lt name found hfound

/-- A name with a file is not one without. -/
theorem ne_of_inodeOf {directory : Directory} {name free : String} {inode : Nat}
    (h : directory.inodeOf name = some inode) (hfree : directory.inodeOf free = none) :
    name ≠ free := by
  intro heq
  rw [heq, hfree] at h
  cases h

theorem ne_of_read {directory : Directory} {name free : String} {bytes : List UInt8}
    (h : directory.read name = some bytes) (hfree : directory.inodeOf free = none) :
    name ≠ free := by
  rw [read_eq_inodeOf] at h
  obtain ⟨inode, hinode, _⟩ := Option.map_eq_some_iff.1 h
  exact ne_of_inodeOf hinode hfree

/-- An update of one entry is one of one file. -/
theorem map_inode_update (entry : String → Option Entry) (name other : String)
    (found : Option Entry) :
    (Function.update entry name found other).map Entry.inode =
      Function.update (fun name => (entry name).map Entry.inode) name (found.map Entry.inode)
        other := by
  by_cases h : other = name
  · rw [h, Function.update_self, Function.update_self]
  · rw [Function.update_of_ne h, Function.update_of_ne h]

/-- A created name refers to a new inode. -/
theorem inodeOf_create (directory : Directory) (name : String) :
    (directory.create name).inodeOf =
      Function.update directory.inodeOf name (some directory.next) :=
  funext fun other => map_inode_update directory.entry name other _

/-- A link refers to the inode of its source. -/
theorem inodeOf_link (directory : Directory) (source : Entry)
    (hsource : source.inode < directory.next) (name : String) :
    (directory.link source hsource name).inodeOf =
      Function.update directory.inodeOf name (some source.inode) :=
  funext fun other => map_inode_update directory.entry name other _

/-- A removed name refers to nothing. -/
theorem inodeOf_remove (directory : Directory) (name : String) :
    (directory.remove name).inodeOf = Function.update directory.inodeOf name none :=
  funext fun other => map_inode_update directory.entry name other _

/-- The two directories have the same names for the same files with the same bytes. -/
structure SameFiles (directory other : Directory) : Prop where
  inodeOf : other.inodeOf = directory.inodeOf
  bytes : ∀ inode, (other.file inode).bytes = (directory.file inode).bytes

theorem SameFiles.refl (directory : Directory) : directory.SameFiles directory :=
  ⟨rfl, fun _ => rfl⟩

theorem SameFiles.read {directory other : Directory} (h : directory.SameFiles other)
    (name : String) : other.read name = directory.read name := by
  rw [read_eq_inodeOf, read_eq_inodeOf, h.inodeOf]
  exact congrArg (Option.map · _) (funext h.bytes)

/-- Synchronizing a file changes no bytes. -/
theorem sameFiles_sync (directory : Directory) (inode : Nat) :
    directory.SameFiles (directory.sync inode) := by
  refine ⟨rfl, fun other => ?_⟩
  by_cases h : other = inode
  · simp [sync, h]
  · simp [sync, Function.update_of_ne h]

/-- Synchronizing the directory changes no bytes. -/
theorem sameFiles_syncEntries (directory : Directory) :
    directory.SameFiles directory.syncEntries := by
  refine ⟨funext fun name => ?_, fun _ => rfl⟩
  simp [Directory.inodeOf, syncEntries, Function.comp_def]

/-! ## What the operations do to the bytes under a name -/

@[simp]
theorem read_eq_none {directory : Directory} {name : String} :
    directory.read name = none ↔ directory.entry name = none := by
  simp [read]

/-- A removed name has no bytes. -/
@[simp]
theorem read_remove_self (directory : Directory) (name : String) :
    (directory.remove name).read name = none := by
  simp [read, remove]

/-- Removing a name that is not there changes nothing. -/
theorem remove_of_none {directory : Directory} {name : String}
    (h : directory.entry name = none) : directory.remove name = directory := by
  obtain ⟨entry, file, next, hlt⟩ := directory
  have hentry : Function.update entry name none = entry := by
    rw [← show entry name = none from h, Function.update_eq_self]
  simp only [remove, hentry]

theorem read_remove_of_ne {directory : Directory} {name other : String} (h : other ≠ name) :
    (directory.remove name).read other = directory.read other := by
  simp [read, remove, Function.update_of_ne h]

/-- A created file is empty. -/
theorem read_create (directory : Directory) (name : String) :
    (directory.create name).read name = some [] := by
  simp only [read, create, Function.update_self, Option.map_some]

theorem read_create_of_ne {directory : Directory} {name other : String} (h : other ≠ name) :
    (directory.create name).read other = directory.read other := by
  simp only [read, create, Function.update_of_ne h]
  cases hentry : directory.entry other with
  | none => rfl
  | some found =>
      rw [Option.map_some, Option.map_some,
        Function.update_of_ne (Nat.ne_of_lt (directory.entry_lt other found hentry))]

/-- Writing to a file is not seen under the name of another. -/
theorem read_append_of_ne {directory : Directory} {inode : Nat} {name : String}
    (h : ∀ found, directory.entry name = some found → found.inode ≠ inode) (bytes : List UInt8) :
    (directory.append inode bytes).read name = directory.read name := by
  simp only [read, append]
  cases hentry : directory.entry name with
  | none => rfl
  | some found => rw [Option.map_some, Option.map_some, Function.update_of_ne (h found hentry)]

theorem read_link_of_ne {directory : Directory} {source : Entry}
    {hsource : source.inode < directory.next} {name other : String} (h : other ≠ name) :
    (directory.link source hsource name).read other = directory.read other := by
  simp [read, link, Function.update_of_ne h]

@[simp]
theorem read_syncEntries (directory : Directory) (name : String) :
    directory.syncEntries.read name = directory.read name :=
  (sameFiles_syncEntries directory).read name

/-- A link has the bytes of its source. -/
@[simp]
theorem read_link_self (directory : Directory) (source : Entry)
    (hsource : source.inode < directory.next) (name : String) :
    (directory.link source hsource name).read name =
      some (directory.file source.inode).bytes := by
  simp [read, link]

@[simp]
theorem read_sync (directory : Directory) (inode : Nat) (name : String) :
    (directory.sync inode).read name = directory.read name :=
  (sameFiles_sync directory inode).read name

/-! ## What the operations do to synchronized links -/

theorem linksSynced_empty : empty.LinksSynced := by
  intro name found hfound
  simp [empty] at hfound

/-- A new file is not linked to. -/
theorem LinksSynced.create {directory : Directory} (h : directory.LinksSynced) (name : String) :
    (directory.create name).LinksSynced := by
  intro other found hfound hlinked
  by_cases hname : other = name
  · subst hname
    simp only [Directory.create, Function.update_self, Option.some.injEq] at hfound
    subst hfound
    exact absurd hlinked Bool.false_ne_true
  · simp only [Directory.create, Function.update_of_ne hname] at hfound ⊢
    rw [Function.update_of_ne (Nat.ne_of_lt (directory.entry_lt other found hfound))]
    exact h other found hfound hlinked

/-- Writing to a file leaves the links alone if none refers to it. -/
theorem LinksSynced.append {directory : Directory} (h : directory.LinksSynced) {inode : Nat}
    (hinode : ∀ name found, directory.entry name = some found → found.linked →
      found.inode ≠ inode) (bytes : List UInt8) : (directory.append inode bytes).LinksSynced := by
  intro name found hfound hlinked
  show ((Function.update directory.file inode _) found.inode).synced
  rw [Function.update_of_ne (hinode name found hfound hlinked)]
  exact h name found hfound hlinked

theorem LinksSynced.sync {directory : Directory} (h : directory.LinksSynced) (inode : Nat) :
    (directory.sync inode).LinksSynced := by
  intro name found hfound hlinked
  show ((Function.update directory.file inode _) found.inode).synced
  by_cases hinode : found.inode = inode
  · simp [hinode]
  · rw [Function.update_of_ne hinode]
    exact h name found hfound hlinked

/-- A link to synchronized bytes is a synchronized link. -/
theorem LinksSynced.link {directory : Directory} (h : directory.LinksSynced) {source : Entry}
    (hsource : source.inode < directory.next) (hsynced : (directory.file source.inode).synced)
    (destination : String) : (directory.link source hsource destination).LinksSynced := by
  intro name found hfound hlinked
  by_cases hname : name = destination
  · subst hname
    simp only [Directory.link, Function.update_self, Option.some.injEq] at hfound
    subst hfound
    exact hsynced
  · simp only [Directory.link, Function.update_of_ne hname] at hfound
    exact h name found hfound hlinked

theorem LinksSynced.syncEntries {directory : Directory} (h : directory.LinksSynced) :
    directory.syncEntries.LinksSynced := by
  intro name found hfound hlinked
  obtain ⟨earlier, hearlier, rfl⟩ := Option.map_eq_some_iff.1 hfound
  exact h name earlier hearlier hlinked

/-- Removing an entry leaves the others synchronized. -/
theorem LinksSynced.remove {directory : Directory} (h : directory.LinksSynced) (name : String) :
    (directory.remove name).LinksSynced := by
  intro other found hfound hlinked
  by_cases hname : other = name
  · subst hname
    simp [Directory.remove] at hfound
  · simp only [Directory.remove, Function.update_of_ne hname] at hfound
    exact h other found hfound hlinked

/-- A synchronized link is durable. -/
theorem LinksSynced.crashDurable {directory : Directory} (h : directory.LinksSynced)
    {name : String} {found : Entry} (hfound : directory.entry name = some found)
    (hlinked : found.linked) (hsynced : found.synced) : directory.CrashDurable name :=
  ⟨found, hfound, hlinked, hsynced, h name found hfound hlinked⟩

/-! ## What the operations do to settled entries -/

section Settled

variable {temporary : String → Prop} {directory : Directory} {name : String}

theorem settled_empty : empty.Settled temporary := by
  intro name found _ hfound
  cases hfound

/-- A temporary entry that is made or removed leaves the others settled. -/
theorem Settled.create (h : directory.Settled temporary) (hname : temporary name) :
    (directory.create name).Settled temporary := by
  intro other found hother hfound
  have hne : other ≠ name := fun heq => hother (heq ▸ hname)
  simp only [Directory.create, Function.update_of_ne hne] at hfound
  exact h other found hother hfound

theorem Settled.remove (h : directory.Settled temporary) (name : String) :
    (directory.remove name).Settled temporary := by
  intro other found hother hfound
  by_cases hname : other = name
  · subst hname
    simp [Directory.remove] at hfound
  · simp only [Directory.remove, Function.update_of_ne hname] at hfound
    exact h other found hother hfound

/-- A link is settled once the directory is synchronized. -/
theorem Settled.published (h : directory.Settled temporary) {source : Entry}
    (hsource : source.inode < directory.next) (name : String) :
    (directory.link source hsource name).syncEntries.Settled temporary := by
  intro other found hother hfound
  obtain ⟨earlier, hearlier, rfl⟩ := Option.map_eq_some_iff.1 hfound
  refine ⟨?_, rfl⟩
  by_cases hname : other = name
  · subst hname
    simp only [Directory.link, Function.update_self, Option.some.injEq] at hearlier
    subst hearlier
    rfl
  · simp only [Directory.link, Function.update_of_ne hname] at hearlier
    exact (h other earlier hother hearlier).1

end Settled

end Directory

end TwEinvoice.Storage
