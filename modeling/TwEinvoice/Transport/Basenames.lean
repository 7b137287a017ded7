import TwEinvoice.Transport.Package
import TwEinvoice.Transport.ReceiverSafety

/-!
# The guards of remote names

Upload preparation, the SFTP client and the durable receiver each refuse names that are not a
basename. The first two refuse the same names; the receiver does not refuse a NUL character.
-/

namespace TwEinvoice.Transport

/-- `safe_remote_basename`. -/
def safeRemoteBasename (value : String) : Bool :=
  value ≠ "" ∧ value ≠ "." ∧ value ≠ ".." ∧ '/' ∉ value.toList ∧ '\\' ∉ value.toList ∧
    '\x00' ∉ value.toList

/-- The name is not empty, does not stand for a directory and has no separator. -/
def IsComponent (name : String) : Prop :=
  name ≠ "" ∧ name ≠ "." ∧ name ≠ ".." ∧ '/' ∉ name.toList ∧ '\\' ∉ name.toList

/-- The guard of the SFTP client is about components and the NUL character. -/
theorem safe_remote_basename_iff (name : String) :
    safeRemoteBasename name = true ↔ IsComponent name ∧ '\x00' ∉ name.toList := by
  simp only [safeRemoteBasename, IsComponent, decide_eq_true_eq, and_assoc]

/-- The guard of an upload is about the same. -/
theorem validate_basename_iff {crate : ZipCrate} (field name : String) :
    (validateBasename field name : Except (PrepareUploadError crate) Unit) = .ok () ↔
      IsComponent name ∧ '\x00' ∉ name.toList := by
  unfold validateBasename IsComponent
  split_ifs with hrefused
  · refine iff_of_false nofun ?_
    tauto
  · refine iff_of_true rfl ?_
    tauto

/-- The last check of `validate_remote_name` excludes nothing more. -/
theorem validate_remote_name_iff {ε : Type} (name : String) :
    (validateRemoteName name : Except (ReceiveError ε) Unit) = .ok () ↔ IsComponent name := by
  constructor
  · intro h
    simp only [validateRemoteName] at h
    split_ifs at h with hsafe
    obtain ⟨hempty, hcurrent, hparent, hslash, hbackslash, _⟩ := hsafe
    exact ⟨hempty, hcurrent, hparent, hslash, hbackslash⟩
  · rintro ⟨hempty, hcurrent, hparent, hslash, hbackslash⟩
    exact if_pos ⟨hempty, hcurrent, hparent, hslash, hbackslash,
      file_name_eq_self hempty hcurrent hparent hslash⟩

/-- The three guards accept a name, or all refuse it. -/
def GuardsAgree (crate : ZipCrate) (ε : Type) (field name : String) : Prop :=
  ((validateBasename field name : Except (PrepareUploadError crate) Unit) = .ok () ↔
    safeRemoteBasename name = true) ∧
  ((validateRemoteName name : Except (ReceiveError ε) Unit) = .ok () ↔
    safeRemoteBasename name = true)

/-- The guards agree on the names without a NUL character, and on those with a separator. -/
theorem guards_agree_iff (crate : ZipCrate) (ε : Type) (field name : String) :
    GuardsAgree crate ε field name ↔
      '\x00' ∉ name.toList ∨ '/' ∈ name.toList ∨ '\\' ∈ name.toList := by
  rw [GuardsAgree, validate_basename_iff, validate_remote_name_iff, safe_remote_basename_iff]
  constructor
  · intro h
    obtain ⟨_, hreceiver⟩ := h
    by_contra hnot
    obtain ⟨hnul, hslash, hbackslash⟩ : '\x00' ∈ name.toList ∧ '/' ∉ name.toList ∧
        '\\' ∉ name.toList := by
      push Not at hnot
      exact hnot
    -- None of the three short names has a NUL character.
    have hne : ∀ other : String, '\x00' ∉ other.toList → name ≠ other := by
      rintro other hother rfl
      exact hother hnul
    exact (hreceiver.1 ⟨hne "" (by decide), hne "." (by decide), hne ".." (by decide), hslash,
      hbackslash⟩).2 hnul
  · intro hname
    refine ⟨Iff.rfl, fun hcomponent => ⟨hcomponent, ?_⟩, And.left⟩
    obtain hnul | hslash | hbackslash := hname
    · exact hnul
    · exact absurd hslash hcomponent.2.2.2.1
    · exact absurd hbackslash hcomponent.2.2.2.2

/-- The guard of the receiver accepts a NUL character. -/
theorem receiver_accepts_nul :
    (validateRemoteName "a\x00b" : Except (ReceiveError Unit) Unit) = .ok () ∧
      ¬ GuardsAgree storedCrate Unit "remote filename" "a\x00b" := by
  have hreceiver : (validateRemoteName "a\x00b" : Except (ReceiveError Unit) Unit) = .ok () :=
    (validate_remote_name_iff _).2 (by unfold IsComponent; decide)
  refine ⟨hreceiver, fun hagree => ?_⟩
  exact absurd (hagree.2.1 hreceiver) (by decide)

end TwEinvoice.Transport
