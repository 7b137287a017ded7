import Mathlib.Data.List.Basic
import TwEinvoice.Rust.Machine
import TwEinvoice.Rust.Text

/-!
# The upload object

`prepare_upload_object`: the bytes that are uploaded for a signed file, and what is announced
about them. The `zip` crate is a parameter. `decodeObject` undoes the packaging.
-/

namespace TwEinvoice.Transport

open Rust

/-- Whether the object uploaded over SFTP was ZIP-compressed before submission. -/
inductive ZipMode where
  | plain
  | zip
  deriving DecidableEq

/-- What the source calls of the `zip` crate, a writer being given as its state. -/
structure ZipCrate where
  Writer : Type
  ZipError : Type
  IoError : Type
  new : Writer
  startFile : Writer → String → Except ZipError Writer
  writeAll : Writer → List UInt8 → Except IoError Writer
  finish : Writer → Except ZipError (List UInt8)

/-- Object ready to be uploaded to the platform SFTP `/in` directory. -/
structure PreparedUploadObject where
  remoteFilename : String
  uploadedBytes : List UInt8
  notificationSize : UInt64
  zipMode : ZipMode
  deriving DecidableEq

/-- Why no object is produced. -/
inductive PrepareUploadError (crate : ZipCrate) where
  | invalidFilename (field : String)
  | sourceTooLarge (actual maximum : Nat)
  | lengthOutOfRange
  | zip (error : crate.ZipError)
  | io (error : crate.IoError)

/-- Maximum signed source-file length accepted before the optional ZIP stage. -/
def maxSignedSourceBytes : Nat := 20 * 1024 * 1024

variable {crate : ZipCrate}

/-- `validate_basename`. -/
def validateBasename (field value : String) : Except (PrepareUploadError crate) Unit :=
  if value = "" ∨ value = "." ∨ value = ".." ∨ '/' ∈ value.toList ∨ '\\' ∈ value.toList ∨
      '\x00' ∈ value.toList then
    .error (.invalidFilename field)
  else .ok ()

/-- `zip_single_entry`. -/
def zipSingleEntry (crate : ZipCrate) (filename : String) (bytes : List UInt8) :
    Except (PrepareUploadError crate) (List UInt8) := do
  let writer ← (crate.startFile crate.new filename).mapError .zip
  let writer ← (crate.writeAll writer bytes).mapError .io
  (crate.finish writer).mapError .zip

/-- The bytes that are uploaded, in `prepare_upload_object`. -/
def packageBytes (crate : ZipCrate) (signedLocalFilename : String) (signedBytes : List UInt8) :
    ZipMode → Except (PrepareUploadError crate) (List UInt8)
  | .plain => .ok signedBytes
  | .zip => zipSingleEntry crate signedLocalFilename signedBytes

/-- `prepare_upload_object`. -/
def prepareUploadObject (crate : ZipCrate) (signedLocalFilename remoteFilename : String)
    (signedBytes : List UInt8) (zipMode : ZipMode) :
    Except (PrepareUploadError crate) PreparedUploadObject := do
  validateBasename "signed local filename" signedLocalFilename
  validateBasename "remote filename" remoteFilename
  ensure (signedBytes.length ≤ maxSignedSourceBytes)
    (.sourceTooLarge signedBytes.length maxSignedSourceBytes)
  let notificationSize ← okOr (u64TryFrom signedBytes.length) .lengthOutOfRange
  let uploadedBytes ← packageBytes crate signedLocalFilename signedBytes zipMode
  return { remoteFilename, uploadedBytes, notificationSize, zipMode }

/-- What `prepare_upload_object` returns. -/
theorem prepare_upload_object_ok {signedLocalFilename remoteFilename : String}
    {signedBytes : List UInt8} {zipMode : ZipMode} {object : PreparedUploadObject}
    (h : prepareUploadObject crate signedLocalFilename remoteFilename signedBytes zipMode =
      .ok object) :
    object.remoteFilename = remoteFilename ∧ object.zipMode = zipMode ∧
      object.notificationSize.toNat = signedBytes.length ∧
      packageBytes crate signedLocalFilename signedBytes zipMode = .ok object.uploadedBytes := by
  obtain ⟨_, _, h⟩ := ok_of_bind_ok h
  obtain ⟨_, _, h⟩ := ok_of_bind_ok h
  obtain ⟨_, _, h⟩ := ok_of_bind_ok h
  obtain ⟨size, hsize, h⟩ := ok_of_bind_ok h
  obtain ⟨uploaded, huploaded, h⟩ := ok_of_bind_ok h
  cases h
  exact ⟨rfl, rfl, u64_try_from_eq_some (ok_or_eq_ok.1 hsize), huploaded⟩

/-! ## Decoding the object -/

/-- The reader gives back the one entry of every archive that the crate writes. -/
def Unzips (crate : ZipCrate) (unzip : List UInt8 → Option (List (String × List UInt8))) : Prop :=
  ∀ filename bytes archive, zipSingleEntry crate filename bytes = .ok archive →
    unzip archive = some [(filename, bytes)]

/-- Decode an object by its ZIP flag. An archive must hold one entry of the given name. -/
def decodeObject (unzip : List UInt8 → Option (List (String × List UInt8))) (filename : String) :
    ZipMode → List UInt8 → Option (List UInt8)
  | .plain, uploaded => some uploaded
  | .zip, uploaded =>
      match unzip uploaded with
      | some [(entry, bytes)] => if entry = filename then some bytes else none
      | _ => none

/-- A package is decoded to the bytes that were signed. -/
theorem decode_packageBytes {unzip : List UInt8 → Option (List (String × List UInt8))}
    (hunzip : Unzips crate unzip) {filename : String} {signedBytes uploaded : List UInt8}
    {zipMode : ZipMode} (h : packageBytes crate filename signedBytes zipMode = .ok uploaded) :
    decodeObject unzip filename zipMode uploaded = some signedBytes := by
  cases zipMode with
  | plain =>
      cases h
      rfl
  | zip => simp [decodeObject, hunzip _ _ _ h]

/-! ## A crate that stores -/

/-- A crate whose archives are not compressed: each byte of the name follows a 1, and a 0
separates the name from the bytes. -/
def storedCrate : ZipCrate where
  Writer := List UInt8
  ZipError := Unit
  IoError := Unit
  new := []
  startFile writer filename := .ok (writer ++ (intoBytes filename).flatMap ([1, ·]) ++ [0])
  writeAll writer bytes := .ok (writer ++ bytes)
  finish writer := .ok writer

/-- The name and the bytes of a stored entry. -/
def storedEntry : List UInt8 → Option (List UInt8 × List UInt8)
  | 0 :: bytes => some ([], bytes)
  | 1 :: byte :: rest => (storedEntry rest).map fun (name, bytes) => (byte :: name, bytes)
  | _ => none

def storedUnzip (archive : List UInt8) : Option (List (String × List UInt8)) := do
  let (name, bytes) ← storedEntry archive
  let filename ← fromUtf8 name
  return [(filename, bytes)]

theorem storedEntry_append (name bytes : List UInt8) :
    storedEntry (name.flatMap ([1, ·]) ++ 0 :: bytes) = some (name, bytes) := by
  induction name with
  | nil => rfl
  | cons byte name ih =>
      show (storedEntry (name.flatMap ([1, ·]) ++ 0 :: bytes)).map _ = _
      rw [ih]
      rfl

theorem stored_unzips : Unzips storedCrate storedUnzip := by
  intro filename bytes archive h
  have harchive : (intoBytes filename).flatMap ([1, ·]) ++ [0] ++ bytes = archive :=
    Except.ok.inj h
  rw [List.append_assoc] at harchive
  rw [← harchive, storedUnzip]
  show (storedEntry ((intoBytes filename).flatMap ([1, ·]) ++ 0 :: bytes)).bind _ = _
  rw [storedEntry_append]
  show (fromUtf8 (intoBytes filename)).bind _ = _
  rw [from_utf8_into_bytes]
  rfl

end TwEinvoice.Transport
