import Mathlib.Algebra.Group.Int.Defs
import TwEinvoice.Parsing.Split
import TwEinvoice.Rust.Machine
import TwEinvoice.Rust.Text

/-!
# Turnkey filenames

The common name of a message, which names its remote object, and the local filename of a pack.
-/

namespace TwEinvoice.Transport

open Parsing Rust

/-- Why a filename was not accepted. -/
inductive FilenameError where
  | invalidPackFilename
  | invalidPackCount
  | invalidCommonNameParts (actual : Nat)
  | invalidCommonSegmentLength (index expected actual : Nat)
  deriving DecidableEq

/-- The common remote object name used by Turnkey 3.2.x. -/
structure MessageCommonName where
  migVersion : String
  messageType : String
  date : String
  time : String
  uuid : String
  deriving DecidableEq

/-- `MessageCommonName::SEGMENT_LENGTHS`. -/
def MessageCommonName.segmentLengths : List Nat := [3, 5, 8, 9, 8, 4, 4, 4, 12]

/-- The loop of `MessageCommonName::parse` over the parts from an index on. -/
def MessageCommonName.checkSegments : Nat → List (String × Nat) → Except FilenameError Unit
  | _, [] => .ok ()
  | index, (part, expected) :: rest =>
      if len part ≠ expected then
        .error (.invalidCommonSegmentLength index expected (len part))
      else checkSegments (index + 1) rest

/-- `MessageCommonName::parse`. -/
def MessageCommonName.parse (value : String) : Except FilenameError MessageCommonName := do
  let parts := (value.toList.splitOn '-').map String.ofList
  match parts with
  | [migVersion, messageType, date, time, first, second, third, fourth, last] =>
      checkSegments 0 (parts.zip segmentLengths)
      return {
        migVersion, messageType, date, time
        uuid := "-".intercalate [first, second, third, fourth, last] }
  | _ => throw (.invalidCommonNameParts parts.length)

/-- `MessageCommonName::render`. -/
def MessageCommonName.render (name : MessageCommonName) : String :=
  name.migVersion ++ "-" ++ name.messageType ++ "-" ++ name.date ++ "-" ++ name.time ++ "-" ++
    name.uuid

/-- `MessageCommonName::from_parts`. -/
def MessageCommonName.fromParts (migVersion messageType date time uuid : String) :
    Except FilenameError MessageCommonName :=
  parse (migVersion ++ "-" ++ messageType ++ "-" ++ date ++ "-" ++ time ++ "-" ++ uuid)

/-- Local filename produced before the Pack/SendFile boundary. -/
structure TurnkeyPackFilename where
  sourceName : String
  fromParty : String
  toParty : String
  commonName : MessageCommonName
  packCount : Int32
  deriving DecidableEq

/-- `TurnkeyPackFilename::parse`. -/
def TurnkeyPackFilename.parse (value : String) : Except FilenameError TurnkeyPackFilename :=
  match (rsplitn '_' 5 value.toList).map String.ofList with
  | [count, common, toParty, fromParty, sourceName] => do
      ensure (sourceName ≠ "") .invalidPackFilename
      let packCount ← okOr (parseI32 count) .invalidPackCount
      let commonName ← MessageCommonName.parse common
      return { sourceName, fromParty, toParty, commonName, packCount }
  | _ => .error .invalidPackFilename

/-- `TurnkeyPackFilename::render`. -/
def TurnkeyPackFilename.render (filename : TurnkeyPackFilename) : String :=
  filename.sourceName ++ "_" ++ filename.fromParty ++ "_" ++ filename.toParty ++ "_" ++
    filename.commonName.render ++ "_" ++ toString filename.packCount.toInt

/-- Filename used for the SFTP `/in` object and PFS001 `filename` field. -/
def TurnkeyPackFilename.remoteFilename (filename : TurnkeyPackFilename) : String :=
  filename.commonName.render

end TwEinvoice.Transport
