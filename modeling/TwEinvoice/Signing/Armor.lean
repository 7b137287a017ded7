import Mathlib.Algebra.Group.Nat.Defs
import Mathlib.Data.List.Basic

/-!
# Transport armor

`CmsSignedData::to_turnkey_armored`: the encoded CMS in Base64, wrapped at 64 characters. The
`STANDARD` engine of the source is the Base64 of RFC 4648 with padding.
-/

namespace TwEinvoice.Signing

/-- The character of a 6-bit value. -/
def base64Symbol (value : Nat) : Char :=
  if value < 26 then Char.ofNat ('A'.toNat + value)
  else if value < 52 then Char.ofNat ('a'.toNat + (value - 26))
  else if value < 62 then Char.ofNat ('0'.toNat + (value - 52))
  else if value = 62 then '+'
  else '/'

/-- `STANDARD.encode`. -/
def base64 : List UInt8 → List Char
  | [] => []
  | [a] =>
      [base64Symbol (a.toNat / 4), base64Symbol (a.toNat % 4 * 16), '=', '=']
  | [a, b] =>
      [base64Symbol (a.toNat / 4), base64Symbol (a.toNat % 4 * 16 + b.toNat / 16),
        base64Symbol (b.toNat % 16 * 4), '=']
  | a :: b :: c :: rest =>
      base64Symbol (a.toNat / 4) :: base64Symbol (a.toNat % 4 * 16 + b.toNat / 16) ::
        base64Symbol (b.toNat % 16 * 4 + c.toNat / 64) :: base64Symbol (c.toNat % 64) ::
          base64 rest

/-- Why bytes are not wrapped as CMS `SignedData`. -/
inductive SignedDataError where
  | empty
  deriving DecidableEq

/-- Encoded CMS `SignedData` before Turnkey transport armor is applied. It is never empty: the
only bytes that are not checked come from the encoder. -/
structure CmsSignedData where
  encoded : List UInt8
  nonempty : encoded ≠ []

/-- `CmsSignedData::from_encoded`. -/
def CmsSignedData.fromEncoded (bytes : List UInt8) : Except SignedDataError CmsSignedData :=
  if h : bytes = [] then .error .empty else .ok ⟨bytes, h⟩

/-- `CmsSignedData::to_turnkey_armored`. -/
def CmsSignedData.toTurnkeyArmored (cms : CmsSignedData) : String :=
  let lineMask := 63
  let encoded := base64 cms.encoded
  let output := encoded.zipIdx.foldl
    (fun output (character, index) =>
      if (index + 1) &&& lineMask = 0 then (output.push character).push '\n'
      else output.push character) ""
  if encoded.length &&& lineMask ≠ 0 then output.push '\n' else output

/-- A line of 64 characters is followed by a line feed, and so is the rest. -/
example :
    (CmsSignedData.mk (List.replicate 49 0) (by decide)).toTurnkeyArmored =
      String.ofList (List.replicate 64 'A' ++ "\nAA==\n".toList) := by
  decide +kernel

end TwEinvoice.Signing
