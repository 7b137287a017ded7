import TwEinvoice.Transport.Submitter

/-!
# The upload notification on the wire

`UploadNotification::to_pfs001_json`. The gateway has 32-bit signed integers, so the three numbers
of a notification are converted before it is encoded. `serde_json` is a parameter.
-/

namespace TwEinvoice.Transport

open Rust

/-- `ServiceType::wire_value`. -/
def ServiceType.wireValue : ServiceType → String
  | .exchange => "E"
  | .store => "S"

/-- `ZipMode::wire_value`. -/
def ZipMode.wireValue : ZipMode → String
  | .plain => "0"
  | .zip => "1"

/-- Transport credentials used for HTTP Basic authentication and in the body. -/
structure GatewayCredentials where
  loginId : String
  loginPassword : String

structure WirePartyInfo where
  partyId : String
  description : Option String

structure WireRoutingInfo where
  routingId : String
  description : Option String

structure WireTrans where
  partyInfo : WirePartyInfo
  routingInfo : WireRoutingInfo

/-- The body of PFS001. -/
structure WireInvoiceEvent where
  loginId : String
  loginPassword : String
  transFrom : WireTrans
  transTo : WireTrans
  serviceType : String
  messageType : String
  action : String
  quantity : Int32
  migVersion : String
  filename : String
  size : Int32
  zip : String
  retry : Int32
  apiVersion : String
  turnkeyVersion : String

/-- What the source calls of `serde_json`. -/
structure JsonCrate where
  JsonError : Type
  toVec : WireInvoiceEvent → Except JsonError (List UInt8)

inductive GatewayEncodeError (json : JsonCrate) where
  | integerOutOfRange (field : String) (value : UInt64)
  | json (error : json.JsonError)

/-- `checked_i32`. -/
def checkedI32 {json : JsonCrate} (field : String) (value : UInt64) :
    Except (GatewayEncodeError json) Int32 :=
  okOr (i32TryFrom value) (.integerOutOfRange field value)

/-- The `WireTrans` of a party. -/
def GatewayParty.wireTrans (party : GatewayParty) : WireTrans where
  partyInfo := ⟨party.partyId, party.partyDescription⟩
  routingInfo := ⟨party.routingId, party.routingDescription⟩

/-- `UploadNotification::to_pfs001_json`. -/
def UploadNotification.toPfs001Json (json : JsonCrate) (self : UploadNotification)
    (credentials : GatewayCredentials) : Except (GatewayEncodeError json) (List UInt8) := do
  let quantity ← checkedI32 "quantity" self.quantity.toUInt64
  let size ← checkedI32 "size" self.size
  let retry ← checkedI32 "retry" self.retry.toUInt64
  let request : WireInvoiceEvent := {
    loginId := credentials.loginId
    loginPassword := credentials.loginPassword
    transFrom := self.from.wireTrans
    transTo := self.to.wireTrans
    serviceType := self.serviceType.wireValue
    messageType := self.messageType
    action := self.action
    quantity
    migVersion := self.migVersion
    filename := self.filename
    size
    zip := self.zipMode.wireValue
    retry
    apiVersion := self.apiVersion
    turnkeyVersion := self.turnkeyVersion }
  (json.toVec request).mapError .json

/-- The numbers of a notification that can be announced: those of an envelope and of a signed
file, with no retry. -/
structure UploadNotification.InRange (notification : UploadNotification) : Prop where
  quantity_pos : 1 ≤ notification.quantity.toNat
  quantity_le : notification.quantity.toNat ≤ 1000
  size_le : notification.size.toNat ≤ maxSignedSourceBytes
  retry_eq : notification.retry = 0

theorem checked_i32_of_lt {json : JsonCrate} (field : String) {value : UInt64}
    (h : value.toNat < 2 ^ 31) :
    (checkedI32 field value : Except (GatewayEncodeError json) Int32) =
      .ok (Int32.ofNat value.toNat) := by
  rw [checkedI32, i32_try_from_of_lt h]
  rfl

/-- A notification in range is encoded as far as its numbers are concerned. -/
theorem UploadNotification.InRange.encodes {notification : UploadNotification}
    (h : notification.InRange) (json : JsonCrate) (credentials : GatewayCredentials)
    (field : String) (value : UInt64) :
    notification.toPfs001Json json credentials ≠ .error (.integerOutOfRange field value) := by
  have hquantity : notification.quantity.toUInt64.toNat < 2 ^ 31 := by
    have hle := h.quantity_le
    rw [UInt32.toNat_toUInt64]
    omega
  have hsize : notification.size.toNat < 2 ^ 31 := by
    have hle := h.size_le
    unfold maxSignedSourceBytes at hle
    omega
  have hretry : notification.retry.toUInt64.toNat < 2 ^ 31 := by
    rw [h.retry_eq]
    decide
  unfold UploadNotification.toPfs001Json
  rw [checked_i32_of_lt "quantity" hquantity, checked_i32_of_lt "size" hsize,
    checked_i32_of_lt "retry" hretry]
  show (json.toVec _).mapError GatewayEncodeError.json ≠ _
  cases json.toVec _ with
  | ok bytes => exact nofun
  | error failure => exact nofun

end TwEinvoice.Transport
