import CanopenSdo.Lib.Bytes

/-!
# CAN frames and their identifiers

The view of a CAN frame the state machines have: an identifier and eight bytes.
SDO requests to node `n` travel under `0x600 + n`, the responses under
`0x580 + n`; `nodeOfRsdo` and `nodeOfTsdo` read the node back.

## Main definitions

* `SdoFrame`, `SdoFrame.rsdoId`, `SdoFrame.tsdoId`.
* `SdoFrame.nodeOfTsdo`, `SdoFrame.nodeOfRsdo`.

## Main results

* `nodeOfRsdo_rsdoId`, `nodeOfTsdo_tsdoId` — the node of an identifier is read back.
* `nodeOfTsdo_rsdoId`, `nodeOfRsdo_tsdoId` — a request is never taken for a response.
-/

namespace CanopenSdo

/-- Client to server: requests. -/
def cobRsdoBase : UInt16 := 0x600

/-- Server to client: responses. -/
def cobTsdoBase : UInt16 := 0x580

/-- A CAN frame as the state machines see it: always eight bytes, standard
identifier. -/
structure SdoFrame where
  cobId : UInt16
  data : Bytes 8
  deriving DecidableEq

namespace SdoFrame

/-- The identifier a client sends requests to `nodeId` under. -/
def rsdoId (nodeId : UInt8) : UInt16 := cobRsdoBase ||| (nodeId.toUInt16 &&& 0x7F)

/-- The identifier the server of `nodeId` responds under. -/
def tsdoId (nodeId : UInt8) : UInt16 := cobTsdoBase ||| (nodeId.toUInt16 &&& 0x7F)

/-- The node of a response, or `none` for other frames: what a client listens for. -/
def nodeOfTsdo (cobId : UInt16) : Option UInt8 :=
  if cobId &&& 0x780 = cobTsdoBase then some (cobId &&& 0x7F).toUInt8 else none

/-- The node of a request, or `none` for other frames: what a server listens for. -/
def nodeOfRsdo (cobId : UInt16) : Option UInt8 :=
  if cobId &&& 0x780 = cobRsdoBase then some (cobId &&& 0x7F).toUInt8 else none

/-- The node ids of CANopen. -/
def ValidNode (nodeId : UInt8) : Prop := 1 ≤ nodeId ∧ nodeId ≤ 127

instance (nodeId : UInt8) : Decidable (ValidNode nodeId) :=
  inferInstanceAs (Decidable (1 ≤ nodeId ∧ nodeId ≤ 127))

/-! ### Reading identifiers back -/

theorem nodeOfRsdo_rsdoId {nodeId : UInt8} (h : nodeId ≤ 127) :
    nodeOfRsdo (rsdoId nodeId) = some nodeId := by
  revert h
  exact UInt8.forall_of_fin (P := fun n => n ≤ 127 → nodeOfRsdo (rsdoId n) = some n)
    (by decide +kernel) nodeId

theorem nodeOfTsdo_tsdoId {nodeId : UInt8} (h : nodeId ≤ 127) :
    nodeOfTsdo (tsdoId nodeId) = some nodeId := by
  revert h
  exact UInt8.forall_of_fin (P := fun n => n ≤ 127 → nodeOfTsdo (tsdoId n) = some n)
    (by decide +kernel) nodeId

theorem nodeOfTsdo_rsdoId (nodeId : UInt8) : nodeOfTsdo (rsdoId nodeId) = none :=
  UInt8.forall_of_fin (P := fun n => nodeOfTsdo (rsdoId n) = none) (by decide +kernel) nodeId

/-- The identifier of a request, as a number. -/
theorem toNat_rsdoId {nodeId : UInt8} (h : nodeId ≤ 127) :
    (rsdoId nodeId).toNat = 0x600 + nodeId.toNat := by
  revert h
  exact UInt8.forall_of_fin (P := fun n => n ≤ 127 → (rsdoId n).toNat = 0x600 + n.toNat)
    (by decide +kernel) nodeId

/-- The identifier of a response, as a number. -/
theorem toNat_tsdoId {nodeId : UInt8} (h : nodeId ≤ 127) :
    (tsdoId nodeId).toNat = 0x580 + nodeId.toNat := by
  revert h
  exact UInt8.forall_of_fin (P := fun n => n ≤ 127 → (tsdoId n).toNat = 0x580 + n.toNat)
    (by decide +kernel) nodeId

/-- The identifiers of requests and responses are standard ones. -/
theorem rsdoId_lt (nodeId : UInt8) : (rsdoId nodeId).toNat < 2 ^ 11 :=
  UInt8.forall_of_fin (P := fun n => (rsdoId n).toNat < 2 ^ 11) (by decide +kernel) nodeId

theorem tsdoId_lt (nodeId : UInt8) : (tsdoId nodeId).toNat < 2 ^ 11 :=
  UInt8.forall_of_fin (P := fun n => (tsdoId n).toNat < 2 ^ 11) (by decide +kernel) nodeId

/-- A standard identifier a client listens to is that of the responses of its node. -/
theorem toNat_of_nodeOfTsdo {cobId : UInt16} {node : UInt8} (hstd : cobId.toNat < 2 ^ 11)
    (h : nodeOfTsdo cobId = some node) : cobId.toNat = 0x580 + node.toNat := by
  unfold nodeOfTsdo at h
  split at h
  · next hbase =>
    obtain rfl := Option.some.inj h
    -- the four bits above the node are those of `0x580`, and there are no others
    have hand : cobId.toNat &&& 0x780 = 0x580 := congrArg UInt16.toNat hbase
    have hhigh : cobId.toNat / 2 ^ 7 &&& 2 ^ 4 - 1 = 11 := by
      have hdiv : (cobId.toNat &&& 0x780) / 2 ^ 7 = 0x580 / 2 ^ 7 := congrArg (· / 2 ^ 7) hand
      rw [Nat.and_div_two_pow] at hdiv
      exact hdiv
    rw [Nat.and_two_pow_sub_one_eq_mod] at hhigh
    have hnode : (cobId &&& 0x7F).toUInt8.toNat = cobId.toNat % 2 ^ 7 := by
      rw [UInt16.toNat_toUInt8, UInt16.toNat_and]
      change (cobId.toNat &&& 2 ^ 7 - 1) % 2 ^ 8 = _
      rw [Nat.and_two_pow_sub_one_eq_mod]
      omega
    rw [hnode]
    omega
  · cases h

theorem nodeOfRsdo_tsdoId (nodeId : UInt8) : nodeOfRsdo (tsdoId nodeId) = none :=
  UInt8.forall_of_fin (P := fun n => nodeOfRsdo (tsdoId n) = none) (by decide +kernel) nodeId

end SdoFrame

end CanopenSdo
