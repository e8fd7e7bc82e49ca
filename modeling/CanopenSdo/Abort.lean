import Mathlib.Tactic

/-!
# Abort codes and errors

The abort codes of CiA 301 and the protocol-level error of the two state
machines.  A code travels as a 32-bit word: `SdoAbortCode.raw` writes it and
`SdoAbortCode.ofRaw` (the source's `From<u32>`) reads it, keeping every word it
does not recognise as `unknown`.

## Main definitions

* `SdoAbortCode`, `SdoAbortCode.raw`, `SdoAbortCode.ofRaw`.
* `SdoError` — what the calls of both machines return on failure.

## Main results

* `SdoAbortCode.raw_ofRaw` — every word survives reading and writing.
-/

namespace CanopenSdo

/-- A standard CANopen SDO abort code. -/
inductive SdoAbortCode where
  /-- Toggle bit not alternated. -/
  | toggleBitNotAlternated
  /-- SDO protocol timed out. -/
  | protocolTimeout
  /-- Client/server command specifier not valid or unknown. -/
  | invalidCommandSpecifier
  /-- Invalid block size (block mode only). -/
  | invalidBlockSize
  /-- Invalid sequence number (block mode only). -/
  | invalidSequenceNumber
  /-- CRC error (block mode only). -/
  | crcError
  /-- Out of memory. -/
  | outOfMemory
  /-- Unsupported access to an object. -/
  | unsupportedAccess
  /-- Attempt to read a write-only object. -/
  | readWriteOnly
  /-- Attempt to write a read-only object. -/
  | writeReadOnly
  /-- Object does not exist in the object dictionary. -/
  | objectDoesNotExist
  /-- Object cannot be mapped to the PDO. -/
  | notMappable
  /-- Number / length of objects to be mapped exceeds PDO length. -/
  | pdoLengthExceeded
  /-- General parameter incompatibility reason. -/
  | parameterIncompatibility
  /-- General internal incompatibility in the device. -/
  | internalIncompatibility
  /-- Access failed due to a hardware error. -/
  | hardwareError
  /-- Data type does not match, length of service parameter does not match. -/
  | dataTypeLengthMismatch
  /-- Data type does not match, length of service parameter too high. -/
  | dataTypeLengthHigh
  /-- Data type does not match, length of service parameter too low. -/
  | dataTypeLengthLow
  /-- Sub-index does not exist. -/
  | subindexDoesNotExist
  /-- Invalid value for parameter. -/
  | invalidValue
  /-- Value of parameter written too high. -/
  | valueTooHigh
  /-- Value of parameter written too low. -/
  | valueTooLow
  /-- Maximum value is less than minimum value. -/
  | maxLessThanMin
  /-- Resource not available. -/
  | resourceNotAvailable
  /-- General error. -/
  | general
  /-- Data cannot be transferred or stored to the application. -/
  | storageError
  /-- …because of local control. -/
  | storageLocalControl
  /-- …because of the present device state. -/
  | storageDeviceState
  /-- Object dictionary dynamic generation fails or no object dictionary is present. -/
  | noObjectDictionary
  /-- No data available. -/
  | noData
  /-- Anything not recognised above. -/
  | unknown (raw : UInt32)
  deriving DecidableEq, Repr, Inhabited

namespace SdoAbortCode

/-- The word a code is sent as. -/
def raw : SdoAbortCode → UInt32
  | .toggleBitNotAlternated => 0x05030000
  | .protocolTimeout => 0x05040000
  | .invalidCommandSpecifier => 0x05040001
  | .invalidBlockSize => 0x05040002
  | .invalidSequenceNumber => 0x05040003
  | .crcError => 0x05040004
  | .outOfMemory => 0x05040005
  | .unsupportedAccess => 0x06010000
  | .readWriteOnly => 0x06010001
  | .writeReadOnly => 0x06010002
  | .objectDoesNotExist => 0x06020000
  | .notMappable => 0x06040041
  | .pdoLengthExceeded => 0x06040042
  | .parameterIncompatibility => 0x06040043
  | .internalIncompatibility => 0x06040047
  | .hardwareError => 0x06060000
  | .dataTypeLengthMismatch => 0x06070010
  | .dataTypeLengthHigh => 0x06070012
  | .dataTypeLengthLow => 0x06070013
  | .subindexDoesNotExist => 0x06090011
  | .invalidValue => 0x06090030
  | .valueTooHigh => 0x06090031
  | .valueTooLow => 0x06090032
  | .maxLessThanMin => 0x06090036
  | .resourceNotAvailable => 0x060A0023
  | .general => 0x08000000
  | .storageError => 0x08000020
  | .storageLocalControl => 0x08000021
  | .storageDeviceState => 0x08000022
  | .noObjectDictionary => 0x08000023
  | .noData => 0x08000024
  | .unknown raw => raw

/-- The code a word stands for. -/
def ofRaw (raw : UInt32) : SdoAbortCode :=
  match raw with
  | 0x05030000 => .toggleBitNotAlternated
  | 0x05040000 => .protocolTimeout
  | 0x05040001 => .invalidCommandSpecifier
  | 0x05040002 => .invalidBlockSize
  | 0x05040003 => .invalidSequenceNumber
  | 0x05040004 => .crcError
  | 0x05040005 => .outOfMemory
  | 0x06010000 => .unsupportedAccess
  | 0x06010001 => .readWriteOnly
  | 0x06010002 => .writeReadOnly
  | 0x06020000 => .objectDoesNotExist
  | 0x06040041 => .notMappable
  | 0x06040042 => .pdoLengthExceeded
  | 0x06040043 => .parameterIncompatibility
  | 0x06040047 => .internalIncompatibility
  | 0x06060000 => .hardwareError
  | 0x06070010 => .dataTypeLengthMismatch
  | 0x06070012 => .dataTypeLengthHigh
  | 0x06070013 => .dataTypeLengthLow
  | 0x06090011 => .subindexDoesNotExist
  | 0x06090030 => .invalidValue
  | 0x06090031 => .valueTooHigh
  | 0x06090032 => .valueTooLow
  | 0x06090036 => .maxLessThanMin
  | 0x060A0023 => .resourceNotAvailable
  | 0x08000000 => .general
  | 0x08000020 => .storageError
  | 0x08000021 => .storageLocalControl
  | 0x08000022 => .storageDeviceState
  | 0x08000023 => .noObjectDictionary
  | 0x08000024 => .noData
  | other => .unknown other

/-- Reading a word and writing it back changes nothing. -/
@[simp] theorem raw_ofRaw (w : UInt32) : (ofRaw w).raw = w := by
  unfold ofRaw
  split <;> rfl

end SdoAbortCode

/-- Why a call on one of the state machines fails. -/
inductive SdoError where
  /-- The remote server aborted the transfer with the given code. -/
  | serverAborted (code : SdoAbortCode)
  /-- The local peer aborted the transfer; the abort frame is queued. -/
  | clientAborted (code : SdoAbortCode)
  /-- A protocol violation that fits no abort code. -/
  | protocol (what : String)
  /-- Another transfer is in flight. -/
  | busy
  /-- An argument of `begin_*` is invalid. -/
  | invalidArgument (what : String)
  deriving DecidableEq, Repr, Inhabited

/-- The result of a call on one of the state machines. -/
abbrev SdoResult (α : Type) := Except SdoError α

end CanopenSdo
