import RustyModbus.Lib.Bytes

/-!
# Protocol types

The enumerations of `rusty-modbus-types` and their wire codes. A code is read
with `fromRaw` (partial where the wire type has more values than the
enumeration) and written with `code`; every enumeration comes with the lemma
saying for which values the two are inverse. The open enumerations
(`FunctionCode`, `ExceptionCode`) have a `custom` constructor that can also
hold the byte of a named one, so there the round trip only holds for values in
*canonical form*, that is for values `fromRaw` can return.

The newtypes `Address`, `Quantity`, `UnitId` and `TransactionId` are the
machine words they wrap.
-/

namespace RustyModbus

abbrev Address := UInt16
abbrev Quantity := UInt16
abbrev UnitId := UInt8

/-! ## Limits -/

def maxPduSize : Nat := 253
def maxReadCoils : UInt16 := 2000
def maxReadDiscreteInputs : UInt16 := 2000
def maxReadRegisters : UInt16 := 125
def maxWriteCoils : UInt16 := 1968
def maxWriteRegisters : UInt16 := 123
def maxRwRead : UInt16 := 125
def maxRwWrite : UInt16 := 121
def maxFifoValues : UInt16 := 31

/-! ## Function codes -/

inductive FunctionCode
  | readCoils | readDiscreteInputs | readHoldingRegisters | readInputRegisters
  | writeSingleCoil | writeSingleRegister | readExceptionStatus | diagnostics
  | getCommEventCounter | getCommEventLog | writeMultipleCoils
  | writeMultipleRegisters | reportServerId | readFileRecord | writeFileRecord
  | maskWriteRegister | readWriteMultipleRegisters | readFifoQueue
  | encapsulatedInterfaceTransport
  | custom (byte : UInt8)
deriving DecidableEq, Repr

namespace FunctionCode

def code : FunctionCode → UInt8
  | readCoils => 0x01
  | readDiscreteInputs => 0x02
  | readHoldingRegisters => 0x03
  | readInputRegisters => 0x04
  | writeSingleCoil => 0x05
  | writeSingleRegister => 0x06
  | readExceptionStatus => 0x07
  | diagnostics => 0x08
  | getCommEventCounter => 0x0B
  | getCommEventLog => 0x0C
  | writeMultipleCoils => 0x0F
  | writeMultipleRegisters => 0x10
  | reportServerId => 0x11
  | readFileRecord => 0x14
  | writeFileRecord => 0x15
  | maskWriteRegister => 0x16
  | readWriteMultipleRegisters => 0x17
  | readFifoQueue => 0x18
  | encapsulatedInterfaceTransport => 0x2B
  | custom v => v

def fromByte (byte : UInt8) : FunctionCode :=
  match byte with
  | 0x01 => readCoils
  | 0x02 => readDiscreteInputs
  | 0x03 => readHoldingRegisters
  | 0x04 => readInputRegisters
  | 0x05 => writeSingleCoil
  | 0x06 => writeSingleRegister
  | 0x07 => readExceptionStatus
  | 0x08 => diagnostics
  | 0x0B => getCommEventCounter
  | 0x0C => getCommEventLog
  | 0x0F => writeMultipleCoils
  | 0x10 => writeMultipleRegisters
  | 0x11 => reportServerId
  | 0x14 => readFileRecord
  | 0x15 => writeFileRecord
  | 0x16 => maskWriteRegister
  | 0x17 => readWriteMultipleRegisters
  | 0x18 => readFifoQueue
  | 0x2B => encapsulatedInterfaceTransport
  | other => custom other

def fromRaw (byte : UInt8) : Option FunctionCode :=
  if byte = 0 ∨ byte &&& 0x80 ≠ 0 then none else some (fromByte byte)

def fromExceptionRaw (byte : UInt8) : FunctionCode := fromByte (byte &&& 0x7F)

def isExceptionResponse (byte : UInt8) : Bool := byte &&& 0x80 != 0

def exceptionCode (fc : FunctionCode) : UInt8 := fc.code ||| 0x80

@[simp] theorem code_fromByte (b : UInt8) : (fromByte b).code = b := by
  unfold fromByte
  split <;> rfl

theorem fromRaw_eq_some {b : UInt8} {fc : FunctionCode} :
    fromRaw b = some fc ↔ b ≠ 0 ∧ b &&& 0x80 = 0 ∧ fromByte b = fc := by
  by_cases h0 : b = 0 <;> by_cases h8 : b &&& 0x80 = 0 <;> simp [fromRaw, h0, h8]

theorem code_eq_of_fromRaw {b : UInt8} {fc : FunctionCode} (h : fromRaw b = some fc) :
    fc.code = b := by
  obtain ⟨-, -, rfl⟩ := fromRaw_eq_some.mp h
  exact code_fromByte b

/-- The named function codes are read back from their bytes. -/
theorem fromRaw_code {fc : FunctionCode} (h : ∀ b, fc ≠ custom b) : fromRaw fc.code = some fc := by
  cases fc with
  | custom b => exact absurd rfl (h b)
  | _ => decide

/-- How the exception flag, the top bit of a function code byte, is set and masked off. -/
theorem exception_bits (b : UInt8) :
    (b ||| 0x80) &&& 0x80 ≠ 0 ∧ (b &&& 0x80 = 0 → (b ||| 0x80) &&& 0x7F = b) ∧
      (b &&& 0x80 ≠ 0 → (b &&& 0x7F) ||| 0x80 = b) ∧ (b &&& 0x7F) &&& 0x80 = 0 := by
  revert b
  apply Wire.forall_byte
  decide +kernel

theorem fromRaw_of_le {b : UInt8} (h : 1 ≤ b ∧ b ≤ 127) : fromRaw b = some (fromByte b) := by
  have hbits : ∀ b : UInt8, 1 ≤ b ∧ b ≤ 127 → b ≠ 0 ∧ b &&& 0x80 = 0 := by
    apply Wire.forall_byte
    decide +kernel
  exact fromRaw_eq_some.mpr ⟨(hbits b h).1, (hbits b h).2, rfl⟩

end FunctionCode

/-! ## Exception codes -/

inductive ExceptionCode
  | illegalFunction | illegalDataAddress | illegalDataValue | serverDeviceFailure
  | acknowledge | serverDeviceBusy | negativeAcknowledge | memoryParityError
  | gatewayPathUnavailable | gatewayTargetDeviceFailedToRespond
  | custom (byte : UInt8)
deriving DecidableEq, Repr

namespace ExceptionCode

def fromRaw (byte : UInt8) : ExceptionCode :=
  match byte with
  | 0x01 => illegalFunction
  | 0x02 => illegalDataAddress
  | 0x03 => illegalDataValue
  | 0x04 => serverDeviceFailure
  | 0x05 => acknowledge
  | 0x06 => serverDeviceBusy
  | 0x07 => negativeAcknowledge
  | 0x08 => memoryParityError
  | 0x0A => gatewayPathUnavailable
  | 0x0B => gatewayTargetDeviceFailedToRespond
  | other => custom other

def code : ExceptionCode → UInt8
  | illegalFunction => 0x01
  | illegalDataAddress => 0x02
  | illegalDataValue => 0x03
  | serverDeviceFailure => 0x04
  | acknowledge => 0x05
  | serverDeviceBusy => 0x06
  | negativeAcknowledge => 0x07
  | memoryParityError => 0x08
  | gatewayPathUnavailable => 0x0A
  | gatewayTargetDeviceFailedToRespond => 0x0B
  | custom v => v

@[simp] theorem code_fromRaw (b : UInt8) : (fromRaw b).code = b := by
  unfold fromRaw
  split <;> rfl

end ExceptionCode

/-! ## Encapsulated interface and device identification codes -/

inductive MeiType
  | canOpenGeneralReference | readDeviceIdentification
deriving DecidableEq, Repr

namespace MeiType

def fromRaw (byte : UInt8) : Option MeiType :=
  match byte with
  | 0x0D => some canOpenGeneralReference
  | 0x0E => some readDeviceIdentification
  | _ => none

def code : MeiType → UInt8
  | canOpenGeneralReference => 0x0D
  | readDeviceIdentification => 0x0E

theorem fromRaw_eq_some {b : UInt8} {m : MeiType} : fromRaw b = some m ↔ b = m.code := by
  constructor
  · unfold fromRaw
    split <;> rintro ⟨⟩ <;> rfl
  · rintro rfl
    cases m <;> rfl

end MeiType

inductive DeviceIdCode
  | basicStream | regularStream | extendedStream | individual
deriving DecidableEq, Repr

namespace DeviceIdCode

def fromRaw (byte : UInt8) : Option DeviceIdCode :=
  match byte with
  | 0x01 => some basicStream
  | 0x02 => some regularStream
  | 0x03 => some extendedStream
  | 0x04 => some individual
  | _ => none

def code : DeviceIdCode → UInt8
  | basicStream => 0x01
  | regularStream => 0x02
  | extendedStream => 0x03
  | individual => 0x04

theorem fromRaw_eq_some {b : UInt8} {c : DeviceIdCode} : fromRaw b = some c ↔ b = c.code := by
  constructor
  · unfold fromRaw
    split <;> rintro ⟨⟩ <;> rfl
  · rintro rfl
    cases c <;> rfl

end DeviceIdCode

/-! ## Diagnostics sub-functions and coil values -/

inductive DiagnosticSubFunction
  | returnQueryData | restartCommunicationsOption | returnDiagnosticRegister
  | changeAsciiInputDelimiter | forceListenOnlyMode | clearCountersAndDiagRegister
  | returnBusMessageCount | returnBusCommunicationErrorCount
  | returnBusExceptionErrorCount | returnServerMessageCount
  | returnServerNoResponseCount | returnServerNakCount | returnServerBusyCount
  | returnBusCharacterOverrunCount | clearOverrunCounterAndFlag
deriving DecidableEq, Repr

namespace DiagnosticSubFunction

def fromRaw (value : UInt16) : Option DiagnosticSubFunction :=
  match value with
  | 0x0000 => some returnQueryData
  | 0x0001 => some restartCommunicationsOption
  | 0x0002 => some returnDiagnosticRegister
  | 0x0003 => some changeAsciiInputDelimiter
  | 0x0004 => some forceListenOnlyMode
  | 0x000A => some clearCountersAndDiagRegister
  | 0x000B => some returnBusMessageCount
  | 0x000C => some returnBusCommunicationErrorCount
  | 0x000D => some returnBusExceptionErrorCount
  | 0x000E => some returnServerMessageCount
  | 0x000F => some returnServerNoResponseCount
  | 0x0010 => some returnServerNakCount
  | 0x0011 => some returnServerBusyCount
  | 0x0012 => some returnBusCharacterOverrunCount
  | 0x0014 => some clearOverrunCounterAndFlag
  | _ => none

def code : DiagnosticSubFunction → UInt16
  | returnQueryData => 0x0000
  | restartCommunicationsOption => 0x0001
  | returnDiagnosticRegister => 0x0002
  | changeAsciiInputDelimiter => 0x0003
  | forceListenOnlyMode => 0x0004
  | clearCountersAndDiagRegister => 0x000A
  | returnBusMessageCount => 0x000B
  | returnBusCommunicationErrorCount => 0x000C
  | returnBusExceptionErrorCount => 0x000D
  | returnServerMessageCount => 0x000E
  | returnServerNoResponseCount => 0x000F
  | returnServerNakCount => 0x0010
  | returnServerBusyCount => 0x0011
  | returnBusCharacterOverrunCount => 0x0012
  | clearOverrunCounterAndFlag => 0x0014

theorem fromRaw_eq_some {w : UInt16} {f : DiagnosticSubFunction} :
    fromRaw w = some f ↔ w = f.code := by
  constructor
  · unfold fromRaw
    split <;> rintro ⟨⟩ <;> rfl
  · rintro rfl
    cases f <;> rfl

end DiagnosticSubFunction

inductive CoilValue
  | on | off
deriving DecidableEq, Repr

namespace CoilValue

def fromWire (value : UInt16) : Option CoilValue :=
  match value with
  | 0xFF00 => some on
  | 0x0000 => some off
  | _ => none

def toWire : CoilValue → UInt16
  | on => 0xFF00
  | off => 0x0000

def fromBool (b : Bool) : CoilValue := if b then on else off

def asBool : CoilValue → Bool
  | on => true
  | off => false

theorem fromWire_eq_some {w : UInt16} {v : CoilValue} : fromWire w = some v ↔ w = v.toWire := by
  constructor
  · unfold fromWire
    split <;> rintro ⟨⟩ <;> rfl
  · rintro rfl
    cases v <;> rfl

@[simp] theorem asBool_fromBool (b : Bool) : (fromBool b).asBool = b := by
  cases b <;> rfl

end CoilValue

end RustyModbus
