import RustyModbus.Frame.Owned
import RustyModbus.Lib.Bounds

/-!
# The response parser reads in bounds

The client's parser once more, with every index and every slice of the source faulting out of
bounds. `inBounds_fromPdu` says that no PDU makes it fault, whatever its first byte is: a response
is taken apart as its own function code wants it before that is compared with the request.
-/

namespace RustyModbus.Checked

open Wire

/-! ## Fixed-size responses -/

def WriteSingleCoil.decode (data : List UInt8) : Except (Fault DecodeError) WriteSingleCoil := do
  Fault.lift (DecodeError.checkExactLen data 4)
  let address ← readWord data 0
  let rawValue ← readWord data 2
  let value ← Fault.lift (okOr (CoilValue.fromWire rawValue) (.invalidCoilValue rawValue))
  return { address, value }

def WriteSingleRegister.decode (data : List UInt8) :
    Except (Fault DecodeError) WriteSingleRegister := do
  Fault.lift (DecodeError.checkExactLen data 4)
  let address ← readWord data 0
  let value ← readWord data 2
  return { address, value }

def AddressRange.decodeAny (data : List UInt8) : Except (Fault DecodeError) AddressRange := do
  Fault.lift (DecodeError.checkExactLen data 4)
  let address ← readWord data 0
  let quantity ← readWord data 2
  return { address, quantity }

def MaskWriteRegister.decode (data : List UInt8) :
    Except (Fault DecodeError) MaskWriteRegister := do
  Fault.lift (DecodeError.checkExactLen data 6)
  let address ← readWord data 0
  let andMask ← readWord data 2
  let orMask ← readWord data 4
  return { address, andMask, orMask }

def ReadExceptionStatusResponse.decode (data : List UInt8) :
    Except (Fault DecodeError) ReadExceptionStatusResponse := do
  Fault.lift (DecodeError.checkExactLen data 1)
  let status ← index data 0
  return { status }

def GetCommEventCounterResponse.decode (data : List UInt8) :
    Except (Fault DecodeError) GetCommEventCounterResponse := do
  Fault.lift (DecodeError.checkExactLen data 4)
  let status ← readWord data 0
  let eventCount ← readWord data 2
  return { status, eventCount }

def ExceptionResponse.decode (fcByte : UInt8) (data : List UInt8) :
    Except (Fault DecodeError) ExceptionResponse := do
  Fault.lift (DecodeError.checkExactLen data 1)
  let rawFunctionCode := fcByte &&& 0x7F
  Fault.lift (rejectIf (rawFunctionCode = 0) (.unknownFunctionCode rawFunctionCode))
  let functionCode := FunctionCode.fromExceptionRaw fcByte
  let rawExceptionCode ← index data 0
  return { functionCode, exceptionCode := ExceptionCode.fromRaw rawExceptionCode }

variable (data : List UInt8)

theorem inBounds_exactLen {α : Type} {n : Nat} {f : Except (Fault DecodeError) α}
    {g : Except DecodeError α} (h : data.length = n → InBounds f g) :
    InBounds (do Fault.lift (DecodeError.checkExactLen data n); f)
      (do DecodeError.checkExactLen data n; g) :=
  .lift_bind fun _ hlen => h (DecodeError.checkExactLen_eq_ok.mp hlen)

theorem inBounds_writeSingleCoil :
    InBounds (WriteSingleCoil.decode data) (RustyModbus.WriteSingleCoil.decode data) := by
  refine inBounds_exactLen data fun hlen => ?_
  rw [readWord_bind (by omega), readWord_bind (by omega)]
  exact .lift_bind fun _ _ => .pure _

theorem inBounds_writeSingleRegister :
    InBounds (WriteSingleRegister.decode data) (RustyModbus.WriteSingleRegister.decode data) := by
  refine inBounds_exactLen data fun hlen => ?_
  rw [readWord_bind (by omega), readWord_bind (by omega)]
  exact .pure _

theorem inBounds_addressRange :
    InBounds (AddressRange.decodeAny data) (RustyModbus.AddressRange.decodeAny data) := by
  refine inBounds_exactLen data fun hlen => ?_
  rw [readWord_bind (by omega), readWord_bind (by omega)]
  exact .pure _

theorem inBounds_maskWriteRegister :
    InBounds (MaskWriteRegister.decode data) (RustyModbus.MaskWriteRegister.decode data) := by
  refine inBounds_exactLen data fun hlen => ?_
  rw [readWord_bind (by omega), readWord_bind (by omega), readWord_bind (by omega)]
  exact .pure _

theorem inBounds_readExceptionStatus :
    InBounds (ReadExceptionStatusResponse.decode data)
      (RustyModbus.ReadExceptionStatusResponse.decode data) := by
  refine inBounds_exactLen data fun hlen => ?_
  rw [index_bind (by omega)]
  exact .pure _

theorem inBounds_getCommEventCounter :
    InBounds (GetCommEventCounterResponse.decode data)
      (RustyModbus.GetCommEventCounterResponse.decode data) := by
  refine inBounds_exactLen data fun hlen => ?_
  rw [readWord_bind (by omega), readWord_bind (by omega)]
  exact .pure _

theorem inBounds_exception (fcByte : UInt8) :
    InBounds (ExceptionResponse.decode fcByte data)
      (RustyModbus.ExceptionResponse.decode fcByte data) := by
  refine inBounds_exactLen data fun hlen => ?_
  refine .lift_bind fun _ _ => ?_
  rw [index_bind (by omega)]
  exact .pure _

/-! ## Counted responses and file records -/

def CountedData.decode (checkCount : UInt8 → Except DecodeError Unit)
    (checkData : List UInt8 → Except (Fault DecodeError) Unit) (data : List UInt8) :
    Except (Fault DecodeError) CountedData := do
  Fault.lift (rejectIf (data = []) (.truncated 1 0))
  let byteCount ← index data 0
  Fault.lift (checkCount byteCount)
  let payload ← sliceFrom data 1
  Fault.lift (rejectIf (payload.length ≠ byteCount.toNat)
    (.byteCountMismatch byteCount.toNat payload.length))
  checkData payload
  return { byteCount, data := payload }

def decodeRegisters : List UInt8 → Except (Fault DecodeError) CountedData :=
  CountedData.decode noCheck fun data => Fault.lift (DecodeError.checkRegisterDataLen data.length)

def walkReadGroups (remaining : List UInt8) : Except (Fault DecodeError) Unit :=
  if _h : remaining = [] then .ok ()
  else do
    let responseLen ← index remaining 0
    let responseLen := responseLen.toNat
    Fault.lift (rejectIf (responseLen < 3 ∨ responseLen % 2 = 0)
      (.invalidFileRecordLength responseLen))
    let groupLen := 1 + responseLen
    Fault.lift (rejectIf (remaining.length < groupLen)
      (.byteCountMismatch groupLen remaining.length))
    let referenceType ← index remaining 1
    Fault.lift (rejectIf (referenceType ≠ fileRecordReferenceType)
      (.invalidReferenceType referenceType))
    -- the slice is taken once for its bounds; that the rest is shorter is then in plain sight
    let _ ← sliceFrom (ε := DecodeError) remaining groupLen
    walkReadGroups (remaining.drop groupLen)
termination_by remaining.length
decreasing_by
  have := List.length_pos_iff.mpr ‹_›
  simp only [List.length_drop]
  omega

def readSubRequest (data : List UInt8) : Except (Fault DecodeError) FileSubRequest := do
  let referenceType ← index data 0
  Fault.lift (rejectIf (referenceType ≠ fileRecordReferenceType)
    (.invalidReferenceType referenceType))
  let fileNumber ← readWord data 1
  let recordNumber ← readWord data 3
  let recordLength ← readWord data 5
  Fault.lift (checkFileRecordRange .fileRecordOutOfRange fileNumber recordNumber recordLength)
  return { referenceType, fileNumber, recordNumber, recordLength }

def walkWriteGroups (remaining : List UInt8) : Except (Fault DecodeError) Unit :=
  if _h : remaining = [] then .ok ()
  else do
    Fault.lift (rejectIf (remaining.length < 7) (.invalidFileRecordLength remaining.length))
    let sub ← readSubRequest (remaining.take 7)
    let groupLen := 7 + sub.recordLength.toNat * 2
    Fault.lift (rejectIf (remaining.length < groupLen)
      (.byteCountMismatch groupLen remaining.length))
    let _ ← sliceFrom (ε := DecodeError) remaining groupLen
    walkWriteGroups (remaining.drop groupLen)
termination_by remaining.length
decreasing_by
  have := List.length_pos_iff.mpr ‹_›
  simp only [List.length_drop]
  omega

def ReadFileRecordResponse.decode : List UInt8 → Except (Fault DecodeError) CountedData :=
  CountedData.decode (checkFileRecordByteCount 0x04 0xFA) walkReadGroups

def WriteFileRecordResponse.decode : List UInt8 → Except (Fault DecodeError) CountedData :=
  CountedData.decode (checkFileRecordByteCount 0x09 0xFB) walkWriteGroups

theorem inBounds_counted {checkCount : UInt8 → Except DecodeError Unit}
    {checked : List UInt8 → Except (Fault DecodeError) Unit}
    {checkData : List UInt8 → Except DecodeError Unit}
    (h : ∀ payload, InBounds (checked payload) (checkData payload)) :
    InBounds (CountedData.decode checkCount checked data)
      (RustyModbus.CountedData.decode checkCount checkData data) := by
  refine .reject fun hne => ?_
  have hpos := List.length_pos_iff.mpr hne
  rw [index_bind hpos]
  refine .lift_bind fun _ _ => ?_
  rw [sliceFrom_bind hpos]
  exact .lift_bind fun _ _ => .bind (h _) fun _ _ => .pure _

theorem inBounds_walkReadGroups (remaining : List UInt8) :
    InBounds (walkReadGroups remaining) (validateReadFileResponsePayload remaining) := by
  rw [validateReadFileResponsePayload]
  fun_induction walkReadGroups remaining with
  | case1 =>
    rw [RustyModbus.walkReadGroups, dif_pos rfl]
    exact .pure _
  | case2 remaining hne ih =>
    have hpos := List.length_pos_iff.mpr hne
    rw [RustyModbus.walkReadGroups, dif_neg hne, index_bind hpos]
    refine .lift_bind fun _ hlen => .lift_bind fun _ hgroup => ?_
    have hlen := rejectIf_eq_ok.mp hlen
    have hgroup := rejectIf_eq_ok.mp hgroup
    rw [index_bind (by omega)]
    refine .lift_bind fun _ _ => ?_
    rw [sliceFrom_bind (by omega)]
    exact ih _

theorem inBounds_readSubRequest {data : List UInt8} (hlen : 7 ≤ data.length) :
    InBounds (readSubRequest data)
      (RustyModbus.readSubRequest .invalidReferenceType .fileRecordOutOfRange data) := by
  rw [readSubRequest, index_bind (by omega)]
  refine .lift_bind fun _ _ => ?_
  rw [readWord_bind (by omega), readWord_bind (by omega), readWord_bind (by omega)]
  exact .lift_bind fun _ _ => .pure _

theorem inBounds_walkWriteGroups (remaining : List UInt8) :
    InBounds (walkWriteGroups remaining) (validateWriteFilePayload remaining) := by
  rw [validateWriteFilePayload]
  fun_induction walkWriteGroups remaining with
  | case1 =>
    rw [RustyModbus.walkWriteGroups, dif_pos rfl]
    exact .pure _
  | case2 remaining hne ih =>
    rw [RustyModbus.walkWriteGroups, dif_neg hne]
    refine .reject fun hseven => ?_
    refine .bind (inBounds_readSubRequest ?_) fun sub _ => .lift_bind fun _ hgroup => ?_
    · rw [List.length_take]
      omega
    rw [sliceFrom_bind (Nat.not_lt.mp (rejectIf_eq_ok.mp hgroup))]
    exact ih sub

theorem inBounds_registers : InBounds (decodeRegisters data) (RustyModbus.decodeRegisters data) :=
  inBounds_counted data fun _ => .lift _

theorem inBounds_readFileRecord :
    InBounds (ReadFileRecordResponse.decode data)
      (RustyModbus.ReadFileRecordResponse.decode data) :=
  inBounds_counted data inBounds_walkReadGroups

theorem inBounds_writeFileRecord :
    InBounds (WriteFileRecordResponse.decode data)
      (RustyModbus.WriteFileRecordResponse.decode data) :=
  inBounds_counted data inBounds_walkWriteGroups

/-! ## Event log, FIFO queue and device identification -/

def GetCommEventLogResponse.decode (data : List UInt8) :
    Except (Fault DecodeError) GetCommEventLogResponse := do
  Fault.lift (rejectIf (data.length < 7) (.truncated 7 data.length))
  let byteCount ← index data 0
  let status ← readWord data 1
  let eventCount ← readWord data 3
  let messageCount ← readWord data 5
  let events ← sliceFrom data 7
  Fault.lift (rejectIf (byteCount < 6) (.byteCountMismatch byteCount.toNat (6 + events.length)))
  let declaredEventsLen := byteCount.toNat - 6
  Fault.lift (rejectIf (events.length ≠ declaredEventsLen)
    (.byteCountMismatch byteCount.toNat (6 + events.length)))
  return { byteCount, status, eventCount, messageCount, events }

def ReadFifoQueueResponse.decode (data : List UInt8) :
    Except (Fault DecodeError) ReadFifoQueueResponse := do
  Fault.lift (rejectIf (data.length < 4) (.truncated 4 data.length))
  let byteCount ← readWord data 0
  let fifoCount ← readWord data 2
  let fifoValues ← sliceFrom data 4
  Fault.lift (rejectIf (byteCount < 2)
    (.byteCountMismatch byteCount.toNat (2 + fifoValues.length)))
  let expectedRemaining := byteCount.toNat - 2
  Fault.lift (rejectIf (fifoValues.length ≠ expectedRemaining)
    (.byteCountMismatch expectedRemaining fifoValues.length))
  Fault.lift (rejectIf (fifoCount > 31) (.quantityOutOfRange fifoCount))
  let expectedDataLen := fifoCount.toNat * 2
  Fault.lift (rejectIf (fifoValues.length ≠ expectedDataLen)
    (.byteCountMismatch expectedDataLen fifoValues.length))
  return { byteCount, fifoCount, fifoValues }

def walkObjects (objectData : List UInt8) : Nat → Nat → Except (Fault DecodeError) Nat
  | 0, offset => .ok offset
  | n + 1, offset => do
    Fault.lift (rejectIf (offset + 2 > objectData.length)
      (.truncated (6 + offset + 2) (6 + objectData.length)))
    let objLen ← index objectData (offset + 1)
    let offset := offset + (2 + objLen.toNat)
    Fault.lift (rejectIf (offset > objectData.length)
      (.truncated (6 + offset) (6 + objectData.length)))
    walkObjects objectData n offset

def ReadDeviceIdentificationResponse.decode (data : List UInt8) :
    Except (Fault DecodeError) ReadDeviceIdentificationResponse := do
  Fault.lift (rejectIf (data.length < 6) (.truncated 6 data.length))
  let meiType ← index data 0
  Fault.lift (rejectIf (meiType ≠ MeiType.readDeviceIdentification.code) (.unknownMeiType meiType))
  let rawCode ← index data 1
  let deviceIdCode ← Fault.lift (okOr (DeviceIdCode.fromRaw rawCode) (.invalidDeviceIdCode rawCode))
  let conformityLevel ← index data 2
  Fault.lift (rejectIf (!validConformityLevel conformityLevel)
    (.invalidDeviceIdConformityLevel conformityLevel))
  let rawMore ← index data 3
  let moreFollows ← Fault.lift (readMoreFollows rawMore)
  let nextObjectId ← index data 4
  Fault.lift (rejectIf (!moreFollows ∧ nextObjectId ≠ 0)
    (.invalidDeviceIdNextObjectId nextObjectId))
  let numObjects ← index data 5
  Fault.lift (rejectIf (deviceIdCode = .individual ∧ numObjects ≠ 1)
    (.invalidDeviceIdObjectCount numObjects))
  let objectData ← sliceFrom data 6
  let offset ← walkObjects objectData numObjects.toNat 0
  Fault.lift (rejectIf (offset ≠ objectData.length) (.lengthMismatch (6 + offset) data.length))
  return { deviceIdCode, conformityLevel, moreFollows, nextObjectId, numObjects, objectData }

def checkIdentificationResponse (data : List UInt8) : Except (Fault DecodeError) Unit := do
  let _ ← ReadDeviceIdentificationResponse.decode data
  return ()

def EncapsulatedInterfaceResponse.decode (data : List UInt8) :
    Except (Fault DecodeError) EncapsulatedInterfaceResponse := do
  Fault.lift (rejectIf (data = []) (.truncated 1 0))
  let rawType ← index data 0
  let meiType ← Fault.lift (okOr (MeiType.fromRaw rawType) (.unknownMeiType rawType))
  (if meiType = .readDeviceIdentification then checkIdentificationResponse data else .ok ())
  let payload ← sliceFrom data 1
  return { meiType, data := payload }

theorem inBounds_getCommEventLog :
    InBounds (GetCommEventLogResponse.decode data)
      (RustyModbus.GetCommEventLogResponse.decode data) := by
  refine .reject fun hlen => ?_
  rw [index_bind (by omega), readWord_bind (by omega), readWord_bind (by omega),
    readWord_bind (by omega), sliceFrom_bind (by omega)]
  exact .lift_bind fun _ _ => .lift_bind fun _ _ => .pure _

theorem inBounds_readFifoQueue :
    InBounds (ReadFifoQueueResponse.decode data)
      (RustyModbus.ReadFifoQueueResponse.decode data) := by
  refine .reject fun hlen => ?_
  rw [readWord_bind (by omega), readWord_bind (by omega), sliceFrom_bind (by omega)]
  exact .lift_bind fun _ _ => .lift_bind fun _ _ => .lift_bind fun _ _ =>
    .lift_bind fun _ _ => .pure _

theorem inBounds_walkObjects (objectData : List UInt8) (n offset : Nat) :
    InBounds (walkObjects objectData n offset)
      (RustyModbus.walkObjects objectData n offset) := by
  induction n generalizing offset with
  | zero => exact .pure _
  | succ n ih =>
    refine .reject fun hroom => ?_
    rw [index_bind (by omega)]
    exact .lift_bind fun _ _ => ih _

theorem inBounds_identification :
    InBounds (ReadDeviceIdentificationResponse.decode data)
      (RustyModbus.ReadDeviceIdentificationResponse.decode data) := by
  refine .reject fun hlen => ?_
  rw [index_bind (by omega)]
  refine .lift_bind fun _ _ => ?_
  rw [index_bind (by omega)]
  refine .lift_bind fun _ _ => ?_
  rw [index_bind (by omega)]
  refine .lift_bind fun _ _ => ?_
  rw [index_bind (by omega)]
  refine .lift_bind fun _ _ => ?_
  rw [index_bind (by omega)]
  refine .lift_bind fun _ _ => ?_
  rw [index_bind (by omega)]
  refine .lift_bind fun _ _ => ?_
  rw [sliceFrom_bind (by omega)]
  exact .bind (inBounds_walkObjects _ _ _) fun _ _ => .lift_bind fun _ _ => .pure _

theorem inBounds_encapsulatedInterface :
    InBounds (EncapsulatedInterfaceResponse.decode data)
      (RustyModbus.EncapsulatedInterfaceResponse.decode data) := by
  refine .reject fun hne => ?_
  have hpos := List.length_pos_iff.mpr hne
  rw [index_bind hpos]
  refine .lift_bind fun meiType _ => .bind ?_ fun _ _ => ?_
  · rw [checkWhen]
    split
    · exact .bind (inBounds_identification data) fun _ _ => .pure _
    · exact .pure _
  · rw [sliceFrom_bind hpos]
    exact .pure _

/-! ## Owned responses -/

def pduData (pdu : List UInt8) : Except (Fault DecodeError) (List UInt8) := do
  Fault.lift (rejectIf (pdu = []) (.truncated 1 0))
  sliceFrom pdu 1

def ownedPlain (pdu : List UInt8) : Except (Fault DecodeError) CountedData := do
  let data ← pduData pdu
  Fault.lift (rejectIf (data = []) (.truncated 1 0))
  let byteCount ← index data 0
  let payload ← sliceFrom data 1
  Fault.lift (rejectIf (payload.length ≠ byteCount.toNat)
    (.byteCountMismatch byteCount.toNat payload.length))
  let owned ← slice pdu 2 (2 + byteCount.toNat)
  return { byteCount, data := owned }

def ownedCounted (decode : List UInt8 → Except (Fault DecodeError) CountedData)
    (pdu : List UInt8) : Except (Fault DecodeError) CountedData := do
  let data ← pduData pdu
  let decoded ← decode data
  let owned ← slice pdu 2 (2 + decoded.data.length)
  return { byteCount := decoded.byteCount, data := owned }

def OwnedReadFifoQueueResponse.fromPdu (pdu : List UInt8) :
    Except (Fault DecodeError) ReadFifoQueueResponse := do
  let data ← pduData pdu
  let decoded ← ReadFifoQueueResponse.decode data
  let fifoValues ← slice pdu 5 (5 + decoded.fifoValues.length)
  return { decoded with fifoValues }

def OwnedDiagnosticsResponse.fromPdu (pdu : List UInt8) :
    Except (Fault DecodeError) DiagnosticsResponse := do
  let data ← pduData pdu
  Fault.lift (rejectIf (data.length < 2) (.truncated 2 data.length))
  let rawSub ← readWord data 0
  let subFunction ← Fault.lift (okOr (DiagnosticSubFunction.fromRaw rawSub)
    (.unknownDiagnosticSubFunction rawSub))
  let payload ← sliceFrom data 2
  Fault.lift (rejectIf (payload.length % 2 ≠ 0) (.invalidDiagnosticDataLength payload.length))
  let owned ← sliceFrom pdu 3
  return { subFunction, data := owned }

def OwnedGetCommEventLogResponse.fromPdu (pdu : List UInt8) :
    Except (Fault DecodeError) GetCommEventLogResponse := do
  let data ← pduData pdu
  let decoded ← GetCommEventLogResponse.decode data
  let events ← slice pdu 8 (8 + decoded.events.length)
  return { decoded with events }

def OwnedEncapsulatedInterfaceResponse.fromPdu (pdu : List UInt8) :
    Except (Fault DecodeError) EncapsulatedInterfaceResponse := do
  let data ← pduData pdu
  let decoded ← EncapsulatedInterfaceResponse.decode data
  let owned ← sliceFrom pdu 2
  return { meiType := decoded.meiType, data := owned }

def OwnedResponsePdu.fromBody (fc : FunctionCode) (pdu : List UInt8) :
    Except (Fault DecodeError) OwnedResponsePdu := do
  let data ← sliceFrom pdu 1
  match fc with
  | .readCoils => (ownedPlain pdu).map .readCoils
  | .readDiscreteInputs => (ownedPlain pdu).map .readDiscreteInputs
  | .readHoldingRegisters => (ownedCounted decodeRegisters pdu).map .readHoldingRegisters
  | .readInputRegisters => (ownedCounted decodeRegisters pdu).map .readInputRegisters
  | .writeSingleCoil => (WriteSingleCoil.decode data).map .writeSingleCoil
  | .writeSingleRegister => (WriteSingleRegister.decode data).map .writeSingleRegister
  | .readExceptionStatus => (ReadExceptionStatusResponse.decode data).map .readExceptionStatus
  | .diagnostics => (OwnedDiagnosticsResponse.fromPdu pdu).map .diagnostics
  | .getCommEventCounter => (GetCommEventCounterResponse.decode data).map .getCommEventCounter
  | .getCommEventLog => (OwnedGetCommEventLogResponse.fromPdu pdu).map .getCommEventLog
  | .writeMultipleCoils => (AddressRange.decodeAny data).map .writeMultipleCoils
  | .writeMultipleRegisters => (AddressRange.decodeAny data).map .writeMultipleRegisters
  | .reportServerId => (ownedPlain pdu).map .reportServerId
  | .readFileRecord => (ownedCounted ReadFileRecordResponse.decode pdu).map .readFileRecord
  | .writeFileRecord => (ownedCounted WriteFileRecordResponse.decode pdu).map .writeFileRecord
  | .maskWriteRegister => (MaskWriteRegister.decode data).map .maskWriteRegister
  | .readWriteMultipleRegisters =>
    (ownedCounted decodeRegisters pdu).map .readWriteMultipleRegisters
  | .readFifoQueue => (OwnedReadFifoQueueResponse.fromPdu pdu).map .readFifoQueue
  | .encapsulatedInterfaceTransport =>
    (OwnedEncapsulatedInterfaceResponse.fromPdu pdu).map .encapsulatedInterface
  | .custom fc => (sliceFrom pdu 1).map (.custom fc)

def OwnedResponsePdu.fromPdu (pdu : List UInt8) : Except (Fault DecodeError) OwnedResponsePdu := do
  Fault.lift (rejectIf (pdu = []) (.truncated 1 0))
  let fcByte ← index pdu 0
  if FunctionCode.isExceptionResponse fcByte then
    let data ← sliceFrom pdu 1
    let resp ← ExceptionResponse.decode fcByte data
    return .exception resp
  let fc := (FunctionCode.fromRaw fcByte).getD (.custom fcByte)
  fromBody fc pdu

theorem inBounds_pduData (pdu : List UInt8) : InBounds (pduData pdu) (RustyModbus.pduData pdu) := by
  refine .reject fun hne => ?_
  have hpos : 1 ≤ pdu.length := List.length_pos_iff.mpr hne
  rw [sliceFrom, if_pos hpos]
  exact .pure _

/-- What is behind the function code is one byte shorter than the PDU. -/
theorem length_of_pduData {pdu data : List UInt8} (h : RustyModbus.pduData pdu = .ok data) :
    pdu.length = data.length + 1 := by
  rw [RustyModbus.pduData, check_bind_eq_ok, rejectIf_eq_ok, pure_eq_ok] at h
  have hpos := List.length_pos_iff.mpr h.1
  rw [← h.2, List.length_drop]
  omega

theorem inBounds_ownedPlain (pdu : List UInt8) :
    InBounds (ownedPlain pdu) (RustyModbus.ownedPlain pdu) := by
  refine .bind (inBounds_pduData pdu) fun data hdata => .lift_bind fun _ hne => ?_
  have hpdu := length_of_pduData hdata
  have hpos := List.length_pos_iff.mpr (rejectIf_eq_ok.mp hne)
  rw [index_bind hpos, sliceFrom_bind hpos]
  refine .lift_bind fun _ hcount => ?_
  have hcount := Decidable.not_not.mp (rejectIf_eq_ok.mp hcount)
  rw [List.length_drop] at hcount
  rw [slice_bind (by omega) (by omega)]
  exact .pure _

/-- The payload is cut out again where the decoder has found it. -/
theorem inBounds_ownedCounted {checked : List UInt8 → Except (Fault DecodeError) CountedData}
    {chkN : UInt8 → Except DecodeError Unit} {chkD : List UInt8 → Except DecodeError Unit}
    (h : ∀ data, InBounds (checked data) (RustyModbus.CountedData.decode chkN chkD data))
    (pdu : List UInt8) :
    InBounds (ownedCounted checked pdu)
      (RustyModbus.ownedCounted (RustyModbus.CountedData.decode chkN chkD) pdu) := by
  refine .bind (inBounds_pduData pdu) fun data hdata => .bind (h data) fun decoded hdecoded => ?_
  have hpdu := length_of_pduData hdata
  have hbody := congrArg List.length (CountedData.decode_eq_ok.mp hdecoded).1
  have hlen : decoded.body.length = decoded.data.length + 1 := rfl
  rw [slice_bind (by omega) (by omega)]
  exact .pure _

theorem inBounds_ownedReadFifoQueue (pdu : List UInt8) :
    InBounds (OwnedReadFifoQueueResponse.fromPdu pdu)
      (RustyModbus.OwnedReadFifoQueueResponse.fromPdu pdu) := by
  refine .bind (inBounds_pduData pdu) fun data hdata =>
    .bind (inBounds_readFifoQueue data) fun decoded hdecoded => ?_
  have hpdu := length_of_pduData hdata
  have hbody := congrArg List.length (RustyModbus.ReadFifoQueueResponse.decode_eq_ok.mp hdecoded).1
  have hlen : decoded.body.length = decoded.fifoValues.length + 4 := rfl
  rw [slice_bind (by omega) (by omega)]
  exact .pure _

theorem inBounds_ownedDiagnostics (pdu : List UInt8) :
    InBounds (OwnedDiagnosticsResponse.fromPdu pdu)
      (RustyModbus.OwnedDiagnosticsResponse.fromPdu pdu) := by
  refine .bind (inBounds_pduData pdu) fun data hdata => .lift_bind fun _ htwo => ?_
  have hpdu := length_of_pduData hdata
  have htwo := rejectIf_eq_ok.mp htwo
  rw [readWord_bind (by omega)]
  refine .lift_bind fun _ _ => ?_
  rw [sliceFrom_bind (by omega)]
  refine .lift_bind fun _ _ => ?_
  rw [sliceFrom_bind (by omega)]
  exact .pure _

theorem inBounds_ownedGetCommEventLog (pdu : List UInt8) :
    InBounds (OwnedGetCommEventLogResponse.fromPdu pdu)
      (RustyModbus.OwnedGetCommEventLogResponse.fromPdu pdu) := by
  refine .bind (inBounds_pduData pdu) fun data hdata =>
    .bind (inBounds_getCommEventLog data) fun decoded hdecoded => ?_
  have hpdu := length_of_pduData hdata
  have hbody := congrArg List.length
    (RustyModbus.GetCommEventLogResponse.decode_eq_ok.mp hdecoded).1
  have hlen : decoded.body.length = decoded.events.length + 7 := rfl
  rw [slice_bind (by omega) (by omega)]
  exact .pure _

theorem inBounds_ownedEncapsulatedInterface (pdu : List UInt8) :
    InBounds (OwnedEncapsulatedInterfaceResponse.fromPdu pdu)
      (RustyModbus.OwnedEncapsulatedInterfaceResponse.fromPdu pdu) := by
  refine .bind (inBounds_pduData pdu) fun data hdata =>
    .bind (inBounds_encapsulatedInterface data) fun decoded hdecoded => ?_
  have hpdu := length_of_pduData hdata
  have hbody := congrArg List.length (EncapsulatedInterface.decode_eq_ok.mp hdecoded).1
  have hlen : decoded.body.length = decoded.data.length + 1 := rfl
  rw [sliceFrom_bind (by omega)]
  exact .pure _

theorem inBounds_fromBody (fc : FunctionCode) {pdu : List UInt8} (hpos : 0 < pdu.length) :
    InBounds (OwnedResponsePdu.fromBody fc pdu) (RustyModbus.OwnedResponsePdu.fromBody fc pdu) := by
  rw [OwnedResponsePdu.fromBody, sliceFrom_bind hpos]
  cases fc with
  | readCoils | readDiscreteInputs | reportServerId => exact .map (inBounds_ownedPlain pdu) _
  | readHoldingRegisters | readInputRegisters | readWriteMultipleRegisters =>
    exact .map (inBounds_ownedCounted inBounds_registers pdu) _
  | readFileRecord => exact .map (inBounds_ownedCounted inBounds_readFileRecord pdu) _
  | writeFileRecord => exact .map (inBounds_ownedCounted inBounds_writeFileRecord pdu) _
  | writeSingleCoil => exact .map (inBounds_writeSingleCoil _) _
  | writeSingleRegister => exact .map (inBounds_writeSingleRegister _) _
  | readExceptionStatus => exact .map (inBounds_readExceptionStatus _) _
  | diagnostics => exact .map (inBounds_ownedDiagnostics pdu) _
  | getCommEventCounter => exact .map (inBounds_getCommEventCounter _) _
  | getCommEventLog => exact .map (inBounds_ownedGetCommEventLog pdu) _
  | writeMultipleCoils | writeMultipleRegisters => exact .map (inBounds_addressRange _) _
  | maskWriteRegister => exact .map (inBounds_maskWriteRegister _) _
  | readFifoQueue => exact .map (inBounds_ownedReadFifoQueue pdu) _
  | encapsulatedInterfaceTransport => exact .map (inBounds_ownedEncapsulatedInterface pdu) _
  | custom b =>
    dsimp only
    rw [sliceFrom, if_pos (show 1 ≤ pdu.length from hpos)]
    exact .pure _

theorem inBounds_fromPdu (pdu : List UInt8) :
    InBounds (OwnedResponsePdu.fromPdu pdu) (RustyModbus.OwnedResponsePdu.fromPdu pdu) := by
  refine .reject fun hne => ?_
  have hpos := List.length_pos_iff.mpr hne
  rw [index_bind hpos]
  dsimp only
  split
  · rw [sliceFrom_bind hpos]
    exact .bind (inBounds_exception _ _) fun _ _ => .pure _
  · exact inBounds_fromBody _ hpos

end RustyModbus.Checked
