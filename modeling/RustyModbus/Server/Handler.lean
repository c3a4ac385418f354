import RustyModbus.Codec.Validate
import RustyModbus.Server.DeviceId

/-!
# Request handlers

`process_request`: decode, check, call the store, answer. A handler is a program of store
calls, so what is proved of it holds for every store. Where the source ends a handler with
`encode_exception(fc, ec)`, the handler fails with `ec` here and `answer` builds the
response; `checked_response_u8` and its sibling hand the finished exception response
around in the source and the code in it here.
-/

namespace RustyModbus.Server

open Wire Interaction

/-- The response of a handler, or the exception response with the code it failed with. -/
def answer (fc : FunctionCode) (h : Handler (List UInt8)) : StoreProgram (List UInt8) := do
  match ← h.run with
  | .ok response => return response
  | .error ec => return encodeException fc.exceptionCode ec

def checkedResponseU8 (value : Nat) : Except ExceptionCode UInt8 :=
  if value < 256 then .ok (UInt8.ofNat value) else .error .serverDeviceFailure

def checkedResponseU16 (value : Nat) : Except ExceptionCode UInt16 :=
  if value < 65536 then .ok (UInt16.ofNat value) else .error .serverDeviceFailure

def validateStoreCount (count : Nat) (requested : UInt16) (capacity : Nat) :
    Except ExceptionCode Nat :=
  if count = requested.toNat ∧ count ≤ capacity then .ok count else .error .serverDeviceFailure

/-! ## Reads and compound writes of the tables -/

def readRegistersOf (isHolding : Bool) (address quantity : UInt16) (out : List UInt8) :
    Handler (Nat × Slice out) :=
  if isHolding then callStore (.readHoldingRegistersBe address quantity out)
  else callStore (.readInputRegistersBe address quantity out)

def handleReadRegisters (fc : FunctionCode) (address quantity : UInt16) (isHolding : Bool) :
    StoreProgram (List UInt8) := answer fc do
  orFail (validateReadRegisters address quantity)
  let byteCount ← orFail (checkedResponseU8 (quantity.toNat * 2))
  let responseFc : FunctionCode := if isHolding then .readHoldingRegisters else .readInputRegisters
  let (count, registers) ←
    readRegistersOf isHolding address quantity (List.replicate byteCount.toNat 0)
  let _ ← orFail (validateStoreCount count quantity quantity.toNat)
  return responseFc.code :: byteCount :: registers.val

def readBitsOf (isCoils : Bool) (address quantity : UInt16) (out : List UInt8) :
    Handler (Nat × Slice out) :=
  if isCoils then callStore (.readCoilsPacked address quantity out)
  else callStore (.readDiscreteInputsPacked address quantity out)

def handleReadBits (fc : FunctionCode) (address quantity : UInt16) (isCoils : Bool) :
    StoreProgram (List UInt8) := answer fc do
  orFail (if isCoils then validateReadCoils address quantity
    else validateReadDiscreteInputs address quantity)
  let byteCount ← orFail (checkedResponseU8 ((quantity.toNat + 7) / 8))
  let responseFc : FunctionCode := if isCoils then .readCoils else .readDiscreteInputs
  let (count, bits) ← readBitsOf isCoils address quantity (List.replicate byteCount.toNat 0)
  let _ ← orFail (validateStoreCount count quantity quantity.toNat)
  return responseFc.code :: byteCount :: bits.val

def handleMaskWrite (address andMask orMask : UInt16) : Handler Unit := do
  orFail (validateMaskWriteAddress address)
  callStore (.atomicMaskWriteRegister address andMask orMask)

def handleReadWriteMultiple (req : ReadWriteMultipleRegistersRequest) :
    StoreProgram (List UInt8) := answer .readWriteMultipleRegisters do
  orFail (validateReadWriteRegisters req.readAddress req.readQuantity req.writeAddress
    req.writeQuantity req.writeByteCount)
  let byteCount ← orFail (checkedResponseU8 (req.readQuantity.toNat * 2))
  let (count, registers) ← callStore (.atomicReadWriteRegistersBe req.readAddress
    req.readQuantity req.writeAddress req.writeQuantity req.writeRegisterValues
    (List.replicate byteCount.toNat 0))
  let _ ← orFail (validateStoreCount count req.readQuantity req.readQuantity.toNat)
  return FunctionCode.readWriteMultipleRegisters.code :: byteCount :: registers.val

/-! ## Files and FIFO queues -/

/-- The loop over the groups of a read: `response` holds what has been read so far, the
two header bytes apart. -/
def readFileRecordGroups : List (List UInt8) → List UInt8 → Handler (List UInt8)
  | [], response => return response
  | chunk :: chunks, response => do
    orFail (rejectIf (chunk[0]! ≠ 6) .illegalDataAddress)
    let file := wordAt chunk 1
    let record := wordAt chunk 3
    let length := wordAt chunk 5
    orFail (validateRange file record length.toNat)
    let requestedCount := length.toNat
    orFail (rejectIf (requestedCount > maxFileRecordRegisters) .illegalDataAddress)
    let (n, values) ← callStore
      (.readFileRecordBe file record length (List.replicate (requestedCount * 2) 0))
    let n ← orFail (validateStoreCount n length requestedCount)
    let respLen ← orFail (checkedResponseU8 (1 + 2 * n))
    let response := response ++ respLen :: 0x06 :: values.val
    orFail (rejectIf (response.length > 250) .illegalDataValue)
    readFileRecordGroups chunks response

def handleReadFileRecord (req : ReadFileRecordRequest) : StoreProgram (List UInt8) :=
  answer .readFileRecord do
    let subs := req.data
    orFail (rejectIf (subs = [] ∨ subs.length % 7 ≠ 0 ∨ subs.length > 0xF5) .illegalDataValue)
    let groups ← readFileRecordGroups (chunksExact 7 subs) []
    let byteCount ← orFail (checkedResponseU8 groups.length)
    return FunctionCode.readFileRecord.code :: byteCount :: groups

structure WriteFileRecordGroup where
  file : UInt16
  record : UInt16
  length : UInt16
  valueBytes : List UInt8
deriving DecidableEq, Repr

def maxWriteFileRecordRequestBytes : Nat := 0xFB
def minWriteFileRecordSubRequestBytes : Nat := 9
def maxWriteFileRecordGroups : Nat :=
  maxWriteFileRecordRequestBytes / minWriteFileRecordSubRequestBytes

/-- The first pass over a write: every group is parsed and checked, at most as many as the
array of the source has room for. -/
def parseWriteGroups (subs : List UInt8) (groupCount : Nat) :
    Except ExceptionCode (List WriteFileRecordGroup) :=
  if _h : subs = [] then .ok []
  else do
    rejectIf (subs.length < 7) .illegalDataValue
    rejectIf (subs[0]! ≠ 6) .illegalDataAddress
    let file := wordAt subs 1
    let record := wordAt subs 3
    let length := wordAt subs 5
    let dataEnd := 7 + 2 * length.toNat
    rejectIf (subs.length < dataEnd) .illegalDataValue
    validateRange file record length.toNat
    rejectIf (groupCount = maxWriteFileRecordGroups) .illegalDataValue
    let groups ← parseWriteGroups (subs.drop dataEnd) (groupCount + 1)
    return { file, record, length, valueBytes := (subs.take dataEnd).drop 7 } :: groups
termination_by subs.length
decreasing_by
  have := List.length_pos_iff.mpr ‹_›
  simp only [List.length_drop]
  omega

/-- The second pass: the groups are written in order. -/
def writeGroups : List WriteFileRecordGroup → Handler Unit
  | [] => return ()
  | group :: groups => do
    callStore (.writeFileRecordBe group.file group.record group.length group.valueBytes)
    writeGroups groups

def applyWriteFileRecord (req : WriteFileRecordRequest) : Handler Unit := do
  orFail (rejectIf (¬(0x09 ≤ req.byteCount ∧ req.byteCount ≤ 0xFB)) .illegalDataValue)
  let groups ← orFail (parseWriteGroups req.data 0)
  writeGroups groups

def handleReadFifoQueue (address : UInt16) : StoreProgram (List UInt8) :=
  answer .readFifoQueue do
    let (count, values) ← callStore
      (.readFifoQueueBe address (List.replicate (maxFifoValues.toNat * 2) 0))
    orFail (rejectIf (count > maxFifoValues.toNat) .illegalDataValue)
    let byteCount ← orFail (checkedResponseU16 (2 + count * 2))
    let fifoCount ← orFail (checkedResponseU16 count)
    return FunctionCode.readFifoQueue.code ::
      (toBeBytes byteCount ++ toBeBytes fifoCount ++ values.val.take (count * 2))

/-! ## Diagnostics, identification and custom functions -/

def handleCustomRequest (unitId functionCode : UInt8) (requestData : List UInt8) :
    StoreProgram (List UInt8) := answer (.custom functionCode) do
  let (responseDataLen, data) ← callStore (.handleCustomFunction unitId functionCode requestData
    (List.replicate (maxPduSize - 1) 0))
  orFail (rejectIf (¬responseDataLen < maxPduSize) .serverDeviceFailure)
  return functionCode :: data.val.take responseDataLen

def handleCommEventLog : StoreProgram (List UInt8) := answer .getCommEventLog do
  let ⟨log, events⟩ ← callStore .appendCommEventLog
  orFail (rejectIf (events.length > maxCommEventLogEvents) .serverDeviceFailure)
  let byteCount ← orFail (checkedResponseU8 (events.length + 6))
  return FunctionCode.getCommEventLog.code :: byteCount :: (toBeBytes log.status ++
    toBeBytes log.eventCount ++ toBeBytes log.messageCount ++ events)

/-- The one handler that may stay silent: the store answers `Ok(None)` to a sub-function
that must not be answered. -/
def handleDiagnostics (subFunction : DiagnosticSubFunction) (data : List UInt8) :
    StoreProgram (Option (List UInt8)) := do
  match ← (callStore (.appendDiagnosticResponse subFunction data)).run with
  | .ok ⟨some count, appended⟩ =>
    let actualCount := appended.length
    if count ≠ actualCount ∨ actualCount > maxDiagnosticResponseDataLen ∨ actualCount % 2 ≠ 0 then
      return some (encodeException FunctionCode.diagnostics.exceptionCode .serverDeviceFailure)
    return some (FunctionCode.diagnostics.code :: (toBeBytes subFunction.code ++ appended))
  | .ok ⟨none, _⟩ => return none
  | .error ec => return some (encodeException FunctionCode.diagnostics.exceptionCode ec)

def handleReportServerId : StoreProgram (List UInt8) := answer .reportServerId do
  let ⟨count, appended⟩ ← callStore .appendServerId
  let actualCount := appended.length
  orFail (rejectIf (count ≠ actualCount ∨ actualCount > maxServerIdBytes) .serverDeviceFailure)
  let byteCount ← orFail (checkedResponseU8 actualCount)
  return FunctionCode.reportServerId.code :: byteCount :: appended

/-! ## Dispatch -/

/-- A request that only asks: a broadcast is dropped before the store is called. -/
def ask (isBroadcast : Bool) (response : StoreProgram (List UInt8)) :
    StoreProgram (Option (List UInt8)) := do
  if isBroadcast then return none
  return some (← response)

/-- A request that changes the store: a broadcast is carried out and not answered. -/
def command (isBroadcast : Bool) (fc : FunctionCode) (apply : Handler Unit)
    (response : List UInt8) : StoreProgram (Option (List UInt8)) := do
  let result ← apply.run
  if isBroadcast then return none
  match result with
  | .ok () => return some response
  | .error ec => return some (encodeException fc.exceptionCode ec)

def dispatchRequest (request : RequestPdu) (pdu : List UInt8) (unitId : UnitId)
    (isBroadcast : Bool) (deviceId : DeviceIdentification) :
    StoreProgram (Option (List UInt8)) :=
  match request with
  | .readHoldingRegisters req =>
    ask isBroadcast (handleReadRegisters .readHoldingRegisters req.address req.quantity true)
  | .readInputRegisters req =>
    ask isBroadcast (handleReadRegisters .readInputRegisters req.address req.quantity false)
  | .readCoils req => ask isBroadcast (handleReadBits .readCoils req.address req.quantity true)
  | .readDiscreteInputs req =>
    ask isBroadcast (handleReadBits .readDiscreteInputs req.address req.quantity false)
  | .writeSingleRegister req =>
    let response : WriteSingleRegisterResponse := { address := req.address, value := req.value }
    command isBroadcast .writeSingleRegister (callStore (.writeRegister req.address req.value))
      (encodeResponse .writeSingleRegister response.encodedLen response.encodeInto)
  | .writeMultipleRegisters req =>
    let response : WriteMultipleRegistersResponse :=
      { address := req.address, quantity := req.quantity }
    command isBroadcast .writeMultipleRegisters
      (do
        orFail (validateWriteRegisters req.address req.quantity req.byteCount)
        callStore (.writeRegistersBe req.address req.quantity req.values))
      (encodeResponse .writeMultipleRegisters response.encodedLen
        (WriteMultipleRegistersResponse.encodeInto response))
  | .writeSingleCoil req =>
    let response : WriteSingleCoilResponse := { address := req.address, value := req.value }
    command isBroadcast .writeSingleCoil
      (callStore (.writeCoil req.address req.value.asBool))
      (encodeResponse .writeSingleCoil response.encodedLen response.encodeInto)
  | .writeMultipleCoils req =>
    let response : WriteMultipleCoilsResponse :=
      { address := req.address, quantity := req.quantity }
    command isBroadcast .writeMultipleCoils
      (do
        orFail (validateWriteCoils req.address req.quantity req.byteCount)
        callStore (.writeCoilsPacked req.address req.quantity req.values))
      (encodeResponse .writeMultipleCoils response.encodedLen
        (WriteMultipleCoilsResponse.encodeInto response))
  | .maskWriteRegister req =>
    let response : MaskWriteRegisterResponse :=
      { address := req.address, andMask := req.andMask, orMask := req.orMask }
    command isBroadcast .maskWriteRegister (handleMaskWrite req.address req.andMask req.orMask)
      (encodeResponse .maskWriteRegister response.encodedLen response.encodeInto)
  | .readWriteMultipleRegisters req => ask isBroadcast (handleReadWriteMultiple req)
  | .readFileRecord req => ask isBroadcast (handleReadFileRecord req)
  | .writeFileRecord req =>
    let response : WriteFileRecordResponse := { byteCount := req.byteCount, data := req.data }
    command isBroadcast .writeFileRecord (applyWriteFileRecord req)
      (encodeResponse .writeFileRecord response.encodedLen
        (WriteFileRecordResponse.encodeInto response))
  | .readFifoQueue req => ask isBroadcast (handleReadFifoQueue req.fifoPointerAddress)
  | .readExceptionStatus =>
    ask isBroadcast <| answer .readExceptionStatus do
      let status ← callStore .readExceptionStatus
      let response : ReadExceptionStatusResponse := { status }
      return encodeResponse .readExceptionStatus response.encodedLen response.encodeInto
  | .diagnostics req => do
    let result ← handleDiagnostics req.subFunction req.data
    if isBroadcast then return none
    return result
  | .getCommEventCounter =>
    ask isBroadcast <| answer .getCommEventCounter do
      let (status, eventCount) ← callStore .getCommEventCounter
      let response : GetCommEventCounterResponse := { status, eventCount }
      return encodeResponse .getCommEventCounter response.encodedLen response.encodeInto
  | .getCommEventLog => ask isBroadcast handleCommEventLog
  | .reportServerId => ask isBroadcast handleReportServerId
  | .encapsulatedInterface req =>
    ask isBroadcast <|
      if req.meiType = .readDeviceIdentification then
        return buildDeviceIdResponse req.data deviceId
      else
        return encodeException (pdu.headD 0 ||| 0x80) .illegalFunction
  | .custom functionCode requestData =>
    ask isBroadcast (handleCustomRequest unitId functionCode requestData)

/-- The exception a request is answered with that could not be decoded. -/
def decodeFailure : DecodeError → ExceptionCode
  | .unknownFunctionCode _ | .unknownDiagnosticSubFunction _ => .illegalFunction
  | .invalidReferenceType _ | .fileRecordOutOfRange _ _ _ => .illegalDataAddress
  | _ => .illegalDataValue

def isBroadcast (unitId : UnitId) : Bool := unitId == 0

def processRequest (pdu : List UInt8) (unitId : UnitId) (deviceId : DeviceIdentification) :
    StoreProgram (Option (List UInt8)) :=
  match decodeRequest pdu with
  | .ok request => dispatchRequest request pdu unitId (isBroadcast unitId) deviceId
  | .error e =>
    if isBroadcast unitId then return none
    else return some (encodeException (pdu.headD 0 ||| 0x80) (decodeFailure e))

/-! ## How the parts run -/

section

variable {σ : Type} (store : DataStore σ) (s : σ)

theorem run_orFail_bind {α β : Type} (x : Except ExceptionCode α) (f : α → Handler β) :
    (orFail x >>= f).run.run store s = match x with
      | .ok a => (f a).run.run store s
      | .error e => (.error e, s) := by
  cases x <;> rfl

theorem run_answer (fc : FunctionCode) (h : Handler (List UInt8)) :
    (answer fc h).run store s = match h.run.run store s with
      | (.ok response, s') => (response, s')
      | (.error ec, s') => (encodeException fc.exceptionCode ec, s') := by
  rw [answer, Program.run_bind]
  cases h.run.run store s with
  | mk r s' => cases r <;> rfl

theorem run_ask (response : StoreProgram (List UInt8)) :
    (ask false response).run store s
      = (some (response.run store s).1, (response.run store s).2) :=
  Program.run_bind store response (fun r => pure (some r)) s

theorem run_command (fc : FunctionCode) (apply : Handler Unit) (response : List UInt8) :
    (command false fc apply response).run store s = match apply.run.run store s with
      | (.ok (), s') => (some response, s')
      | (.error ec, s') => (some (encodeException fc.exceptionCode ec), s') := by
  rw [command, Program.run_bind]
  cases apply.run.run store s with
  | mk r s' => cases r <;> rfl

/-- A valid request addressed to one unit reaches its handler. -/
theorem run_processRequest_wire {request : RequestPdu} {unitId : UnitId}
    (deviceId : DeviceIdentification) (hv : request.Valid)
    (hlen : request.wire.length ≤ maxPduSize) (hunit : unitId ≠ 0) :
    (processRequest request.wire unitId deviceId).run store s
      = (dispatchRequest request request.wire unitId false deviceId).run store s := by
  rw [processRequest, decodeRequest_eq_ok.mpr ⟨rfl, hv, hlen⟩,
    show isBroadcast unitId = false from beq_eq_false_iff_ne.mpr hunit]

end

end RustyModbus.Server
