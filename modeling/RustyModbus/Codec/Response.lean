import RustyModbus.Codec.Request

/-!
# Response messages

The response types, with the same three things per type as the requests: `body` (the
format), a decoder lemma, an encoder lemma. Two of the encoders do not mirror their
decoders. The responses to the multiple writes are decoded without a look at the
quantity but encoded only with one the protocol allows; an encapsulated-interface
response is encoded with any payload but decoded, for device identification, only
with a well-formed object list.
-/

namespace RustyModbus

open Wire Encoder EncodeError

/-! ## Counted responses: bit and register reads, server id, file records -/

namespace CountedData

def encodedLen (r : CountedData) : Nat := 1 + 1 + r.byteCount.toNat

/-- The encoder of the bit-read and Report Server ID responses. -/
def encodePlain (fc : FunctionCode) (r : CountedData) : Encoder EncodeError Nat := do
  let len := r.encodedLen
  reserve len (.bufferTooSmall len)
  check (EncodeError.checkByteCount r.byteCount.toNat r.data.length)
  check (EncodeError.checkPduLen len)
  put 0 [fc.code]
  put 1 [r.byteCount]
  put 2 r.data
  return len

/-- The encoder of the register-read responses. -/
def encodeRegisters (fc : FunctionCode) (r : CountedData) : Encoder EncodeError Nat := do
  let len := r.encodedLen
  reserve len (.bufferTooSmall len)
  check (EncodeError.checkByteCount r.byteCount.toNat r.data.length)
  check (EncodeError.checkPduLen len)
  check (EncodeError.checkRegisterDataLen r.data.length)
  put 0 [fc.code]
  put 1 [r.byteCount]
  put 2 r.data
  return len

theorem wire_length {fc : FunctionCode} {r : CountedData}
    (h : r.byteCount.toNat = r.data.length) : (fc.code :: r.body).length = r.encodedLen := by
  simp only [body, List.length_cons, encodedLen, h]
  omega

theorem encodePlain_emits (fc : FunctionCode) (r : CountedData) :
    Emits (r.encodePlain fc) r.encodedLen
      (r.data.length = r.byteCount.toNat ∧ (fc.code :: r.body).length ≤ maxPduSize)
      (fc.code :: r.body) := by
  refine .congr (.of_reserve <| .check checkByteCount_eq_ok fun hcount =>
    .check checkPduLen_eq_ok fun _ =>
    .of_writes <| .put <| .put <| .put <| .ret (wire_length hcount)) ?_
  rw [and_true, eq_comm]
  exact and_congr_right fun h => by rw [wire_length h.symm]

theorem encodeRegisters_emits (fc : FunctionCode) (r : CountedData) :
    Emits (r.encodeRegisters fc) r.encodedLen
      ((r.data.length = r.byteCount.toNat ∧ r.data.length % 2 = 0) ∧
        (fc.code :: r.body).length ≤ maxPduSize)
      (fc.code :: r.body) := by
  refine .congr (.of_reserve <| .check checkByteCount_eq_ok fun hcount =>
    .check checkPduLen_eq_ok fun _ => .check checkRegisterDataLen_eq_ok fun _ =>
    .of_writes <| .put <| .put <| .put <| .ret (wire_length hcount)) ?_
  rw [and_true, eq_comm, and_assoc]
  exact and_congr_right fun h => by rw [wire_length h.symm, And.comm]

end CountedData

/-- No check beyond the count. -/
def noCheck {α : Type} (_ : α) : Except DecodeError Unit := .ok ()

abbrev ReadCoilsResponse := CountedData
abbrev ReadDiscreteInputsResponse := CountedData
abbrev ReadHoldingRegistersResponse := CountedData
abbrev ReadInputRegistersResponse := CountedData
abbrev ReadWriteMultipleRegistersResponse := CountedData
abbrev ReportServerIdResponse := CountedData
abbrev ReadFileRecordResponse := CountedData
abbrev WriteFileRecordResponse := CountedData

abbrev decodeBits : List UInt8 → Except DecodeError CountedData :=
  CountedData.decode noCheck noCheck
abbrev decodeRegisters : List UInt8 → Except DecodeError CountedData :=
  CountedData.decode noCheck fun data => DecodeError.checkRegisterDataLen data.length

abbrev ReadCoilsResponse.decode := decodeBits
abbrev ReadDiscreteInputsResponse.decode := decodeBits
abbrev ReportServerIdResponse.decode := decodeBits
abbrev ReadHoldingRegistersResponse.decode := decodeRegisters
abbrev ReadInputRegistersResponse.decode := decodeRegisters
abbrev ReadWriteMultipleRegistersResponse.decode := decodeRegisters
abbrev ReadFileRecordResponse.decode :=
  CountedData.decode (checkFileRecordByteCount 0x04 0xFA) validateReadFileResponsePayload
abbrev WriteFileRecordResponse.decode :=
  CountedData.decode (checkFileRecordByteCount 0x09 0xFB) validateWriteFilePayload

abbrev ReadCoilsResponse.encodeInto := CountedData.encodePlain .readCoils
abbrev ReadDiscreteInputsResponse.encodeInto := CountedData.encodePlain .readDiscreteInputs
abbrev ReportServerIdResponse.encodeInto := CountedData.encodePlain .reportServerId
abbrev ReadHoldingRegistersResponse.encodeInto :=
  CountedData.encodeRegisters .readHoldingRegisters
abbrev ReadInputRegistersResponse.encodeInto := CountedData.encodeRegisters .readInputRegisters
abbrev ReadWriteMultipleRegistersResponse.encodeInto :=
  CountedData.encodeRegisters .readWriteMultipleRegisters

abbrev ReadFileRecordResponse.encodeInto (r : ReadFileRecordResponse) :=
  CountedData.encodeFileRecord .readFileRecord r.encodedLen 0x04 0xFA
    validateReadFileResponsePayloadEncode r
abbrev WriteFileRecordResponse.encodeInto (r : WriteFileRecordResponse) :=
  CountedData.encodeFileRecord .writeFileRecord r.encodedLen 0x09 0xFB
    validateWriteFilePayloadEncode r

/-! ## Write responses -/

abbrev WriteSingleCoilResponse := WriteSingleCoil
abbrev WriteSingleRegisterResponse := WriteSingleRegister
abbrev MaskWriteRegisterResponse := MaskWriteRegister
abbrev WriteMultipleCoilsResponse := AddressRange
abbrev WriteMultipleRegistersResponse := AddressRange

/-- The responses to the multiple writes take any quantity. -/
def AddressRange.decodeAny (data : List UInt8) : Except DecodeError AddressRange := do
  DecodeError.checkExactLen data 4
  let address := wordAt data 0
  let quantity := wordAt data 2
  return { address, quantity }

variable {data : List UInt8}

theorem AddressRange.decodeAny_eq_ok {r : AddressRange} :
    decodeAny data = .ok r ↔ data = r.body := by
  simp only [decodeAny, check_bind_eq_ok, DecodeError.checkExactLen_eq_ok, pure_eq_ok]
  constructor
  · rintro ⟨hlen, rfl⟩
    rw [body, word_eq_drop hlen, word_append_drop (by omega), List.drop_zero]
  · rintro rfl
    exact ⟨rfl, congr (congrArg mk (fromBeBytes_shift _)) (fromBeBytes_shift _)⟩

abbrev WriteMultipleCoilsResponse.decode := AddressRange.decodeAny
abbrev WriteMultipleRegistersResponse.decode := AddressRange.decodeAny

abbrev WriteMultipleCoilsResponse.encodeInto :=
  AddressRange.encodeInto .writeMultipleCoils maxWriteCoils
abbrev WriteMultipleRegistersResponse.encodeInto :=
  AddressRange.encodeInto .writeMultipleRegisters maxWriteRegisters

/-! ## Diagnostics and status responses -/

abbrev DiagnosticsResponse := DiagnosticsMessage

structure ReadExceptionStatusResponse where
  status : UInt8
deriving DecidableEq, Repr

namespace ReadExceptionStatusResponse

def decode (data : List UInt8) : Except DecodeError ReadExceptionStatusResponse := do
  DecodeError.checkExactLen data 1
  return { status := data[0]! }

def encodedLen (_ : ReadExceptionStatusResponse) : Nat := 1 + 1

def encodeInto (r : ReadExceptionStatusResponse) : Encoder EncodeError Nat := do
  let len := r.encodedLen
  reserve len (.bufferTooSmall len)
  check (EncodeError.checkPduLen len)
  put 0 [FunctionCode.readExceptionStatus.code]
  put 1 [r.status]
  return len

def body (r : ReadExceptionStatusResponse) : List UInt8 := [r.status]

theorem decode_eq_ok {data : List UInt8} {r : ReadExceptionStatusResponse} :
    decode data = .ok r ↔ data = r.body := by
  simp only [decode, check_bind_eq_ok, DecodeError.checkExactLen_eq_ok, pure_eq_ok]
  constructor
  · rintro ⟨hlen, rfl⟩
    rw [body, byte_eq_drop hlen, List.drop_zero]
  · rintro rfl
    exact ⟨rfl, rfl⟩

theorem encodeInto_emits (r : ReadExceptionStatusResponse) :
    Emits r.encodeInto r.encodedLen True (FunctionCode.readExceptionStatus.code :: r.body) :=
  emits_fixed <| .put <| .put <| .ret

end ReadExceptionStatusResponse

structure GetCommEventCounterResponse where
  status : UInt16
  eventCount : UInt16
deriving DecidableEq, Repr

namespace GetCommEventCounterResponse

def decode (data : List UInt8) : Except DecodeError GetCommEventCounterResponse := do
  DecodeError.checkExactLen data 4
  let status := wordAt data 0
  let eventCount := wordAt data 2
  return { status, eventCount }

def encodedLen (_ : GetCommEventCounterResponse) : Nat := 1 + 4

def encodeInto (r : GetCommEventCounterResponse) : Encoder EncodeError Nat := do
  let len := r.encodedLen
  reserve len (.bufferTooSmall len)
  check (EncodeError.checkPduLen len)
  put 0 [FunctionCode.getCommEventCounter.code]
  put 1 (toBeBytes r.status)
  put 3 (toBeBytes r.eventCount)
  return len

def body (r : GetCommEventCounterResponse) : List UInt8 :=
  toBeBytes r.status ++ toBeBytes r.eventCount

theorem decode_eq_ok {data : List UInt8} {r : GetCommEventCounterResponse} :
    decode data = .ok r ↔ data = r.body := by
  simp only [decode, check_bind_eq_ok, DecodeError.checkExactLen_eq_ok, pure_eq_ok]
  constructor
  · rintro ⟨hlen, rfl⟩
    rw [body, word_eq_drop hlen, word_append_drop (by omega), List.drop_zero]
  · rintro rfl
    exact ⟨rfl, congr (congrArg mk (fromBeBytes_shift _)) (fromBeBytes_shift _)⟩

theorem encodeInto_emits (r : GetCommEventCounterResponse) :
    Emits r.encodeInto r.encodedLen True (FunctionCode.getCommEventCounter.code :: r.body) :=
  emits_fixed <| .put <| .put <| .put <| .ret

end GetCommEventCounterResponse

structure GetCommEventLogResponse where
  byteCount : UInt8
  status : UInt16
  eventCount : UInt16
  messageCount : UInt16
  events : List UInt8
deriving DecidableEq, Repr

namespace GetCommEventLogResponse

def decode (data : List UInt8) : Except DecodeError GetCommEventLogResponse := do
  rejectIf (data.length < 7) (.truncated 7 data.length)
  let byteCount := data[0]!
  let status := wordAt data 1
  let eventCount := wordAt data 3
  let messageCount := wordAt data 5
  let events := data.drop 7
  rejectIf (byteCount < 6) (.byteCountMismatch byteCount.toNat (6 + events.length))
  let declaredEventsLen := byteCount.toNat - 6
  rejectIf (events.length ≠ declaredEventsLen)
    (.byteCountMismatch byteCount.toNat (6 + events.length))
  return { byteCount, status, eventCount, messageCount, events }

def encodedLen (r : GetCommEventLogResponse) : Nat := 1 + 1 + 6 + r.events.length

def encodeInto (r : GetCommEventLogResponse) : Encoder EncodeError Nat := do
  let len := r.encodedLen
  reserve len (.bufferTooSmall len)
  check (EncodeError.checkByteCount r.byteCount.toNat (6 + r.events.length))
  check (EncodeError.checkPduLen len)
  put 0 [FunctionCode.getCommEventLog.code]
  put 1 [r.byteCount]
  put 2 (toBeBytes r.status)
  put 4 (toBeBytes r.eventCount)
  put 6 (toBeBytes r.messageCount)
  put 8 r.events
  return len

def body (r : GetCommEventLogResponse) : List UInt8 :=
  r.byteCount :: (toBeBytes r.status ++ toBeBytes r.eventCount ++ toBeBytes r.messageCount ++
    r.events)

def Valid (r : GetCommEventLogResponse) : Prop := r.byteCount.toNat = 6 + r.events.length

theorem decode_eq_ok {data : List UInt8} {r : GetCommEventLogResponse} :
    decode data = .ok r ↔ data = r.body ∧ r.Valid := by
  simp only [decode, check_bind_eq_ok, rejectIf_eq_ok, Decidable.not_not, pure_eq_ok, Nat.not_lt,
    UInt8.lt_iff_toNat_lt, UInt8.reduceToNat]
  constructor
  · rintro ⟨hlen, h6, hev, rfl⟩
    refine ⟨?_, show data[0]!.toNat = 6 + (data.drop 7).length by omega⟩
    simp only [body, List.append_assoc]
    rw [word_append_drop (by omega), word_append_drop (by omega), word_append_drop (by omega),
      byte_cons_drop (by omega), List.drop_zero]
  · rintro ⟨rfl, hvalid⟩
    have hst : wordAt r.body 1 = r.status := fromBeBytes_shift _
    have hec : wordAt r.body 3 = r.eventCount := fromBeBytes_shift _
    have hmc : wordAt r.body 5 = r.messageCount := fromBeBytes_shift _
    have hlen : r.body.length = r.events.length + 7 := rfl
    have hn : r.body[0]!.toNat = 6 + r.events.length := hvalid
    have hev : (r.body.drop 7).length = r.events.length := rfl
    rw [hst, hec, hmc]
    exact ⟨by omega, by omega, by omega, rfl⟩

theorem encodeInto_emits (r : GetCommEventLogResponse) :
    Emits r.encodeInto r.encodedLen
      (r.Valid ∧ (FunctionCode.getCommEventLog.code :: r.body).length ≤ maxPduSize)
      (FunctionCode.getCommEventLog.code :: r.body) := by
  have hlen : (FunctionCode.getCommEventLog.code :: r.body).length = r.encodedLen :=
    Nat.add_comm r.events.length 8
  refine .congr (.of_reserve <| .check checkByteCount_eq_ok fun _ =>
    .check checkPduLen_eq_ok fun _ =>
    .of_writes <| .put <| .put <| .put <| .put <| .put <| .put <| .ret hlen) ?_
  rw [hlen, Valid, and_true]

end GetCommEventLogResponse

structure ReadFifoQueueResponse where
  byteCount : UInt16
  fifoCount : UInt16
  fifoValues : List UInt8
deriving DecidableEq, Repr

namespace ReadFifoQueueResponse

def decode (data : List UInt8) : Except DecodeError ReadFifoQueueResponse := do
  rejectIf (data.length < 4) (.truncated 4 data.length)
  let byteCount := wordAt data 0
  let fifoCount := wordAt data 2
  let fifoValues := data.drop 4
  rejectIf (byteCount < 2) (.byteCountMismatch byteCount.toNat (2 + fifoValues.length))
  let expectedRemaining := byteCount.toNat - 2
  rejectIf (fifoValues.length ≠ expectedRemaining)
    (.byteCountMismatch expectedRemaining fifoValues.length)
  rejectIf (fifoCount > 31) (.quantityOutOfRange fifoCount)
  let expectedDataLen := fifoCount.toNat * 2
  rejectIf (fifoValues.length ≠ expectedDataLen)
    (.byteCountMismatch expectedDataLen fifoValues.length)
  return { byteCount, fifoCount, fifoValues }

def encodedLen (r : ReadFifoQueueResponse) : Nat := 1 + 2 + 2 + r.fifoValues.length

def encodeInto (r : ReadFifoQueueResponse) : Encoder EncodeError Nat := do
  let len := r.encodedLen
  reserve len (.bufferTooSmall len)
  check (EncodeError.checkByteCount r.byteCount.toNat (2 + r.fifoValues.length))
  check (rejectIf (r.fifoCount > maxFifoValues) (.quantityOutOfRange r.fifoCount))
  let expectedDataLen := r.fifoCount.toNat * 2
  check (EncodeError.checkByteCount expectedDataLen r.fifoValues.length)
  check (EncodeError.checkPduLen len)
  put 0 [FunctionCode.readFifoQueue.code]
  put 1 (toBeBytes r.byteCount)
  put 3 (toBeBytes r.fifoCount)
  put 5 r.fifoValues
  return len

def body (r : ReadFifoQueueResponse) : List UInt8 :=
  toBeBytes r.byteCount ++ toBeBytes r.fifoCount ++ r.fifoValues

def Valid (r : ReadFifoQueueResponse) : Prop :=
  r.byteCount.toNat = 2 + r.fifoValues.length ∧ ¬r.fifoCount > maxFifoValues ∧
    r.fifoCount.toNat * 2 = r.fifoValues.length

theorem decode_eq_ok {data : List UInt8} {r : ReadFifoQueueResponse} :
    decode data = .ok r ↔ data = r.body ∧ r.Valid := by
  simp only [decode, check_bind_eq_ok, rejectIf_eq_ok, Decidable.not_not, pure_eq_ok, Nat.not_lt,
    UInt16.lt_iff_toNat_lt (a := wordAt data 0), UInt16.reduceToNat]
  constructor
  · rintro ⟨hlen, h2, hrem, hcount, hdata, rfl⟩
    refine ⟨?_, show (wordAt data 0).toNat = 2 + (data.drop 4).length by omega, hcount,
      hdata.symm⟩
    simp only [body, List.append_assoc]
    rw [word_append_drop (by omega), word_append_drop (by omega), List.drop_zero]
  · rintro ⟨rfl, hvalid, hcount, hdata⟩
    have hbc : wordAt r.body 0 = r.byteCount := fromBeBytes_shift _
    have hfc : wordAt r.body 2 = r.fifoCount := fromBeBytes_shift _
    have hlen : r.body.length = r.fifoValues.length + 4 := rfl
    have hv : (r.body.drop 4) = r.fifoValues := rfl
    rw [hbc, hfc, hv]
    exact ⟨by omega, by omega, by omega, hcount, hdata.symm, rfl⟩

theorem encodeInto_emits (r : ReadFifoQueueResponse) :
    Emits r.encodeInto r.encodedLen
      (r.Valid ∧ (FunctionCode.readFifoQueue.code :: r.body).length ≤ maxPduSize)
      (FunctionCode.readFifoQueue.code :: r.body) := by
  have hlen : (FunctionCode.readFifoQueue.code :: r.body).length = r.encodedLen :=
    Nat.add_comm r.fifoValues.length 5
  refine .congr (.of_reserve <| .check checkByteCount_eq_ok fun _ => .check rejectIf_eq_ok fun _ =>
    .check checkByteCount_eq_ok fun _ => .check checkPduLen_eq_ok fun _ =>
    .of_writes <| .put <| .put <| .put <| .put <| .ret hlen) ?_
  rw [hlen, Valid, and_true, and_assoc, and_assoc]

end ReadFifoQueueResponse

/-! ## Device identification and the encapsulated interface -/

def validConformityLevel (level : UInt8) : Bool :=
  level = 0x01 ∨ level = 0x02 ∨ level = 0x03 ∨ level = 0x81 ∨ level = 0x82 ∨ level = 0x83

structure ReadDeviceIdentificationResponse where
  deviceIdCode : DeviceIdCode
  conformityLevel : UInt8
  moreFollows : Bool
  nextObjectId : UInt8
  numObjects : UInt8
  objectData : List UInt8
deriving DecidableEq, Repr

/-- The `more_follows` byte of a device-identification response. -/
def readMoreFollows (value : UInt8) : Except DecodeError Bool :=
  match value with
  | 0x00 => .ok false
  | 0xFF => .ok true
  | value => .error (.invalidDeviceIdMoreFollows value)

/-- The loop over the objects: `n` of them are left, `offset` bytes of `objectData` are
behind. Gives the offset behind the last object. -/
def walkObjects (objectData : List UInt8) : Nat → Nat → Except DecodeError Nat
  | 0, offset => .ok offset
  | n + 1, offset => do
    rejectIf (offset + 2 > objectData.length)
      (.truncated (6 + offset + 2) (6 + objectData.length))
    let objLen := objectData[offset + 1]!.toNat
    let offset := offset + (2 + objLen)
    rejectIf (offset > objectData.length) (.truncated (6 + offset) (6 + objectData.length))
    walkObjects objectData n offset

def ReadDeviceIdentificationResponse.decode (data : List UInt8) :
    Except DecodeError ReadDeviceIdentificationResponse := do
  rejectIf (data.length < 6) (.truncated 6 data.length)
  rejectIf (data[0]! ≠ MeiType.readDeviceIdentification.code) (.unknownMeiType data[0]!)
  let deviceIdCode ← okOr (DeviceIdCode.fromRaw data[1]!) (.invalidDeviceIdCode data[1]!)
  let conformityLevel := data[2]!
  rejectIf (!validConformityLevel conformityLevel)
    (.invalidDeviceIdConformityLevel conformityLevel)
  let moreFollows ← readMoreFollows data[3]!
  let nextObjectId := data[4]!
  rejectIf (!moreFollows ∧ nextObjectId ≠ 0) (.invalidDeviceIdNextObjectId nextObjectId)
  let numObjects := data[5]!
  rejectIf (deviceIdCode = .individual ∧ numObjects ≠ 1) (.invalidDeviceIdObjectCount numObjects)
  let objectData := data.drop 6
  let offset ← walkObjects objectData numObjects.toNat 0
  rejectIf (offset ≠ objectData.length) (.lengthMismatch (6 + offset) data.length)
  return { deviceIdCode, conformityLevel, moreFollows, nextObjectId, numObjects, objectData }

structure DeviceIdObjectEntry where
  id : UInt8
  value : List UInt8
deriving DecidableEq, Repr

/-- `DeviceIdObjectIter`: the objects in `data`, at most `remaining` of them. -/
def deviceIdObjects : Nat → List UInt8 → List DeviceIdObjectEntry
  | remaining + 1, id :: len :: data =>
    if data.length < len.toNat then []
    else { id, value := data.take len.toNat } :: deviceIdObjects remaining (data.drop len.toNat)
  | _, _ => []

def ReadDeviceIdentificationResponse.objects (r : ReadDeviceIdentificationResponse) :
    List DeviceIdObjectEntry :=
  deviceIdObjects r.numObjects.toNat r.objectData

abbrev EncapsulatedInterfaceResponse := EncapsulatedInterface

/-- The device-identification part of a response is decoded and dropped. -/
def checkIdentificationResponse (data : List UInt8) : Except DecodeError Unit := do
  let _ ← ReadDeviceIdentificationResponse.decode data
  return ()

/-- The bytes of a well-formed identification response. -/
structure IdentificationBytes (data : List UInt8) : Prop where
  header : 6 ≤ data.length
  meiType : data[0]! = MeiType.readDeviceIdentification.code
  deviceIdCode : ∃ code, DeviceIdCode.fromRaw data[1]! = some code ∧
    (code = .individual → data[5]! = 1)
  conformityLevel : validConformityLevel data[2]! = true
  moreFollows : ∃ more, readMoreFollows data[3]! = .ok more ∧ (more = false → data[4]! = 0)
  objects : walkObjects (data.drop 6) data[5]!.toNat 0 = .ok (data.drop 6).length

theorem checkIdentificationResponse_eq_ok_iff_decode :
    checkIdentificationResponse data = .ok () ↔
      ∃ r, ReadDeviceIdentificationResponse.decode data = .ok r := by
  refine bind_eq_ok.trans (exists_congr fun r => ?_)
  exact ⟨fun h => h.1, fun h => ⟨h, rfl⟩⟩

/-- Bytes that pass every guard, and what is read from them. -/
theorem ReadDeviceIdentificationResponse.decode_of_bytes {code : DeviceIdCode} {more : Bool}
    (hlen : 6 ≤ data.length) (hmei : data[0]! = MeiType.readDeviceIdentification.code)
    (hcode : DeviceIdCode.fromRaw data[1]! = some code) (hcount : code = .individual → data[5]! = 1)
    (hconf : validConformityLevel data[2]! = true) (hmore : readMoreFollows data[3]! = .ok more)
    (hnext : more = false → data[4]! = 0)
    (hobj : walkObjects (data.drop 6) data[5]!.toNat 0 = .ok (data.drop 6).length) :
    decode data = .ok
      { deviceIdCode := code, conformityLevel := data[2]!, moreFollows := more,
        nextObjectId := data[4]!, numObjects := data[5]!, objectData := data.drop 6 } := by
  refine check_bind_eq_ok.mpr ⟨rejectIf_eq_ok.mpr (Nat.not_lt.mpr hlen),
    check_bind_eq_ok.mpr ⟨rejectIf_eq_ok.mpr (not_not_intro hmei), okOr_bind_eq_ok.mpr
    ⟨code, hcode, check_bind_eq_ok.mpr ⟨rejectIf_eq_ok.mpr ?_, bind_eq_ok.mpr
    ⟨more, hmore, check_bind_eq_ok.mpr ⟨rejectIf_eq_ok.mpr ?_, check_bind_eq_ok.mpr
    ⟨rejectIf_eq_ok.mpr ?_, bind_eq_ok.mpr ⟨_, hobj, check_bind_eq_ok.mpr
    ⟨rejectIf_eq_ok.mpr (not_not_intro rfl), rfl⟩⟩⟩⟩⟩⟩⟩⟩⟩
  · rw [hconf]
    decide
  · simpa using hnext
  · simpa using hcount

theorem checkIdentificationResponse_eq_ok :
    checkIdentificationResponse data = .ok () ↔ IdentificationBytes data := by
  rw [checkIdentificationResponse_eq_ok_iff_decode]
  constructor
  · rintro ⟨r, h⟩
    obtain ⟨hlen, h⟩ := check_bind_eq_ok.mp h
    obtain ⟨hmei, h⟩ := check_bind_eq_ok.mp h
    obtain ⟨code, hcode, h⟩ := okOr_bind_eq_ok.mp h
    obtain ⟨hconf, h⟩ := check_bind_eq_ok.mp h
    obtain ⟨more, hmore, h⟩ := bind_eq_ok.mp h
    obtain ⟨hnext, h⟩ := check_bind_eq_ok.mp h
    obtain ⟨hcount, h⟩ := check_bind_eq_ok.mp h
    obtain ⟨fin, hobj, h⟩ := bind_eq_ok.mp h
    obtain ⟨hfin, -⟩ := check_bind_eq_ok.mp h
    simp only [rejectIf_eq_ok, Decidable.not_not, Nat.not_lt, Bool.not_eq_false,
      Bool.not_eq_eq_eq_not, Bool.not_true, not_and] at hlen hmei hconf hnext hcount hfin
    exact ⟨hlen, hmei, ⟨code, hcode, hcount⟩, hconf, ⟨more, hmore, hnext⟩, hfin ▸ hobj⟩
  · rintro ⟨hlen, hmei, ⟨code, hcode, hcount⟩, hconf, ⟨more, hmore, hnext⟩, hobj⟩
    exact ⟨_, ReadDeviceIdentificationResponse.decode_of_bytes hlen hmei hcode hcount hconf hmore
      hnext hobj⟩

abbrev EncapsulatedInterfaceResponse.decode :=
  EncapsulatedInterface.decode checkIdentificationResponse

/-! ## Exceptions -/

structure ExceptionResponse where
  functionCode : FunctionCode
  exceptionCode : ExceptionCode
deriving DecidableEq, Repr

namespace ExceptionResponse

def decode (fcByte : UInt8) (data : List UInt8) : Except DecodeError ExceptionResponse := do
  DecodeError.checkExactLen data 1
  let rawFunctionCode := fcByte &&& 0x7F
  rejectIf (rawFunctionCode = 0) (.unknownFunctionCode rawFunctionCode)
  let functionCode := FunctionCode.fromExceptionRaw fcByte
  let exceptionCode := ExceptionCode.fromRaw data[0]!
  return { functionCode, exceptionCode }

def encodedLen (_ : ExceptionResponse) : Nat := 2

def encodeInto (r : ExceptionResponse) : Encoder EncodeError Nat := do
  let len := r.encodedLen
  reserve len (.bufferTooSmall len)
  check (EncodeError.checkPduLen len)
  put 0 [r.functionCode.exceptionCode]
  put 1 [r.exceptionCode.code]
  return len

def wire (r : ExceptionResponse) : List UInt8 :=
  [r.functionCode.exceptionCode, r.exceptionCode.code]

/-- The values a decoder can return: the named constructor where there is one, and a
function code that a request can carry. -/
def Canonical (r : ExceptionResponse) : Prop :=
  FunctionCode.fromRaw r.functionCode.code = some r.functionCode ∧
    ExceptionCode.fromRaw r.exceptionCode.code = r.exceptionCode

theorem decode_eq_ok {b : UInt8} {data : List UInt8} {r : ExceptionResponse}
    (hb : b &&& 0x80 ≠ 0) :
    decode b data = .ok r ↔ b :: data = r.wire ∧ r.Canonical := by
  simp only [decode, check_bind_eq_ok, DecodeError.checkExactLen_eq_ok, rejectIf_eq_ok, pure_eq_ok]
  constructor
  · rintro ⟨hlen, hne, rfl⟩
    have hlow : (b &&& 0x7F) &&& 0x80 = 0 := (FunctionCode.exception_bits b).2.2.2
    have hfc : (FunctionCode.fromExceptionRaw b).code = b &&& 0x7F :=
      FunctionCode.code_fromByte _
    refine ⟨?_, ?_, ?_⟩
    · rw [wire, FunctionCode.exceptionCode, hfc, (FunctionCode.exception_bits b).2.2.1 hb,
        ExceptionCode.code_fromRaw, byte_eq_drop hlen, List.drop_zero]
    · show FunctionCode.fromRaw (FunctionCode.fromExceptionRaw b).code = _
      rw [hfc, FunctionCode.fromRaw, if_neg (by simp [hne, hlow]), FunctionCode.fromExceptionRaw]
    · show ExceptionCode.fromRaw (ExceptionCode.fromRaw data[0]!).code = _
      rw [ExceptionCode.code_fromRaw]
  · rintro ⟨hwire, hfc, hec⟩
    obtain ⟨rfl, rfl⟩ := List.cons.inj hwire
    obtain ⟨hz, htop, hbyte⟩ := FunctionCode.fromRaw_eq_some.mp hfc
    have hmask : r.functionCode.exceptionCode &&& 0x7F = r.functionCode.code :=
      (FunctionCode.exception_bits _).2.1 htop
    refine ⟨rfl, by rwa [hmask], ?_⟩
    rw [FunctionCode.fromExceptionRaw, hmask, hbyte]
    exact congrArg (mk _) hec

theorem encodeInto_emits (r : ExceptionResponse) : Emits r.encodeInto r.encodedLen True r.wire :=
  emits_fixed <| .put <| .put <| .ret

end ExceptionResponse

end RustyModbus
