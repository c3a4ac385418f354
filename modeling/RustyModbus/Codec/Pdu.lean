import RustyModbus.Codec.Response

/-!
# PDUs and their dispatch

`decode_request` and `decode_response` pick a decoder by the function code byte. Here
the per-type lemmas are collected into one statement per direction: a byte string is
decoded to a value exactly if it is that value's wire form, the value is one the decoder
demands (`Valid`), and the string is no longer than a PDU may be. All later reasoning
about the codec goes through these two statements and never into a decoder.
-/

namespace RustyModbus

open Wire

structure PduRef where
  functionCode : UInt8
  data : List UInt8

inductive RequestPdu
  | readCoils (r : ReadCoilsRequest)
  | readDiscreteInputs (r : ReadDiscreteInputsRequest)
  | readHoldingRegisters (r : ReadHoldingRegistersRequest)
  | readInputRegisters (r : ReadInputRegistersRequest)
  | writeSingleCoil (r : WriteSingleCoilRequest)
  | writeSingleRegister (r : WriteSingleRegisterRequest)
  | readExceptionStatus
  | diagnostics (r : DiagnosticsRequest)
  | getCommEventCounter
  | getCommEventLog
  | writeMultipleCoils (r : WriteMultipleCoilsRequest)
  | writeMultipleRegisters (r : WriteMultipleRegistersRequest)
  | reportServerId
  | readFileRecord (r : ReadFileRecordRequest)
  | writeFileRecord (r : WriteFileRecordRequest)
  | maskWriteRegister (r : MaskWriteRegisterRequest)
  | readWriteMultipleRegisters (r : ReadWriteMultipleRegistersRequest)
  | readFifoQueue (r : ReadFifoQueueRequest)
  | encapsulatedInterface (r : EncapsulatedInterfaceRequest)
  | custom (fc : UInt8) (data : List UInt8)
deriving DecidableEq, Repr

inductive ResponsePdu
  | readCoils (r : ReadCoilsResponse)
  | readDiscreteInputs (r : ReadDiscreteInputsResponse)
  | readHoldingRegisters (r : ReadHoldingRegistersResponse)
  | readInputRegisters (r : ReadInputRegistersResponse)
  | writeSingleCoil (r : WriteSingleCoilResponse)
  | writeSingleRegister (r : WriteSingleRegisterResponse)
  | readExceptionStatus (r : ReadExceptionStatusResponse)
  | diagnostics (r : DiagnosticsResponse)
  | getCommEventCounter (r : GetCommEventCounterResponse)
  | getCommEventLog (r : GetCommEventLogResponse)
  | writeMultipleCoils (r : WriteMultipleCoilsResponse)
  | writeMultipleRegisters (r : WriteMultipleRegistersResponse)
  | reportServerId (r : ReportServerIdResponse)
  | readFileRecord (r : ReadFileRecordResponse)
  | writeFileRecord (r : WriteFileRecordResponse)
  | maskWriteRegister (r : MaskWriteRegisterResponse)
  | readWriteMultipleRegisters (r : ReadWriteMultipleRegistersResponse)
  | readFifoQueue (r : ReadFifoQueueResponse)
  | encapsulatedInterface (r : EncapsulatedInterfaceResponse)
  | custom (fc : UInt8) (data : List UInt8)
  | exception (r : ExceptionResponse)
deriving DecidableEq, Repr

/-! ## The decoders -/

def decodePduRef (pdu : List UInt8) : Except DecodeError PduRef := do
  rejectIf (pdu.length > maxPduSize) (.pduTooLarge pdu.length maxPduSize)
  rejectIf (pdu = []) (.truncated 1 0)
  return { functionCode := pdu[0]!, data := pdu.drop 1 }

/-- The dispatch of `decode_request` on the function code. -/
def RequestPdu.decodeBody (fc : FunctionCode) (data : List UInt8) : Except DecodeError RequestPdu :=
  match fc with
  | .readCoils => (ReadCoilsRequest.decode data).map readCoils
  | .readDiscreteInputs => (ReadDiscreteInputsRequest.decode data).map readDiscreteInputs
  | .readHoldingRegisters => (ReadHoldingRegistersRequest.decode data).map readHoldingRegisters
  | .readInputRegisters => (ReadInputRegistersRequest.decode data).map readInputRegisters
  | .writeSingleCoil => (WriteSingleCoil.decode data).map writeSingleCoil
  | .writeSingleRegister => (WriteSingleRegister.decode data).map writeSingleRegister
  | .readExceptionStatus => do
    DecodeError.checkExactLen data 0
    return readExceptionStatus
  | .diagnostics => (DiagnosticsMessage.decode data).map diagnostics
  | .getCommEventCounter => do
    DecodeError.checkExactLen data 0
    return getCommEventCounter
  | .getCommEventLog => do
    DecodeError.checkExactLen data 0
    return getCommEventLog
  | .writeMultipleCoils => (WriteMultipleCoilsRequest.decode data).map writeMultipleCoils
  | .writeMultipleRegisters =>
    (WriteMultipleRegistersRequest.decode data).map writeMultipleRegisters
  | .reportServerId => do
    DecodeError.checkExactLen data 0
    return reportServerId
  | .readFileRecord => (ReadFileRecordRequest.decode data).map readFileRecord
  | .writeFileRecord => (WriteFileRecordRequest.decode data).map writeFileRecord
  | .maskWriteRegister => (MaskWriteRegister.decode data).map maskWriteRegister
  | .readWriteMultipleRegisters =>
    (ReadWriteMultipleRegistersRequest.decode data).map readWriteMultipleRegisters
  | .readFifoQueue => (ReadFifoQueueRequest.decode data).map readFifoQueue
  | .encapsulatedInterfaceTransport =>
    (EncapsulatedInterfaceRequest.decode data).map encapsulatedInterface
  | .custom fc => .ok (custom fc data)

def decodeRequest (pdu : List UInt8) : Except DecodeError RequestPdu := do
  let pduRef ← decodePduRef pdu
  let fc := pduRef.functionCode
  let data := pduRef.data
  let fcEnum ← okOr (FunctionCode.fromRaw fc) (.unknownFunctionCode fc)
  RequestPdu.decodeBody fcEnum data

/-- The dispatch of `decode_response` on the function code. -/
def ResponsePdu.decodeBody (fc : FunctionCode) (data : List UInt8) :
    Except DecodeError ResponsePdu :=
  match fc with
  | .readCoils => (ReadCoilsResponse.decode data).map readCoils
  | .readDiscreteInputs => (ReadDiscreteInputsResponse.decode data).map readDiscreteInputs
  | .readHoldingRegisters => (ReadHoldingRegistersResponse.decode data).map readHoldingRegisters
  | .readInputRegisters => (ReadInputRegistersResponse.decode data).map readInputRegisters
  | .writeSingleCoil => (WriteSingleCoil.decode data).map writeSingleCoil
  | .writeSingleRegister => (WriteSingleRegister.decode data).map writeSingleRegister
  | .readExceptionStatus => (ReadExceptionStatusResponse.decode data).map readExceptionStatus
  | .diagnostics => (DiagnosticsMessage.decode data).map diagnostics
  | .getCommEventCounter => (GetCommEventCounterResponse.decode data).map getCommEventCounter
  | .getCommEventLog => (GetCommEventLogResponse.decode data).map getCommEventLog
  | .writeMultipleCoils => (WriteMultipleCoilsResponse.decode data).map writeMultipleCoils
  | .writeMultipleRegisters =>
    (WriteMultipleRegistersResponse.decode data).map writeMultipleRegisters
  | .reportServerId => (ReportServerIdResponse.decode data).map reportServerId
  | .readFileRecord => (ReadFileRecordResponse.decode data).map readFileRecord
  | .writeFileRecord => (WriteFileRecordResponse.decode data).map writeFileRecord
  | .maskWriteRegister => (MaskWriteRegister.decode data).map maskWriteRegister
  | .readWriteMultipleRegisters =>
    (ReadWriteMultipleRegistersResponse.decode data).map readWriteMultipleRegisters
  | .readFifoQueue => (ReadFifoQueueResponse.decode data).map readFifoQueue
  | .encapsulatedInterfaceTransport =>
    (EncapsulatedInterfaceResponse.decode data).map encapsulatedInterface
  | .custom fc => .ok (custom fc data)

def decodeResponse (pdu : List UInt8) : Except DecodeError ResponsePdu := do
  let pduRef ← decodePduRef pdu
  let fc := pduRef.functionCode
  let data := pduRef.data
  if FunctionCode.isExceptionResponse fc then
    (ExceptionResponse.decode fc data).map .exception
  else
    let fcEnum ← okOr (FunctionCode.fromRaw fc) (.unknownFunctionCode fc)
    ResponsePdu.decodeBody fcEnum data

/-! ## Wire forms -/

namespace RequestPdu

def functionCode : RequestPdu → FunctionCode
  | readCoils _ => .readCoils
  | readDiscreteInputs _ => .readDiscreteInputs
  | readHoldingRegisters _ => .readHoldingRegisters
  | readInputRegisters _ => .readInputRegisters
  | writeSingleCoil _ => .writeSingleCoil
  | writeSingleRegister _ => .writeSingleRegister
  | readExceptionStatus => .readExceptionStatus
  | diagnostics _ => .diagnostics
  | getCommEventCounter => .getCommEventCounter
  | getCommEventLog => .getCommEventLog
  | writeMultipleCoils _ => .writeMultipleCoils
  | writeMultipleRegisters _ => .writeMultipleRegisters
  | reportServerId => .reportServerId
  | readFileRecord _ => .readFileRecord
  | writeFileRecord _ => .writeFileRecord
  | maskWriteRegister _ => .maskWriteRegister
  | readWriteMultipleRegisters _ => .readWriteMultipleRegisters
  | readFifoQueue _ => .readFifoQueue
  | encapsulatedInterface _ => .encapsulatedInterfaceTransport
  | custom fc _ => .custom fc

/-- The bytes behind the function code. -/
def body : RequestPdu → List UInt8
  | readCoils r | readDiscreteInputs r | readHoldingRegisters r | readInputRegisters r => r.body
  | writeSingleCoil r => r.body
  | writeSingleRegister r => r.body
  | readExceptionStatus | getCommEventCounter | getCommEventLog | reportServerId => []
  | diagnostics r => r.body
  | writeMultipleCoils r | writeMultipleRegisters r => r.body
  | readFileRecord r | writeFileRecord r => r.body
  | maskWriteRegister r => r.body
  | readWriteMultipleRegisters r => r.body
  | readFifoQueue r => r.body
  | encapsulatedInterface r => r.body
  | custom _ data => data

/-- What the decoder of the function code demands of the fields. -/
def Valid : RequestPdu → Prop
  | readCoils r | readDiscreteInputs r => InRange r.quantity 2000
  | readHoldingRegisters r | readInputRegisters r => InRange r.quantity 125
  | diagnostics r => r.Valid
  | writeMultipleCoils r => r.Valid 1968 coilBytes
  | writeMultipleRegisters r => r.Valid 123 registerBytes
  | readFileRecord r =>
    (7 ≤ r.byteCount.toNat ∧ r.byteCount.toNat ≤ 245) ∧ r.data.length = r.byteCount.toNat ∧
      validateReadFileSubRequests r.data = .ok ()
  | writeFileRecord r =>
    (9 ≤ r.byteCount.toNat ∧ r.byteCount.toNat ≤ 251) ∧ r.data.length = r.byteCount.toNat ∧
      validateWriteFileSubRequests r.data = .ok ()
  | readWriteMultipleRegisters r => r.Valid
  | encapsulatedInterface r =>
    r.meiType = .readDeviceIdentification → checkIdentificationRequest r.body = .ok ()
  | custom fc _ => FunctionCode.fromRaw fc = some (.custom fc)
  | _ => True

def wire (r : RequestPdu) : List UInt8 := r.functionCode.code :: r.body

theorem decodeBody_eq_ok {fc : FunctionCode} {data : List UInt8} {r : RequestPdu}
    (hfc : FunctionCode.fromRaw fc.code = some fc) :
    decodeBody fc data = .ok r ↔ r.functionCode = fc ∧ data = r.body ∧ r.Valid := by
  constructor
  · intro h
    cases fc with try obtain ⟨a, ha, rfl⟩ := map_eq_ok.mp h
    | readCoils | readDiscreteInputs | readHoldingRegisters | readInputRegisters =>
      exact ⟨rfl, AddressRange.decode_eq_ok.mp ha⟩
    | writeSingleCoil => exact ⟨rfl, WriteSingleCoil.decode_eq_ok.mp ha, trivial⟩
    | writeSingleRegister => exact ⟨rfl, WriteSingleRegister.decode_eq_ok.mp ha, trivial⟩
    | readExceptionStatus | getCommEventCounter | getCommEventLog | reportServerId =>
      exact ⟨rfl, List.length_eq_zero_iff.mp (DecodeError.checkExactLen_eq_ok.mp ha), trivial⟩
    | diagnostics => exact ⟨rfl, DiagnosticsMessage.decode_eq_ok.mp ha⟩
    | writeMultipleCoils | writeMultipleRegisters =>
      exact ⟨rfl, WriteMultipleRequest.decode_eq_ok.mp ha⟩
    | readFileRecord | writeFileRecord =>
      obtain ⟨hd, hn, hrest⟩ := CountedData.decode_eq_ok.mp ha
      exact ⟨rfl, hd, checkFileRecordByteCount_eq_ok.mp hn, hrest⟩
    | maskWriteRegister => exact ⟨rfl, MaskWriteRegister.decode_eq_ok.mp ha, trivial⟩
    | readWriteMultipleRegisters =>
      exact ⟨rfl, ReadWriteMultipleRegistersRequest.decode_eq_ok.mp ha⟩
    | readFifoQueue => exact ⟨rfl, ReadFifoQueueRequest.decode_eq_ok.mp ha, trivial⟩
    | encapsulatedInterfaceTransport => exact ⟨rfl, EncapsulatedInterface.decode_eq_ok.mp ha⟩
    | custom b =>
      obtain rfl := Except.ok.inj h
      exact ⟨rfl, rfl, hfc⟩
  · rintro ⟨rfl, rfl, hv⟩
    cases r with try refine map_eq_ok.mpr ⟨_, ?_, rfl⟩
    | readCoils | readDiscreteInputs | readHoldingRegisters | readInputRegisters =>
      exact AddressRange.decode_eq_ok.mpr ⟨rfl, hv⟩
    | writeSingleCoil => exact WriteSingleCoil.decode_eq_ok.mpr rfl
    | writeSingleRegister => exact map_eq_ok.mpr ⟨_, WriteSingleRegister.decode_eq_ok.mpr rfl, rfl⟩
    | readExceptionStatus | getCommEventCounter | getCommEventLog | reportServerId | custom => rfl
    | diagnostics => exact DiagnosticsMessage.decode_eq_ok.mpr ⟨rfl, hv⟩
    | writeMultipleCoils | writeMultipleRegisters =>
      exact WriteMultipleRequest.decode_eq_ok.mpr ⟨rfl, hv⟩
    | readFileRecord | writeFileRecord =>
      exact CountedData.decode_eq_ok.mpr ⟨rfl, checkFileRecordByteCount_eq_ok.mpr hv.1, hv.2⟩
    | maskWriteRegister => exact map_eq_ok.mpr ⟨_, MaskWriteRegister.decode_eq_ok.mpr rfl, rfl⟩
    | readWriteMultipleRegisters =>
      exact ReadWriteMultipleRegistersRequest.decode_eq_ok.mpr ⟨rfl, hv⟩
    | readFifoQueue => exact map_eq_ok.mpr ⟨_, ReadFifoQueueRequest.decode_eq_ok.mpr rfl, rfl⟩
    | encapsulatedInterface => exact EncapsulatedInterface.decode_eq_ok.mpr ⟨rfl, hv⟩

/-- The function code of a valid request is read back from its byte. -/
theorem fromRaw_code {r : RequestPdu} (hv : r.Valid) :
    FunctionCode.fromRaw r.functionCode.code = some r.functionCode := by
  cases r with
  | custom fc data => exact hv
  | _ => exact FunctionCode.fromRaw_code nofun

end RequestPdu

variable {pdu : List UInt8}

theorem decodePduRef_eq_ok {p : PduRef} :
    decodePduRef pdu = .ok p ↔ pdu = p.functionCode :: p.data ∧ pdu.length ≤ maxPduSize := by
  simp only [decodePduRef, check_bind_eq_ok, rejectIf_eq_ok, pure_eq_ok, Nat.not_lt, gt_iff_lt]
  constructor
  · rintro ⟨hmax, hne, rfl⟩
    refine ⟨?_, hmax⟩
    rw [byte_cons_drop (List.length_pos_iff.mpr hne), List.drop_zero]
  · rintro ⟨rfl, hmax⟩
    exact ⟨hmax, List.cons_ne_nil _ _, rfl⟩

/-- A byte string is decoded to a request exactly if it is the wire form of that request,
the request is valid and the string fits a PDU. -/
theorem decodeRequest_eq_ok {r : RequestPdu} :
    decodeRequest pdu = .ok r ↔ pdu = r.wire ∧ r.Valid ∧ pdu.length ≤ maxPduSize := by
  rw [decodeRequest, bind_eq_ok]
  constructor
  · rintro ⟨p, hp, h⟩
    obtain ⟨hpdu, hlen⟩ := decodePduRef_eq_ok.mp hp
    obtain ⟨fc, hfc, h⟩ := okOr_bind_eq_ok.mp h
    have hcode := FunctionCode.code_eq_of_fromRaw hfc
    obtain ⟨rfl, hbody, hv⟩ := (RequestPdu.decodeBody_eq_ok (by rw [hcode]; exact hfc)).mp h
    exact ⟨by rw [hpdu, RequestPdu.wire, hcode, hbody], hv, hlen⟩
  · rintro ⟨rfl, hv, hlen⟩
    have hfc := RequestPdu.fromRaw_code hv
    refine ⟨⟨r.functionCode.code, r.body⟩, decodePduRef_eq_ok.mpr ⟨rfl, hlen⟩, ?_⟩
    exact okOr_bind_eq_ok.mpr ⟨_, hfc, (RequestPdu.decodeBody_eq_ok hfc).mpr ⟨rfl, rfl, hv⟩⟩

namespace ResponsePdu

/-- The function code a response answers; an exception names it too. -/
def functionCode : ResponsePdu → FunctionCode
  | readCoils _ => .readCoils
  | readDiscreteInputs _ => .readDiscreteInputs
  | readHoldingRegisters _ => .readHoldingRegisters
  | readInputRegisters _ => .readInputRegisters
  | writeSingleCoil _ => .writeSingleCoil
  | writeSingleRegister _ => .writeSingleRegister
  | readExceptionStatus _ => .readExceptionStatus
  | diagnostics _ => .diagnostics
  | getCommEventCounter _ => .getCommEventCounter
  | getCommEventLog _ => .getCommEventLog
  | writeMultipleCoils _ => .writeMultipleCoils
  | writeMultipleRegisters _ => .writeMultipleRegisters
  | reportServerId _ => .reportServerId
  | readFileRecord _ => .readFileRecord
  | writeFileRecord _ => .writeFileRecord
  | maskWriteRegister _ => .maskWriteRegister
  | readWriteMultipleRegisters _ => .readWriteMultipleRegisters
  | readFifoQueue _ => .readFifoQueue
  | encapsulatedInterface _ => .encapsulatedInterfaceTransport
  | custom fc _ => .custom fc
  | exception r => r.functionCode

/-- The bytes behind the function code. -/
def body : ResponsePdu → List UInt8
  | readCoils r | readDiscreteInputs r | readHoldingRegisters r | readInputRegisters r => r.body
  | writeSingleCoil r => r.body
  | writeSingleRegister r => r.body
  | readExceptionStatus r => r.body
  | diagnostics r => r.body
  | getCommEventCounter r => r.body
  | getCommEventLog r => r.body
  | writeMultipleCoils r | writeMultipleRegisters r => r.body
  | reportServerId r | readFileRecord r | writeFileRecord r => r.body
  | maskWriteRegister r => r.body
  | readWriteMultipleRegisters r => r.body
  | readFifoQueue r => r.body
  | encapsulatedInterface r => r.body
  | custom _ data => data
  | exception r => [r.exceptionCode.code]

/-- What the decoder of the function code demands of the fields. -/
def Valid : ResponsePdu → Prop
  | readCoils r | readDiscreteInputs r | reportServerId r => r.data.length = r.byteCount.toNat
  | readHoldingRegisters r | readInputRegisters r | readWriteMultipleRegisters r =>
    r.data.length = r.byteCount.toNat ∧ r.data.length % 2 = 0
  | diagnostics r => r.Valid
  | getCommEventLog r => r.Valid
  | readFileRecord r =>
    (4 ≤ r.byteCount.toNat ∧ r.byteCount.toNat ≤ 250) ∧ r.data.length = r.byteCount.toNat ∧
      validateReadFileResponsePayload r.data = .ok ()
  | writeFileRecord r =>
    (9 ≤ r.byteCount.toNat ∧ r.byteCount.toNat ≤ 251) ∧ r.data.length = r.byteCount.toNat ∧
      validateWriteFilePayload r.data = .ok ()
  | readFifoQueue r => r.Valid
  | encapsulatedInterface r =>
    r.meiType = .readDeviceIdentification → checkIdentificationResponse r.body = .ok ()
  | custom fc _ => FunctionCode.fromRaw fc = some (.custom fc)
  | exception r => r.Canonical
  | _ => True

def wire : ResponsePdu → List UInt8
  | exception r => r.wire
  | r => r.functionCode.code :: r.body

def IsException : ResponsePdu → Prop
  | exception _ => True
  | _ => False

variable {r : ResponsePdu}

theorem wire_of_not_isException (h : ¬r.IsException) : r.wire = r.functionCode.code :: r.body := by
  cases r with
  | exception r => exact absurd trivial h
  | _ => rfl

theorem decodeBody_eq_ok {fc : FunctionCode} {data : List UInt8}
    (hfc : FunctionCode.fromRaw fc.code = some fc) :
    decodeBody fc data = .ok r ↔
      ¬r.IsException ∧ r.functionCode = fc ∧ data = r.body ∧ r.Valid := by
  constructor
  · intro h
    cases fc with try obtain ⟨a, ha, rfl⟩ := map_eq_ok.mp h
    | readCoils | readDiscreteInputs | reportServerId =>
      obtain ⟨hd, -, hlen, -⟩ := CountedData.decode_eq_ok.mp ha
      exact ⟨id, rfl, hd, hlen⟩
    | readHoldingRegisters | readInputRegisters | readWriteMultipleRegisters =>
      obtain ⟨hd, -, hlen, heven⟩ := CountedData.decode_eq_ok.mp ha
      exact ⟨id, rfl, hd, hlen, DecodeError.checkRegisterDataLen_eq_ok.mp heven⟩
    | writeSingleCoil => exact ⟨id, rfl, WriteSingleCoil.decode_eq_ok.mp ha, trivial⟩
    | writeSingleRegister => exact ⟨id, rfl, WriteSingleRegister.decode_eq_ok.mp ha, trivial⟩
    | readExceptionStatus =>
      exact ⟨id, rfl, ReadExceptionStatusResponse.decode_eq_ok.mp ha, trivial⟩
    | diagnostics => exact ⟨id, rfl, DiagnosticsMessage.decode_eq_ok.mp ha⟩
    | getCommEventCounter =>
      exact ⟨id, rfl, GetCommEventCounterResponse.decode_eq_ok.mp ha, trivial⟩
    | getCommEventLog => exact ⟨id, rfl, GetCommEventLogResponse.decode_eq_ok.mp ha⟩
    | writeMultipleCoils | writeMultipleRegisters =>
      exact ⟨id, rfl, AddressRange.decodeAny_eq_ok.mp ha, trivial⟩
    | readFileRecord | writeFileRecord =>
      obtain ⟨hd, hn, hrest⟩ := CountedData.decode_eq_ok.mp ha
      exact ⟨id, rfl, hd, checkFileRecordByteCount_eq_ok.mp hn, hrest⟩
    | maskWriteRegister => exact ⟨id, rfl, MaskWriteRegister.decode_eq_ok.mp ha, trivial⟩
    | readFifoQueue => exact ⟨id, rfl, ReadFifoQueueResponse.decode_eq_ok.mp ha⟩
    | encapsulatedInterfaceTransport => exact ⟨id, rfl, EncapsulatedInterface.decode_eq_ok.mp ha⟩
    | custom b =>
      obtain rfl := Except.ok.inj h
      exact ⟨id, rfl, rfl, hfc⟩
  · rintro ⟨hexc, rfl, rfl, hv⟩
    cases r with try refine map_eq_ok.mpr ⟨_, ?_, rfl⟩
    | readCoils | readDiscreteInputs | reportServerId =>
      exact CountedData.decode_eq_ok.mpr ⟨rfl, rfl, hv, rfl⟩
    | readHoldingRegisters | readInputRegisters | readWriteMultipleRegisters =>
      exact CountedData.decode_eq_ok.mpr
        ⟨rfl, rfl, hv.1, DecodeError.checkRegisterDataLen_eq_ok.mpr hv.2⟩
    | writeSingleCoil => exact WriteSingleCoil.decode_eq_ok.mpr rfl
    | writeSingleRegister => exact map_eq_ok.mpr ⟨_, WriteSingleRegister.decode_eq_ok.mpr rfl, rfl⟩
    | readExceptionStatus =>
      exact map_eq_ok.mpr ⟨_, ReadExceptionStatusResponse.decode_eq_ok.mpr rfl, rfl⟩
    | diagnostics => exact DiagnosticsMessage.decode_eq_ok.mpr ⟨rfl, hv⟩
    | getCommEventCounter =>
      exact map_eq_ok.mpr ⟨_, GetCommEventCounterResponse.decode_eq_ok.mpr rfl, rfl⟩
    | getCommEventLog => exact GetCommEventLogResponse.decode_eq_ok.mpr ⟨rfl, hv⟩
    | writeMultipleCoils | writeMultipleRegisters =>
      exact map_eq_ok.mpr ⟨_, AddressRange.decodeAny_eq_ok.mpr rfl, rfl⟩
    | readFileRecord | writeFileRecord =>
      exact CountedData.decode_eq_ok.mpr ⟨rfl, checkFileRecordByteCount_eq_ok.mpr hv.1, hv.2⟩
    | maskWriteRegister => exact map_eq_ok.mpr ⟨_, MaskWriteRegister.decode_eq_ok.mpr rfl, rfl⟩
    | readFifoQueue => exact ReadFifoQueueResponse.decode_eq_ok.mpr ⟨rfl, hv⟩
    | encapsulatedInterface => exact EncapsulatedInterface.decode_eq_ok.mpr ⟨rfl, hv⟩
    | custom => rfl
    | exception => exact absurd trivial hexc

theorem fromRaw_code (hv : r.Valid) :
    FunctionCode.fromRaw r.functionCode.code = some r.functionCode := by
  cases r with
  | custom fc data => exact hv
  | exception r => exact hv.1
  | _ => exact FunctionCode.fromRaw_code nofun

end ResponsePdu

theorem FunctionCode.isExceptionResponse_eq_true {b : UInt8} :
    isExceptionResponse b = true ↔ b &&& 0x80 ≠ 0 := by
  simp [isExceptionResponse]

/-- A byte string is decoded to a response exactly if it is the wire form of that response,
the response is valid and the string fits a PDU. -/
theorem decodeResponse_eq_ok {r : ResponsePdu} :
    decodeResponse pdu = .ok r ↔ pdu = r.wire ∧ r.Valid ∧ pdu.length ≤ maxPduSize := by
  rw [decodeResponse, bind_eq_ok]
  constructor
  · rintro ⟨p, hp, h⟩
    obtain ⟨hpdu, hlen⟩ := decodePduRef_eq_ok.mp hp
    dsimp only at h
    split at h
    next hexc =>
      obtain ⟨e, he, rfl⟩ := map_eq_ok.mp h
      obtain ⟨hwire, hcanon⟩ := (ExceptionResponse.decode_eq_ok
        (FunctionCode.isExceptionResponse_eq_true.mp hexc)).mp he
      exact ⟨hpdu.trans hwire, hcanon, hlen⟩
    next =>
      obtain ⟨fc, hfc, h⟩ := okOr_bind_eq_ok.mp h
      have hcode := FunctionCode.code_eq_of_fromRaw hfc
      obtain ⟨hexc, rfl, hbody, hv⟩ :=
        (ResponsePdu.decodeBody_eq_ok (by rw [hcode]; exact hfc)).mp h
      exact ⟨by rw [hpdu, ResponsePdu.wire_of_not_isException hexc, hcode, hbody], hv, hlen⟩
  · rintro ⟨rfl, hv, hlen⟩
    by_cases hexc : r.IsException
    · cases r with
      | exception r =>
        have hb : r.functionCode.exceptionCode &&& 0x80 ≠ 0 :=
          (FunctionCode.exception_bits _).1
        refine ⟨⟨r.functionCode.exceptionCode, [r.exceptionCode.code]⟩,
          decodePduRef_eq_ok.mpr ⟨rfl, hlen⟩, ?_⟩
        dsimp only
        rw [if_pos (FunctionCode.isExceptionResponse_eq_true.mpr hb)]
        exact map_eq_ok.mpr ⟨r, (ExceptionResponse.decode_eq_ok hb).mpr ⟨rfl, hv⟩, rfl⟩
      | _ => exact absurd hexc id
    · have hfc := ResponsePdu.fromRaw_code hv
      have htop := (FunctionCode.fromRaw_eq_some.mp hfc).2.1
      rw [ResponsePdu.wire_of_not_isException hexc] at hlen ⊢
      refine ⟨⟨r.functionCode.code, r.body⟩, decodePduRef_eq_ok.mpr ⟨rfl, hlen⟩, ?_⟩
      dsimp only
      rw [if_neg (fun h => FunctionCode.isExceptionResponse_eq_true.mp h htop)]
      exact okOr_bind_eq_ok.mpr
        ⟨_, hfc, (ResponsePdu.decodeBody_eq_ok hfc).mpr ⟨hexc, rfl, rfl, hv⟩⟩

end RustyModbus
