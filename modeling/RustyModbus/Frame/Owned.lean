import RustyModbus.Codec.Pdu

/-!
# Owned responses

The client's parser of response PDUs, a second implementation beside `decode_response`. It
dispatches on the first byte itself and, instead of keeping the slices a decoder returns,
cuts the payload out of the shared buffer again at offsets of its own. The owned types have
the fields of the borrowed ones, so one set of structures stands for both.

`fromPdu_eq_decodeResponse` says that nothing is lost in this: for the function codes a
response can carry both parsers are the same function. The last section says exactly where they
part.
-/

namespace RustyModbus

open Wire

abbrev OwnedResponsePdu := ResponsePdu

/-- `Bytes::slice(start..finish)`. -/
def sliceOf (start finish : Nat) (pdu : List UInt8) : List UInt8 :=
  (pdu.take finish).drop start

/-- The bytes behind the function code. -/
def pduData (pdu : List UInt8) : Except DecodeError (List UInt8) := do
  rejectIf (pdu = []) (.truncated 1 0)
  return pdu.drop 1

/-! ## The variable-length types -/

/-- The bit reads and Report Server ID, which check the count themselves. -/
def ownedPlain (pdu : List UInt8) : Except DecodeError CountedData := do
  let data ← pduData pdu
  rejectIf (data = []) (.truncated 1 0)
  let byteCount := data[0]!
  let payload := data.drop 1
  rejectIf (payload.length ≠ byteCount.toNat) (.byteCountMismatch byteCount.toNat payload.length)
  return { byteCount, data := sliceOf 2 (2 + byteCount.toNat) pdu }

/-- The register reads and file records, which ask the borrowed decoder. -/
def ownedCounted (decode : List UInt8 → Except DecodeError CountedData) (pdu : List UInt8) :
    Except DecodeError CountedData := do
  let data ← pduData pdu
  let decoded ← decode data
  return { byteCount := decoded.byteCount, data := sliceOf 2 (2 + decoded.data.length) pdu }

abbrev OwnedReadCoilsResponse.fromPdu := ownedPlain
abbrev OwnedReadDiscreteInputsResponse.fromPdu := ownedPlain
abbrev OwnedReportServerIdResponse.fromPdu := ownedPlain
abbrev OwnedReadHoldingRegistersResponse.fromPdu := ownedCounted ReadHoldingRegistersResponse.decode
abbrev OwnedReadInputRegistersResponse.fromPdu := ownedCounted ReadInputRegistersResponse.decode
abbrev OwnedReadWriteMultipleRegistersResponse.fromPdu :=
  ownedCounted ReadWriteMultipleRegistersResponse.decode
abbrev OwnedReadFileRecordResponse.fromPdu := ownedCounted ReadFileRecordResponse.decode
abbrev OwnedWriteFileRecordResponse.fromPdu := ownedCounted WriteFileRecordResponse.decode

def OwnedReadFifoQueueResponse.fromPdu (pdu : List UInt8) :
    Except DecodeError ReadFifoQueueResponse := do
  let data ← pduData pdu
  let decoded ← ReadFifoQueueResponse.decode data
  return { decoded with fifoValues := sliceOf 5 (5 + decoded.fifoValues.length) pdu }

def OwnedDiagnosticsResponse.fromPdu (pdu : List UInt8) :
    Except DecodeError DiagnosticsResponse := do
  let data ← pduData pdu
  rejectIf (data.length < 2) (.truncated 2 data.length)
  let rawSub := wordAt data 0
  let subFunction ← okOr (DiagnosticSubFunction.fromRaw rawSub)
    (.unknownDiagnosticSubFunction rawSub)
  let payload := data.drop 2
  rejectIf (payload.length % 2 ≠ 0) (.invalidDiagnosticDataLength payload.length)
  return { subFunction, data := pdu.drop 3 }

def OwnedGetCommEventLogResponse.fromPdu (pdu : List UInt8) :
    Except DecodeError GetCommEventLogResponse := do
  let data ← pduData pdu
  let decoded ← GetCommEventLogResponse.decode data
  return { decoded with events := sliceOf 8 (8 + decoded.events.length) pdu }

def OwnedEncapsulatedInterfaceResponse.fromPdu (pdu : List UInt8) :
    Except DecodeError EncapsulatedInterfaceResponse := do
  let data ← pduData pdu
  let decoded ← EncapsulatedInterfaceResponse.decode data
  return { meiType := decoded.meiType, data := pdu.drop 2 }

/-- `coil(index)` of an owned bit read. -/
def CountedData.coil (r : CountedData) (index : Nat) : Bool :=
  (r.data[index / 8]! >>> UInt8.ofNat (index % 8)) &&& 1 == 1

/-- `registers()` of an owned register read. -/
def CountedData.registers (r : CountedData) : List UInt16 :=
  (chunksExact 2 r.data).map fun chunk => fromBeBytes chunk[0]! chunk[1]!

/-! ## Dispatch -/

namespace OwnedResponsePdu

open ResponsePdu

def fromBody (fc : FunctionCode) (pdu : List UInt8) : Except DecodeError OwnedResponsePdu :=
  let data := pdu.drop 1
  match fc with
  | .readCoils => (OwnedReadCoilsResponse.fromPdu pdu).map readCoils
  | .readDiscreteInputs => (OwnedReadDiscreteInputsResponse.fromPdu pdu).map readDiscreteInputs
  | .readHoldingRegisters =>
    (OwnedReadHoldingRegistersResponse.fromPdu pdu).map readHoldingRegisters
  | .readInputRegisters => (OwnedReadInputRegistersResponse.fromPdu pdu).map readInputRegisters
  | .writeSingleCoil => (WriteSingleCoil.decode data).map writeSingleCoil
  | .writeSingleRegister => (WriteSingleRegister.decode data).map writeSingleRegister
  | .readExceptionStatus => (ReadExceptionStatusResponse.decode data).map readExceptionStatus
  | .diagnostics => (OwnedDiagnosticsResponse.fromPdu pdu).map diagnostics
  | .getCommEventCounter => (GetCommEventCounterResponse.decode data).map getCommEventCounter
  | .getCommEventLog => (OwnedGetCommEventLogResponse.fromPdu pdu).map getCommEventLog
  | .writeMultipleCoils => (WriteMultipleCoilsResponse.decode data).map writeMultipleCoils
  | .writeMultipleRegisters =>
    (WriteMultipleRegistersResponse.decode data).map writeMultipleRegisters
  | .reportServerId => (OwnedReportServerIdResponse.fromPdu pdu).map reportServerId
  | .readFileRecord => (OwnedReadFileRecordResponse.fromPdu pdu).map readFileRecord
  | .writeFileRecord => (OwnedWriteFileRecordResponse.fromPdu pdu).map writeFileRecord
  | .maskWriteRegister => (MaskWriteRegister.decode data).map maskWriteRegister
  | .readWriteMultipleRegisters =>
    (OwnedReadWriteMultipleRegistersResponse.fromPdu pdu).map readWriteMultipleRegisters
  | .readFifoQueue => (OwnedReadFifoQueueResponse.fromPdu pdu).map readFifoQueue
  | .encapsulatedInterfaceTransport =>
    (OwnedEncapsulatedInterfaceResponse.fromPdu pdu).map encapsulatedInterface
  | .custom fc => .ok (custom fc (pdu.drop 1))

def fromPdu (pdu : List UInt8) : Except DecodeError OwnedResponsePdu := do
  rejectIf (pdu = []) (.truncated 1 0)
  let fcByte := pdu[0]!
  if FunctionCode.isExceptionResponse fcByte then
    let resp ← ExceptionResponse.decode fcByte (pdu.drop 1)
    return .exception resp
  -- a byte without a function code, which is zero, is taken as a custom one
  let fc := (FunctionCode.fromRaw fcByte).getD (.custom fcByte)
  fromBody fc pdu

/-- `function_code()`: the first byte the response stands for. -/
def functionCodeByte : OwnedResponsePdu → UInt8
  | .exception r => r.functionCode.exceptionCode
  | r => r.functionCode.code

end OwnedResponsePdu

/-! ## Agreement with the borrowed decoder -/

/-- Cutting a decoded value's payload out again changes nothing if it is the same payload. -/
theorem bind_pure_eq_self {ε α : Type} {x : Except ε α} {f : α → α}
    (h : ∀ a, x = .ok a → f a = a) : (x >>= fun a => pure (f a)) = x := by
  cases x with
  | error e => rfl
  | ok a => exact congrArg Except.ok (h a rfl)

theorem sliceOf_append (header payload : List UInt8) :
    sliceOf header.length (header.length + payload.length) (header ++ payload) = payload := by
  rw [sliceOf, ← List.length_append, List.take_length, List.drop_left]

theorem ownedCounted_cons {chkN : UInt8 → Except DecodeError Unit}
    {chkD : List UInt8 → Except DecodeError Unit} (b : UInt8) (data : List UInt8) :
    ownedCounted (CountedData.decode chkN chkD) (b :: data) = CountedData.decode chkN chkD data := by
  refine bind_pure_eq_self fun r hr => ?_
  have hdata : data = r.body := (CountedData.decode_eq_ok.mp hr).1
  rw [hdata]
  exact congrArg (CountedData.mk _) (sliceOf_append [b, r.byteCount] r.data)

/-- The count is checked as the borrowed decoder does it. -/
theorem ownedPlain_cons (b : UInt8) (data : List UInt8) :
    ownedPlain (b :: data) = decodeBits data := by
  cases data with
  | nil => rfl
  | cons n payload =>
    let count := rejectIf (payload.length ≠ n.toNat)
      (DecodeError.byteCountMismatch n.toNat payload.length)
    show (count >>= fun _ => pure (CountedData.mk n (sliceOf 2 (2 + n.toNat) (b :: n :: payload)))) =
      (count >>= fun _ => pure (CountedData.mk n payload))
    by_cases hlen : payload.length = n.toNat
    · have hslice := sliceOf_append [b, n] payload
      rw [hlen] at hslice
      exact bind_congr fun _ => congrArg (fun d => pure (CountedData.mk n d)) hslice
    · rw [show count = _ from rejectIf_pos hlen _]
      rfl

theorem ownedReadFifoQueue_cons (b : UInt8) (data : List UInt8) :
    OwnedReadFifoQueueResponse.fromPdu (b :: data) = ReadFifoQueueResponse.decode data := by
  refine bind_pure_eq_self fun r hr => ?_
  have hdata : data = r.body := (ReadFifoQueueResponse.decode_eq_ok.mp hr).1
  rw [hdata]
  exact congrArg (ReadFifoQueueResponse.mk _ _) (sliceOf_append
    (b :: (toBeBytes r.byteCount ++ toBeBytes r.fifoCount)) r.fifoValues)

theorem ownedGetCommEventLog_cons (b : UInt8) (data : List UInt8) :
    OwnedGetCommEventLogResponse.fromPdu (b :: data) = GetCommEventLogResponse.decode data := by
  refine bind_pure_eq_self fun r hr => ?_
  have hdata : data = r.body := (GetCommEventLogResponse.decode_eq_ok.mp hr).1
  rw [hdata]
  exact congrArg (GetCommEventLogResponse.mk _ _ _ _) (sliceOf_append (b :: r.byteCount ::
    (toBeBytes r.status ++ toBeBytes r.eventCount ++ toBeBytes r.messageCount)) r.events)

theorem ownedEncapsulatedInterface_cons (b : UInt8) (data : List UInt8) :
    OwnedEncapsulatedInterfaceResponse.fromPdu (b :: data)
      = EncapsulatedInterfaceResponse.decode data := by
  refine bind_pure_eq_self fun r hr => ?_
  obtain ⟨hdata, -⟩ := EncapsulatedInterface.decode_eq_ok.mp hr
  exact congrArg (EncapsulatedInterface.mk _) (congrArg (List.drop 1) hdata)

theorem ownedDiagnostics_cons (b : UInt8) (data : List UInt8) :
    OwnedDiagnosticsResponse.fromPdu (b :: data) = DiagnosticsMessage.decode data := by
  have hcheck : rejectIf ((data.drop 2).length % 2 ≠ 0)
      (.invalidDiagnosticDataLength (data.drop 2).length)
      = DecodeError.checkDiagnosticDataLen (data.drop 2) := by
    rw [rejectIf, DecodeError.checkDiagnosticDataLen, ite_not]
  unfold DiagnosticsMessage.decode
  dsimp only
  rw [← hcheck]
  rfl

theorem OwnedResponsePdu.fromBody_cons (fc : FunctionCode) (b : UInt8) (data : List UInt8) :
    fromBody fc (b :: data) = ResponsePdu.decodeBody fc data := by
  cases fc with
  | readCoils | readDiscreteInputs | reportServerId =>
    exact congrArg (Except.map _) (ownedPlain_cons b data)
  | readHoldingRegisters | readInputRegisters | readWriteMultipleRegisters | readFileRecord
  | writeFileRecord => exact congrArg (Except.map _) (ownedCounted_cons b data)
  | diagnostics => exact congrArg (Except.map _) (ownedDiagnostics_cons b data)
  | getCommEventLog => exact congrArg (Except.map _) (ownedGetCommEventLog_cons b data)
  | readFifoQueue => exact congrArg (Except.map _) (ownedReadFifoQueue_cons b data)
  | encapsulatedInterfaceTransport =>
    exact congrArg (Except.map _) (ownedEncapsulatedInterface_cons b data)
  | _ => rfl

/-- On a byte string that fits a PDU and does not start with zero, both parsers agree, in
the errors too. -/
theorem OwnedResponsePdu.fromPdu_eq_decodeResponse {b : UInt8} {data : List UInt8} (hb : b ≠ 0)
    (hlen : (b :: data).length ≤ maxPduSize) :
    fromPdu (b :: data) = decodeResponse (b :: data) := by
  have href : decodePduRef (b :: data) = .ok ⟨b, data⟩ := decodePduRef_eq_ok.mpr ⟨rfl, hlen⟩
  rw [decodeResponse, href]
  show (if FunctionCode.isExceptionResponse b then _ else _) =
    if FunctionCode.isExceptionResponse b then _ else _
  by_cases hexc : FunctionCode.isExceptionResponse b
  · rw [if_pos hexc, if_pos hexc]
    show (ExceptionResponse.decode b data >>= fun resp => pure (ResponsePdu.exception resp)) =
      (ExceptionResponse.decode b data).map ResponsePdu.exception
    cases ExceptionResponse.decode b data <;> rfl
  · have htop : b &&& 0x80 = 0 :=
      Decidable.not_not.mp fun h => hexc (FunctionCode.isExceptionResponse_eq_true.mpr h)
    have hfc := FunctionCode.fromRaw_eq_some.mpr ⟨hb, htop, rfl⟩
    rw [if_neg hexc, if_neg hexc]
    show fromBody ((FunctionCode.fromRaw b).getD (.custom b)) (b :: data) = _
    rw [hfc]
    exact fromBody_cons _ b data

/-- The first byte of a valid response is not zero. -/
theorem ResponsePdu.exists_wire_eq_cons {r : ResponsePdu} (hv : r.Valid) :
    ∃ b data, r.wire = b :: data ∧ b ≠ 0 := by
  by_cases hexc : r.IsException
  · cases r with
    | exception r =>
      refine ⟨_, _, rfl, fun h0 => (FunctionCode.exception_bits r.functionCode.code).1 ?_⟩
      rw [FunctionCode.exceptionCode] at h0
      rw [h0]
      rfl
    | _ => exact absurd hexc id
  · exact ⟨_, _, wire_of_not_isException hexc, (FunctionCode.fromRaw_eq_some.mp (fromRaw_code hv)).1⟩

/-- A client reads a valid response from its wire form. -/
theorem OwnedResponsePdu.fromPdu_wire {r : ResponsePdu} (hv : r.Valid)
    (hlen : r.wire.length ≤ maxPduSize) : fromPdu r.wire = .ok r := by
  have hdecode := decodeResponse_eq_ok.mpr ⟨rfl, hv, hlen⟩
  obtain ⟨b, data, hwire, hb⟩ := ResponsePdu.exists_wire_eq_cons hv
  rw [hwire] at hdecode hlen ⊢
  rw [fromPdu_eq_decodeResponse hb hlen, hdecode]

/-! ## Where the parsers differ -/

/-- Both parsers give one result, the same error included, and an accepted response names the
byte it was dispatched on. -/
def OwnedResponsePdu.Agrees (pdu : List UInt8) : Prop :=
  fromPdu pdu = decodeResponse pdu ∧
    ∀ r, fromPdu pdu = .ok r → pdu.head? = some r.functionCodeByte

section NoFunctionCode

variable {b : UInt8} (hexc : ¬ FunctionCode.isExceptionResponse b)
  (hraw : FunctionCode.fromRaw b = none)
include hexc hraw

/-- A byte for which `from_raw` has no function code is taken as a custom one … -/
theorem OwnedResponsePdu.fromPdu_of_fromRaw_eq_none (data : List UInt8) :
    fromPdu (b :: data) = .ok (.custom b data) := by
  show (if FunctionCode.isExceptionResponse b then _ else
    fromBody ((FunctionCode.fromRaw b).getD (.custom b)) (b :: data)) = _
  rw [if_neg hexc, hraw]
  rfl

/-- … where the borrowed parser refuses it. -/
theorem decodeResponse_of_fromRaw_eq_none {data : List UInt8}
    (hlen : (b :: data).length ≤ maxPduSize) :
    decodeResponse (b :: data) = .error (.unknownFunctionCode b) := by
  have href : decodePduRef (b :: data) = .ok ⟨b, data⟩ := decodePduRef_eq_ok.mpr ⟨rfl, hlen⟩
  rw [decodeResponse, href]
  show (if FunctionCode.isExceptionResponse b then _ else
    okOr (FunctionCode.fromRaw b) (DecodeError.unknownFunctionCode b) >>= _) = _
  rw [if_neg hexc, hraw]
  rfl

end NoFunctionCode

/-- The byte a response names is the one it was parsed from. -/
theorem OwnedResponsePdu.head?_of_fromPdu {pdu : List UInt8} {r : OwnedResponsePdu}
    (h : fromPdu pdu = .ok r) : pdu.head? = some r.functionCodeByte := by
  cases pdu with
  | nil => cases h
  | cons b data =>
    have hstep : fromPdu (b :: data) = if FunctionCode.isExceptionResponse b then
        ExceptionResponse.decode b data >>= fun resp => pure (ResponsePdu.exception resp)
      else fromBody ((FunctionCode.fromRaw b).getD (.custom b)) (b :: data) := rfl
    by_cases hexc : FunctionCode.isExceptionResponse b
    · rw [hstep, if_pos hexc] at h
      obtain ⟨e, he, heq⟩ := bind_eq_ok.mp h
      cases heq
      have hwire := ((ExceptionResponse.decode_eq_ok
        (FunctionCode.isExceptionResponse_eq_true.mp hexc)).mp he).1
      exact congrArg List.head? hwire
    · cases hraw : FunctionCode.fromRaw b with
      | none =>
        rw [fromPdu_of_fromRaw_eq_none hexc hraw] at h
        cases h
        rfl
      | some fc =>
        rw [hstep, if_neg hexc, hraw] at h
        have hcode : fc.code = b := by
          obtain ⟨-, -, rfl⟩ := FunctionCode.fromRaw_eq_some.mp hraw
          exact FunctionCode.code_fromByte b
        obtain ⟨hne, hfc, -⟩ := (ResponsePdu.decodeBody_eq_ok (hcode ▸ hraw)).mp
          ((fromBody_cons fc b data).symm.trans h)
        rw [← hcode, ← hfc]
        cases r with
        | exception e => exact absurd trivial hne
        | _ => rfl

/-- A response with a function code is read from its own wire form and from nothing else. -/
theorem OwnedResponsePdu.fromPdu_eq_ok {pdu : List UInt8} {r : OwnedResponsePdu}
    (hlen : pdu.length ≤ maxPduSize) (hr : r.functionCodeByte ≠ 0) :
    fromPdu pdu = .ok r ↔ pdu = r.wire ∧ r.Valid := by
  constructor
  · intro h
    have hhead := head?_of_fromPdu h
    cases pdu with
    | nil => cases hhead
    | cons b data =>
      have hb : b ≠ 0 := fun h0 => hr ((Option.some.inj hhead).symm.trans h0)
      rw [fromPdu_eq_decodeResponse hb hlen] at h
      obtain ⟨hwire, hvalid, -⟩ := decodeResponse_eq_ok.mp h
      exact ⟨hwire, hvalid⟩
  · rintro ⟨rfl, hvalid⟩
    exact fromPdu_wire hvalid hlen

/-- The parsers agree on every PDU but those that start with zero. -/
theorem OwnedResponsePdu.fromPdu_agrees_iff (pdu : List UInt8) (hlen : pdu.length ≤ 253) :
    Agrees pdu ↔ pdu.head? ≠ some 0 := by
  cases pdu with
  | nil =>
    refine ⟨fun _ => nofun, fun _ => ⟨rfl, ?_⟩⟩
    intro r hr
    cases hr
  | cons b data =>
    constructor
    · rintro ⟨heq, -⟩ hzero
      obtain rfl : b = 0 := Option.some.inj hzero
      rw [fromPdu_of_fromRaw_eq_none (by decide) rfl,
        decodeResponse_of_fromRaw_eq_none (by decide) rfl hlen] at heq
      cases heq
    · intro hb
      have heq : fromPdu (b :: data) = decodeResponse (b :: data) :=
        fromPdu_eq_decodeResponse (fun h => hb (congrArg some h)) hlen
      exact ⟨heq, fun r hr => head?_of_fromPdu hr⟩

theorem OwnedResponsePdu.fromPdu_agrees_iff_readCoils :
    [0x01, 0x01, 0x05].length ≤ 253 ∧ (Agrees [0x01, 0x01, 0x05] ↔ some (0x01 : UInt8) ≠ some 0) :=
  ⟨by decide, fromPdu_agrees_iff [0x01, 0x01, 0x05] (by decide)⟩

theorem OwnedResponsePdu.not_agrees_zero :
    fromPdu [0x00] = .ok (.custom 0x00 []) ∧
      decodeResponse [0x00] = .error (.unknownFunctionCode 0x00) :=
  ⟨rfl, rfl⟩

end RustyModbus
