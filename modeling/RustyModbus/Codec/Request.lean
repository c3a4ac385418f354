import RustyModbus.Codec.FileRecord

/-!
# Request messages

The request types of `rusty-modbus-codec`, each with its decoder, its encoder and
the two facts later proofs use. `body` is the format: the bytes behind the function
code that a value stands for. `Valid` is what the decoder demands of the fields. The
decoder lemma says that `decode` is the inverse of `body` on the valid values and
accepts nothing else; the encoder lemma says that `encodeInto` emits the function
code and `body` exactly for the valid values that fit a PDU, and otherwise fails
without touching the buffer.

Types that the source writes out once per function code with different constants
(the four reads, the two multiple writes) are one structure here.
-/

namespace RustyModbus

open Wire Encoder EncodeError

/-- The encoder of a message of fixed length has nothing to refuse. -/
theorem emits_fixed {m : Encoder EncodeError Nat} {len : Nat} {wire : List UInt8}
    (hm : Writes m len [] wire) (hlen : Nat.ble len maxPduSize := by rfl) :
    Emits (do reserve len (.bufferTooSmall len); check (checkPduLen len); m) len True wire :=
  .congr (.of_reserve <| .check checkPduLen_eq_ok fun _ => .of_writes hm)
    (iff_true_intro ⟨Nat.le_of_ble_eq_true hlen, trivial⟩)

/-! ## FC 0x01–0x04: reads of bits and registers -/

/-- A run of coils, inputs or registers. The four read requests have these fields, and so
have the responses to the two multiple writes. -/
structure AddressRange where
  address : Address
  quantity : Quantity
deriving DecidableEq, Repr

namespace AddressRange

def decode (maxQuantity : UInt16) (data : List UInt8) : Except DecodeError AddressRange := do
  DecodeError.checkExactLen data 4
  let address := wordAt data 0
  let quantity := wordAt data 2
  rejectIf (quantity = 0 ∨ quantity > maxQuantity) (.quantityOutOfRange quantity)
  return { address, quantity }

def encodedLen (_ : AddressRange) : Nat := 5

def encodeInto (fc : FunctionCode) (maxQuantity : UInt16) (r : AddressRange) :
    Encoder EncodeError Nat := do
  let len := r.encodedLen
  reserve len (.bufferTooSmall len)
  check (EncodeError.checkQuantity r.quantity maxQuantity)
  check (EncodeError.checkPduLen len)
  put 0 [fc.code]
  put 1 (toBeBytes r.address)
  put 3 (toBeBytes r.quantity)
  return len

def body (r : AddressRange) : List UInt8 := toBeBytes r.address ++ toBeBytes r.quantity

theorem decode_eq_ok {max : UInt16} {data : List UInt8} {r : AddressRange} :
    decode max data = .ok r ↔ data = r.body ∧ InRange r.quantity max := by
  simp only [decode, check_bind_eq_ok, DecodeError.checkExactLen_eq_ok, rejectIf_eq_ok, pure_eq_ok]
  constructor
  · rintro ⟨hlen, hq, rfl⟩
    refine ⟨?_, hq⟩
    rw [body, word_eq_drop hlen, word_append_drop (by omega), List.drop_zero]
  · rintro ⟨rfl, hq⟩
    have ha : wordAt r.body 0 = r.address := fromBeBytes_shift _
    have hq' : wordAt r.body 2 = r.quantity := fromBeBytes_shift _
    rw [ha, hq']
    exact ⟨rfl, hq, rfl⟩

theorem encodeInto_emits (fc : FunctionCode) (max : UInt16) (r : AddressRange) :
    Emits (r.encodeInto fc max) r.encodedLen (InRange r.quantity max) (fc.code :: r.body) := by
  refine .congr (.of_reserve <| .check checkQuantity_eq_ok fun _ =>
    .check checkPduLen_eq_ok fun _ => .of_writes <| .put <| .put <| .put <| .ret) ?_
  simp [maxPduSize, encodedLen]

end AddressRange

abbrev ReadCoilsRequest := AddressRange
abbrev ReadDiscreteInputsRequest := AddressRange
abbrev ReadHoldingRegistersRequest := AddressRange
abbrev ReadInputRegistersRequest := AddressRange

abbrev ReadCoilsRequest.decode := AddressRange.decode 2000
abbrev ReadDiscreteInputsRequest.decode := AddressRange.decode 2000
abbrev ReadHoldingRegistersRequest.decode := AddressRange.decode 125
abbrev ReadInputRegistersRequest.decode := AddressRange.decode 125

abbrev ReadCoilsRequest.encodeInto := AddressRange.encodeInto .readCoils 2000
abbrev ReadDiscreteInputsRequest.encodeInto := AddressRange.encodeInto .readDiscreteInputs 2000
abbrev ReadHoldingRegistersRequest.encodeInto :=
  AddressRange.encodeInto .readHoldingRegisters 125
abbrev ReadInputRegistersRequest.encodeInto := AddressRange.encodeInto .readInputRegisters 125

/-! ## FC 0x05, 0x06 and 0x16: single writes

The response to one of these echoes the request, so both directions share a type. -/

structure WriteSingleCoil where
  address : Address
  value : CoilValue
deriving DecidableEq, Repr

namespace WriteSingleCoil

def decode (data : List UInt8) : Except DecodeError WriteSingleCoil := do
  DecodeError.checkExactLen data 4
  let address := wordAt data 0
  let rawValue := wordAt data 2
  let value ← okOr (CoilValue.fromWire rawValue) (.invalidCoilValue rawValue)
  return { address, value }

def encodedLen (_ : WriteSingleCoil) : Nat := 5

def encodeInto (r : WriteSingleCoil) : Encoder EncodeError Nat := do
  let len := r.encodedLen
  reserve len (.bufferTooSmall len)
  check (EncodeError.checkPduLen len)
  put 0 [FunctionCode.writeSingleCoil.code]
  put 1 (toBeBytes r.address)
  put 3 (toBeBytes r.value.toWire)
  return len

def body (r : WriteSingleCoil) : List UInt8 := toBeBytes r.address ++ toBeBytes r.value.toWire

theorem decode_eq_ok {data : List UInt8} {r : WriteSingleCoil} :
    decode data = .ok r ↔ data = r.body := by
  simp only [decode, check_bind_eq_ok, DecodeError.checkExactLen_eq_ok, okOr_bind_eq_ok,
    CoilValue.fromWire_eq_some, pure_eq_ok]
  constructor
  · rintro ⟨hlen, v, hv, rfl⟩
    rw [body, ← hv, word_eq_drop hlen, word_append_drop (by omega), List.drop_zero]
  · rintro rfl
    exact ⟨rfl, r.value, fromBeBytes_shift _, congrArg (mk · r.value) (fromBeBytes_shift _)⟩

theorem encodeInto_emits (r : WriteSingleCoil) :
    Emits r.encodeInto r.encodedLen True (FunctionCode.writeSingleCoil.code :: r.body) :=
  emits_fixed <| .put <| .put <| .put <| .ret

end WriteSingleCoil

structure WriteSingleRegister where
  address : Address
  value : UInt16
deriving DecidableEq, Repr

namespace WriteSingleRegister

def decode (data : List UInt8) : Except DecodeError WriteSingleRegister := do
  DecodeError.checkExactLen data 4
  let address := wordAt data 0
  let value := wordAt data 2
  return { address, value }

def encodedLen (_ : WriteSingleRegister) : Nat := 5

def encodeInto (r : WriteSingleRegister) : Encoder EncodeError Nat := do
  let len := r.encodedLen
  reserve len (.bufferTooSmall len)
  check (EncodeError.checkPduLen len)
  put 0 [FunctionCode.writeSingleRegister.code]
  put 1 (toBeBytes r.address)
  put 3 (toBeBytes r.value)
  return len

def body (r : WriteSingleRegister) : List UInt8 := toBeBytes r.address ++ toBeBytes r.value

theorem decode_eq_ok {data : List UInt8} {r : WriteSingleRegister} :
    decode data = .ok r ↔ data = r.body := by
  simp only [decode, check_bind_eq_ok, DecodeError.checkExactLen_eq_ok, pure_eq_ok]
  constructor
  · rintro ⟨hlen, rfl⟩
    rw [body, word_eq_drop hlen, word_append_drop (by omega), List.drop_zero]
  · rintro rfl
    exact ⟨rfl, congr (congrArg mk (fromBeBytes_shift _)) (fromBeBytes_shift _)⟩

theorem encodeInto_emits (r : WriteSingleRegister) :
    Emits r.encodeInto r.encodedLen True (FunctionCode.writeSingleRegister.code :: r.body) :=
  emits_fixed <| .put <| .put <| .put <| .ret

end WriteSingleRegister

structure MaskWriteRegister where
  address : Address
  andMask : UInt16
  orMask : UInt16
deriving DecidableEq, Repr

namespace MaskWriteRegister

def decode (data : List UInt8) : Except DecodeError MaskWriteRegister := do
  DecodeError.checkExactLen data 6
  let address := wordAt data 0
  let andMask := wordAt data 2
  let orMask := wordAt data 4
  return { address, andMask, orMask }

def encodedLen (_ : MaskWriteRegister) : Nat := 7

def encodeInto (r : MaskWriteRegister) : Encoder EncodeError Nat := do
  let len := r.encodedLen
  reserve len (.bufferTooSmall len)
  check (EncodeError.checkPduLen len)
  put 0 [FunctionCode.maskWriteRegister.code]
  put 1 (toBeBytes r.address)
  put 3 (toBeBytes r.andMask)
  put 5 (toBeBytes r.orMask)
  return len

def body (r : MaskWriteRegister) : List UInt8 :=
  toBeBytes r.address ++ toBeBytes r.andMask ++ toBeBytes r.orMask

theorem decode_eq_ok {data : List UInt8} {r : MaskWriteRegister} :
    decode data = .ok r ↔ data = r.body := by
  simp only [decode, check_bind_eq_ok, DecodeError.checkExactLen_eq_ok, pure_eq_ok]
  constructor
  · rintro ⟨hlen, rfl⟩
    rw [body, List.append_assoc, word_eq_drop hlen, word_append_drop (by omega),
      word_append_drop (by omega), List.drop_zero]
  · rintro rfl
    exact ⟨rfl, congr (congr (congrArg mk (fromBeBytes_shift _)) (fromBeBytes_shift _))
      (fromBeBytes_shift _)⟩

theorem encodeInto_emits (r : MaskWriteRegister) :
    Emits r.encodeInto r.encodedLen True (FunctionCode.maskWriteRegister.code :: r.body) :=
  emits_fixed <| .put <| .put <| .put <| .put <| .ret

end MaskWriteRegister

abbrev WriteSingleCoilRequest := WriteSingleCoil
abbrev WriteSingleRegisterRequest := WriteSingleRegister
abbrev MaskWriteRegisterRequest := MaskWriteRegister

/-! ## FC 0x0F, 0x10 and 0x17: multiple writes -/

/-- `values` are the packed coils or the big-endian registers. -/
structure WriteMultipleRequest where
  address : Address
  quantity : Quantity
  byteCount : UInt8
  values : List UInt8
deriving DecidableEq, Repr

namespace WriteMultipleRequest

/-- `expected quantity` is the number of payload bytes the quantity calls for. -/
def decode (maxQuantity : UInt16) (expected : UInt16 → Nat) (data : List UInt8) :
    Except DecodeError WriteMultipleRequest := do
  rejectIf (data.length < 5) (.truncated 5 data.length)
  let address := wordAt data 0
  let quantity := wordAt data 2
  rejectIf (quantity = 0 ∨ quantity > maxQuantity) (.quantityOutOfRange quantity)
  let byteCount := data[4]!
  let expectedBytes := expected quantity
  rejectIf (byteCount.toNat ≠ expectedBytes) (.byteCountMismatch byteCount.toNat expectedBytes)
  let remaining := data.length - 5
  rejectIf (byteCount.toNat ≠ remaining) (.byteCountMismatch byteCount.toNat remaining)
  return { address, quantity, byteCount, values := data.drop 5 }

def encodedLen (r : WriteMultipleRequest) : Nat := 6 + r.values.length

def encodeInto (fc : FunctionCode) (maxQuantity : UInt16) (expected : UInt16 → Nat)
    (r : WriteMultipleRequest) : Encoder EncodeError Nat := do
  let len := r.encodedLen
  reserve len (.bufferTooSmall len)
  check (EncodeError.checkQuantity r.quantity maxQuantity)
  let expectedBytes := expected r.quantity
  check (EncodeError.checkByteCount r.byteCount.toNat expectedBytes)
  check (EncodeError.checkByteCount expectedBytes r.values.length)
  check (EncodeError.checkPduLen len)
  put 0 [fc.code]
  put 1 (toBeBytes r.address)
  put 3 (toBeBytes r.quantity)
  put 5 [r.byteCount]
  put 6 r.values
  return len

def body (r : WriteMultipleRequest) : List UInt8 :=
  toBeBytes r.address ++ toBeBytes r.quantity ++ r.byteCount :: r.values

def Valid (max : UInt16) (expected : UInt16 → Nat) (r : WriteMultipleRequest) : Prop :=
  InRange r.quantity max ∧ r.byteCount.toNat = expected r.quantity ∧
    r.byteCount.toNat = r.values.length

theorem decode_eq_ok {max : UInt16} {expected : UInt16 → Nat} {data : List UInt8}
    {r : WriteMultipleRequest} :
    decode max expected data = .ok r ↔ data = r.body ∧ r.Valid max expected := by
  simp only [decode, check_bind_eq_ok, rejectIf_eq_ok, Decidable.not_not, pure_eq_ok, Nat.not_lt]
  constructor
  · rintro ⟨hlen, hq, hexp, hrem, rfl⟩
    refine ⟨?_, hq, hexp, by rw [List.length_drop]; exact hrem⟩
    rw [body, List.append_assoc, byte_cons_drop (by omega), word_append_drop (by omega),
      word_append_drop (by omega), List.drop_zero]
  · rintro ⟨rfl, hq, hexp, hrem⟩
    have ha : wordAt r.body 0 = r.address := fromBeBytes_shift _
    have hq' : wordAt r.body 2 = r.quantity := fromBeBytes_shift _
    have hlen : r.body.length = r.values.length + 5 := rfl
    rw [ha, hq', hlen]
    exact ⟨by omega, hq, hexp, hrem, rfl⟩

theorem encodeInto_emits (fc : FunctionCode) (max : UInt16) (expected : UInt16 → Nat)
    (r : WriteMultipleRequest) :
    Emits (r.encodeInto fc max expected) r.encodedLen
      (r.Valid max expected ∧ (fc.code :: r.body).length ≤ maxPduSize) (fc.code :: r.body) := by
  have hlen : (fc.code :: r.body).length = r.encodedLen := Nat.add_comm r.values.length 6
  refine .congr (.of_reserve <| .check checkQuantity_eq_ok fun _ =>
    .check checkByteCount_eq_ok fun _ => .check checkByteCount_eq_ok fun _ =>
    .check checkPduLen_eq_ok fun _ =>
    .of_writes <| .put <| .put <| .put <| .put <| .put <| .ret hlen) ?_
  rw [hlen, Valid]
  constructor
  · rintro ⟨hq, hexp, hrem, hmax, -⟩
    exact ⟨⟨hq, hexp, hexp.trans hrem⟩, hmax⟩
  · rintro ⟨⟨hq, hexp, hrem⟩, hmax⟩
    exact ⟨hq, hexp, hexp.symm.trans hrem, hmax, trivial⟩

end WriteMultipleRequest

/-- Eight coils a byte: `quantity.div_ceil(8)`. -/
def coilBytes (quantity : UInt16) : Nat := (quantity.toNat + 7) / 8

/-- Two bytes a register. -/
def registerBytes (quantity : UInt16) : Nat := quantity.toNat * 2

abbrev WriteMultipleCoilsRequest := WriteMultipleRequest
abbrev WriteMultipleRegistersRequest := WriteMultipleRequest

abbrev WriteMultipleCoilsRequest.decode := WriteMultipleRequest.decode 1968 coilBytes
abbrev WriteMultipleRegistersRequest.decode := WriteMultipleRequest.decode 123 registerBytes

abbrev WriteMultipleCoilsRequest.encodeInto :=
  WriteMultipleRequest.encodeInto .writeMultipleCoils 1968 coilBytes
abbrev WriteMultipleRegistersRequest.encodeInto :=
  WriteMultipleRequest.encodeInto .writeMultipleRegisters 123 registerBytes

structure ReadWriteMultipleRegistersRequest where
  readAddress : Address
  readQuantity : Quantity
  writeAddress : Address
  writeQuantity : Quantity
  writeByteCount : UInt8
  writeRegisterValues : List UInt8
deriving DecidableEq, Repr

namespace ReadWriteMultipleRegistersRequest

def maxReadQuantity : UInt16 := 125
def maxWriteQuantity : UInt16 := 121

def decode (data : List UInt8) : Except DecodeError ReadWriteMultipleRegistersRequest := do
  rejectIf (data.length < 9) (.truncated 9 data.length)
  let readAddress := wordAt data 0
  let readQuantity := wordAt data 2
  rejectIf (readQuantity = 0 ∨ readQuantity > maxReadQuantity) (.quantityOutOfRange readQuantity)
  let writeAddress := wordAt data 4
  let writeQuantity := wordAt data 6
  rejectIf (writeQuantity = 0 ∨ writeQuantity > maxWriteQuantity)
    (.quantityOutOfRange writeQuantity)
  let writeByteCount := data[8]!
  rejectIf (writeByteCount.toNat ≠ writeQuantity.toNat * 2)
    (.byteCountMismatch writeByteCount.toNat (writeQuantity.toNat * 2))
  let remaining := data.length - 9
  rejectIf (writeByteCount.toNat ≠ remaining)
    (.byteCountMismatch writeByteCount.toNat remaining)
  return { readAddress, readQuantity, writeAddress, writeQuantity, writeByteCount,
           writeRegisterValues := data.drop 9 }

def encodedLen (r : ReadWriteMultipleRegistersRequest) : Nat :=
  10 + r.writeRegisterValues.length

def encodeInto (r : ReadWriteMultipleRegistersRequest) : Encoder EncodeError Nat := do
  let len := r.encodedLen
  reserve len (.bufferTooSmall len)
  check (EncodeError.checkQuantity r.readQuantity maxReadQuantity)
  check (EncodeError.checkQuantity r.writeQuantity maxWriteQuantity)
  let expectedBytes := r.writeQuantity.toNat * 2
  check (EncodeError.checkByteCount r.writeByteCount.toNat expectedBytes)
  check (EncodeError.checkByteCount expectedBytes r.writeRegisterValues.length)
  check (EncodeError.checkPduLen len)
  put 0 [FunctionCode.readWriteMultipleRegisters.code]
  put 1 (toBeBytes r.readAddress)
  put 3 (toBeBytes r.readQuantity)
  put 5 (toBeBytes r.writeAddress)
  put 7 (toBeBytes r.writeQuantity)
  put 9 [r.writeByteCount]
  put 10 r.writeRegisterValues
  return len

def body (r : ReadWriteMultipleRegistersRequest) : List UInt8 :=
  toBeBytes r.readAddress ++ toBeBytes r.readQuantity ++ toBeBytes r.writeAddress ++
    toBeBytes r.writeQuantity ++ r.writeByteCount :: r.writeRegisterValues

def Valid (r : ReadWriteMultipleRegistersRequest) : Prop :=
  InRange r.readQuantity maxReadQuantity ∧ InRange r.writeQuantity maxWriteQuantity ∧
    r.writeByteCount.toNat = r.writeQuantity.toNat * 2 ∧
    r.writeByteCount.toNat = r.writeRegisterValues.length

theorem decode_eq_ok {data : List UInt8} {r : ReadWriteMultipleRegistersRequest} :
    decode data = .ok r ↔ data = r.body ∧ r.Valid := by
  simp only [decode, check_bind_eq_ok, rejectIf_eq_ok, Decidable.not_not, pure_eq_ok, Nat.not_lt]
  constructor
  · rintro ⟨hlen, hrq, hwq, hexp, hrem, rfl⟩
    refine ⟨?_, hrq, hwq, hexp, by rw [List.length_drop]; exact hrem⟩
    simp only [body, List.append_assoc]
    rw [byte_cons_drop (by omega), word_append_drop (by omega), word_append_drop (by omega),
      word_append_drop (by omega), word_append_drop (by omega), List.drop_zero]
  · rintro ⟨rfl, hrq, hwq, hexp, hrem⟩
    have hra : wordAt r.body 0 = r.readAddress := fromBeBytes_shift _
    have hrq' : wordAt r.body 2 = r.readQuantity := fromBeBytes_shift _
    have hwa : wordAt r.body 4 = r.writeAddress := fromBeBytes_shift _
    have hwq' : wordAt r.body 6 = r.writeQuantity := fromBeBytes_shift _
    have hlen : r.body.length = r.writeRegisterValues.length + 9 := rfl
    rw [hra, hrq', hwa, hwq', hlen]
    exact ⟨by omega, hrq, hwq, hexp, hrem, rfl⟩

theorem encodeInto_emits (r : ReadWriteMultipleRegistersRequest) :
    Emits r.encodeInto r.encodedLen
      (r.Valid ∧
        (FunctionCode.readWriteMultipleRegisters.code :: r.body).length ≤ maxPduSize)
      (FunctionCode.readWriteMultipleRegisters.code :: r.body) := by
  have hlen : (FunctionCode.readWriteMultipleRegisters.code :: r.body).length = r.encodedLen :=
    Nat.add_comm r.writeRegisterValues.length 10
  refine .congr (.of_reserve <| .check checkQuantity_eq_ok fun _ =>
    .check checkQuantity_eq_ok fun _ => .check checkByteCount_eq_ok fun _ =>
    .check checkByteCount_eq_ok fun _ => .check checkPduLen_eq_ok fun _ =>
    .of_writes <| .put <| .put <| .put <| .put <| .put <| .put <| .put <| .ret hlen) ?_
  rw [hlen, Valid]
  constructor
  · rintro ⟨hrq, hwq, hexp, hrem, hmax, -⟩
    exact ⟨⟨hrq, hwq, hexp, hexp.trans hrem⟩, hmax⟩
  · rintro ⟨⟨hrq, hwq, hexp, hrem⟩, hmax⟩
    exact ⟨hrq, hwq, hexp, hexp.symm.trans hrem, hmax, trivial⟩

end ReadWriteMultipleRegistersRequest

/-! ## FC 0x18, 0x08 and 0x2B -/

structure ReadFifoQueueRequest where
  fifoPointerAddress : Address
deriving DecidableEq, Repr

namespace ReadFifoQueueRequest

def decode (data : List UInt8) : Except DecodeError ReadFifoQueueRequest := do
  DecodeError.checkExactLen data 2
  let fifoPointerAddress := wordAt data 0
  return { fifoPointerAddress }

def encodedLen (_ : ReadFifoQueueRequest) : Nat := 3

def encodeInto (r : ReadFifoQueueRequest) : Encoder EncodeError Nat := do
  let len := r.encodedLen
  reserve len (.bufferTooSmall len)
  check (EncodeError.checkPduLen len)
  put 0 [FunctionCode.readFifoQueue.code]
  put 1 (toBeBytes r.fifoPointerAddress)
  return len

def body (r : ReadFifoQueueRequest) : List UInt8 := toBeBytes r.fifoPointerAddress

theorem decode_eq_ok {data : List UInt8} {r : ReadFifoQueueRequest} :
    decode data = .ok r ↔ data = r.body := by
  simp only [decode, check_bind_eq_ok, DecodeError.checkExactLen_eq_ok, pure_eq_ok]
  constructor
  · rintro ⟨hlen, rfl⟩
    rw [body, word_eq_drop hlen, List.drop_zero]
  · rintro rfl
    exact ⟨rfl, congrArg mk (fromBeBytes_shift _)⟩

theorem encodeInto_emits (r : ReadFifoQueueRequest) :
    Emits r.encodeInto r.encodedLen True (FunctionCode.readFifoQueue.code :: r.body) :=
  emits_fixed <| .put <| .put <| .ret

end ReadFifoQueueRequest

/-- A diagnostics message; the two directions have the same format. -/
structure DiagnosticsMessage where
  subFunction : DiagnosticSubFunction
  data : List UInt8
deriving DecidableEq, Repr

namespace DiagnosticsMessage

def decode (data : List UInt8) : Except DecodeError DiagnosticsMessage := do
  rejectIf (data.length < 2) (.truncated 2 data.length)
  let rawSub := wordAt data 0
  let subFunction ← okOr (DiagnosticSubFunction.fromRaw rawSub)
    (.unknownDiagnosticSubFunction rawSub)
  let payload := data.drop 2
  DecodeError.checkDiagnosticDataLen payload
  return { subFunction, data := payload }

def encodedLen (r : DiagnosticsMessage) : Nat := 3 + r.data.length

def encodeInto (r : DiagnosticsMessage) : Encoder EncodeError Nat := do
  let len := r.encodedLen
  reserve len (.bufferTooSmall len)
  check (EncodeError.checkDiagnosticDataLen r.data)
  check (EncodeError.checkPduLen len)
  put 0 [FunctionCode.diagnostics.code]
  put 1 (toBeBytes r.subFunction.code)
  put 3 r.data
  return len

def body (r : DiagnosticsMessage) : List UInt8 := toBeBytes r.subFunction.code ++ r.data

def Valid (r : DiagnosticsMessage) : Prop := r.data.length % 2 = 0

theorem decode_eq_ok {data : List UInt8} {r : DiagnosticsMessage} :
    decode data = .ok r ↔ data = r.body ∧ r.Valid := by
  simp only [decode, check_bind_eq_ok, rejectIf_eq_ok, okOr_bind_eq_ok,
    DiagnosticSubFunction.fromRaw_eq_some, DecodeError.checkDiagnosticDataLen_eq_ok, pure_eq_ok,
    Nat.not_lt]
  constructor
  · rintro ⟨hlen, sub, hsub, heven, rfl⟩
    refine ⟨?_, heven⟩
    rw [body, ← hsub, word_append_drop (by omega), List.drop_zero]
  · rintro ⟨rfl, heven⟩
    have hlen : r.body.length = r.data.length + 2 := rfl
    exact ⟨by omega, r.subFunction, fromBeBytes_shift _, heven, rfl⟩

theorem encodeInto_emits (r : DiagnosticsMessage) :
    Emits r.encodeInto r.encodedLen
      (r.Valid ∧ (FunctionCode.diagnostics.code :: r.body).length ≤ maxPduSize)
      (FunctionCode.diagnostics.code :: r.body) := by
  have hlen : (FunctionCode.diagnostics.code :: r.body).length = r.encodedLen :=
    Nat.add_comm r.data.length 3
  refine .congr (.of_reserve <| .check checkDiagnosticDataLen_eq_ok fun _ =>
    .check checkPduLen_eq_ok fun _ => .of_writes <| .put <| .put <| .put <| .ret hlen) ?_
  rw [hlen, Valid, and_true]

end DiagnosticsMessage

abbrev DiagnosticsRequest := DiagnosticsMessage

/-- An encapsulated-interface message of either direction. -/
structure EncapsulatedInterface where
  meiType : MeiType
  data : List UInt8
deriving DecidableEq, Repr

namespace EncapsulatedInterface

/-- Both directions look into the payload of a device-identification message, each with
its own `checkIdentification`, and pass any other payload on as it is. -/
def decode (checkIdentification : List UInt8 → Except DecodeError Unit) (data : List UInt8) :
    Except DecodeError EncapsulatedInterface := do
  rejectIf (data = []) (.truncated 1 0)
  let meiType ← okOr (MeiType.fromRaw data[0]!) (.unknownMeiType data[0]!)
  checkWhen (meiType = .readDeviceIdentification) (checkIdentification data)
  return { meiType, data := data.drop 1 }

def encodedLen (r : EncapsulatedInterface) : Nat := 2 + r.data.length

def encodeInto (r : EncapsulatedInterface) : Encoder EncodeError Nat := do
  let len := r.encodedLen
  reserve len (.bufferTooSmall len)
  check (EncodeError.checkPduLen len)
  put 0 [FunctionCode.encapsulatedInterfaceTransport.code]
  put 1 [r.meiType.code]
  put 2 r.data
  return len

def body (r : EncapsulatedInterface) : List UInt8 := r.meiType.code :: r.data

theorem decode_eq_ok {chk : List UInt8 → Except DecodeError Unit} {data : List UInt8}
    {r : EncapsulatedInterface} :
    decode chk data = .ok r ↔
      data = r.body ∧ (r.meiType = .readDeviceIdentification → chk r.body = .ok ()) := by
  simp only [decode, check_bind_eq_ok, rejectIf_eq_ok, okOr_bind_eq_ok, MeiType.fromRaw_eq_some,
    checkWhen_eq_ok, pure_eq_ok]
  constructor
  · rintro ⟨hne, mei, hmei, hchk, rfl⟩
    have hdata : data = mei.code :: data.drop 1 := by
      rw [← hmei, byte_cons_drop (List.length_pos_iff.mpr hne), List.drop_zero]
    exact ⟨hdata, fun h => (congrArg chk hdata).symm.trans (hchk h)⟩
  · rintro ⟨rfl, hchk⟩
    exact ⟨List.cons_ne_nil _ _, r.meiType, rfl, hchk, rfl⟩

/-- Only the check of the identification part can refuse a message's own bytes. -/
theorem decode_body (chk : List UInt8 → Except DecodeError Unit) (r : EncapsulatedInterface) :
    decode chk r.body
      = (checkWhen (r.meiType = .readDeviceIdentification) (chk r.body)).map fun _ => r := by
  obtain ⟨mei, data⟩ := r
  cases mei <;> rfl

theorem decode_body_eq_error {chk : List UInt8 → Except DecodeError Unit}
    {r : EncapsulatedInterface} :
    (r.meiType = .readDeviceIdentification ∧ ∃ e, decode chk r.body = .error e) ↔
      ¬(r.meiType = .readDeviceIdentification → chk r.body = .ok ()) := by
  rw [decode_body, Classical.not_imp]
  refine and_congr_right fun hmei => ?_
  cases h : chk r.body <;> simp [checkWhen, hmei, Except.map]

theorem encodeInto_emits (r : EncapsulatedInterface) :
    Emits r.encodeInto r.encodedLen
      ((FunctionCode.encapsulatedInterfaceTransport.code :: r.body).length ≤ maxPduSize)
      (FunctionCode.encapsulatedInterfaceTransport.code :: r.body) := by
  have hlen : (FunctionCode.encapsulatedInterfaceTransport.code :: r.body).length
      = r.encodedLen := Nat.add_comm r.data.length 2
  refine .congr (.of_reserve <| .check checkPduLen_eq_ok fun _ =>
    .of_writes <| .put <| .put <| .put <| .ret hlen) ?_
  rw [hlen, and_true]

end EncapsulatedInterface

abbrev EncapsulatedInterfaceRequest := EncapsulatedInterface

/-- The device-identification part of a request: a known access code and an object id. -/
def checkIdentificationRequest (data : List UInt8) : Except DecodeError Unit := do
  let payload := data.drop 1
  DecodeError.checkExactLen payload 2
  let _ ← okOr (DeviceIdCode.fromRaw payload[0]!) (.invalidDeviceIdCode payload[0]!)
  return ()

abbrev EncapsulatedInterfaceRequest.decode :=
  EncapsulatedInterface.decode checkIdentificationRequest

structure ReadDeviceIdentificationRequest where
  deviceIdCode : DeviceIdCode
  objectId : UInt8
deriving DecidableEq, Repr

namespace ReadDeviceIdentificationRequest

def decode (data : List UInt8) : Except DecodeError ReadDeviceIdentificationRequest := do
  DecodeError.checkExactLen data 3
  rejectIf (data[0]! ≠ MeiType.readDeviceIdentification.code) (.unknownMeiType data[0]!)
  let deviceIdCode ← okOr (DeviceIdCode.fromRaw data[1]!) (.invalidDeviceIdCode data[1]!)
  let objectId := data[2]!
  return { deviceIdCode, objectId }

def encodedLen (_ : ReadDeviceIdentificationRequest) : Nat := 4

def encodeInto (r : ReadDeviceIdentificationRequest) : Encoder EncodeError Nat := do
  let len := r.encodedLen
  reserve len (.bufferTooSmall len)
  check (EncodeError.checkPduLen len)
  put 0 [FunctionCode.encapsulatedInterfaceTransport.code]
  put 1 [MeiType.readDeviceIdentification.code]
  put 2 [r.deviceIdCode.code]
  put 3 [r.objectId]
  return len

/-- The encapsulated-interface message a typed request is the special case of. -/
def toEncapsulated (r : ReadDeviceIdentificationRequest) : EncapsulatedInterfaceRequest :=
  { meiType := .readDeviceIdentification, data := [r.deviceIdCode.code, r.objectId] }

theorem decode_eq_ok {data : List UInt8} {r : ReadDeviceIdentificationRequest} :
    decode data = .ok r ↔ data = r.toEncapsulated.body := by
  simp only [decode, check_bind_eq_ok, rejectIf_eq_ok, okOr_bind_eq_ok, Decidable.not_not,
    DeviceIdCode.fromRaw_eq_some, DecodeError.checkExactLen_eq_ok, pure_eq_ok]
  constructor
  · rintro ⟨hlen, hmei, code, hcode, rfl⟩
    rw [toEncapsulated, EncapsulatedInterface.body, ← hmei, ← hcode, byte_eq_drop hlen,
      byte_cons_drop (by omega), byte_cons_drop (by omega), List.drop_zero]
  · rintro rfl
    exact ⟨rfl, rfl, r.deviceIdCode, rfl, rfl⟩

theorem encodeInto_emits (r : ReadDeviceIdentificationRequest) :
    Emits r.encodeInto r.encodedLen True
      (FunctionCode.encapsulatedInterfaceTransport.code :: r.toEncapsulated.body) :=
  emits_fixed <| .put <| .put <| .put <| .put <| .ret

end ReadDeviceIdentificationRequest

/-! ## Messages that are a counted byte string

File-record messages of both directions are a count and that many bytes, and so are the
responses to the bit and register reads and to Report Server ID. -/

structure CountedData where
  byteCount : UInt8
  data : List UInt8
deriving DecidableEq, Repr

namespace CountedData

/-- `checkCount` is the check made on the declared count, `checkData` the one made on the
payload once its length is known to be as declared. -/
def decode (checkCount : UInt8 → Except DecodeError Unit)
    (checkData : List UInt8 → Except DecodeError Unit) (data : List UInt8) :
    Except DecodeError CountedData := do
  rejectIf (data = []) (.truncated 1 0)
  let byteCount := data[0]!
  checkCount byteCount
  let payload := data.drop 1
  rejectIf (payload.length ≠ byteCount.toNat) (.byteCountMismatch byteCount.toNat payload.length)
  checkData payload
  return { byteCount, data := payload }

def body (r : CountedData) : List UInt8 := r.byteCount :: r.data

theorem decode_eq_ok {chkN : UInt8 → Except DecodeError Unit}
    {chkD : List UInt8 → Except DecodeError Unit} {data : List UInt8} {r : CountedData} :
    decode chkN chkD data = .ok r ↔ data = r.body ∧ chkN r.byteCount = .ok () ∧
      r.data.length = r.byteCount.toNat ∧ chkD r.data = .ok () := by
  simp only [decode, check_bind_eq_ok, rejectIf_eq_ok, Decidable.not_not, pure_eq_ok]
  constructor
  · rintro ⟨hne, hn, hlen, hd, rfl⟩
    refine ⟨?_, hn, hlen, hd⟩
    rw [body, byte_cons_drop (List.length_pos_iff.mpr hne), List.drop_zero]
  · rintro ⟨rfl, hn, hlen, hd⟩
    exact ⟨List.cons_ne_nil _ _, hn, hlen, hd, rfl⟩

/-- The encoder of the file-record messages. A request takes its length from the payload,
a response from the declared count. -/
def encodeFileRecord (fc : FunctionCode) (len minimum maximum : Nat)
    (validate : List UInt8 → Except EncodeError Unit) (r : CountedData) :
    Encoder EncodeError Nat := do
  reserve len (.bufferTooSmall len)
  check (EncodeError.checkByteCountRange r.byteCount.toNat minimum maximum)
  check (EncodeError.checkByteCount r.byteCount.toNat r.data.length)
  check (validate r.data)
  check (EncodeError.checkPduLen len)
  put 0 [fc.code]
  put 1 [r.byteCount]
  put 2 r.data
  return len

theorem encodeFileRecord_emits {fc : FunctionCode} {len min max : Nat}
    {validate : List UInt8 → Except EncodeError Unit} {V : Prop} {r : CountedData}
    (hlen : r.byteCount.toNat = r.data.length → len = 2 + r.data.length)
    (hvalidate : validate r.data = .ok () ↔ V) :
    Emits (encodeFileRecord fc len min max validate r) len
      (((min ≤ r.byteCount.toNat ∧ r.byteCount.toNat ≤ max) ∧
        r.data.length = r.byteCount.toNat ∧ V) ∧ (fc.code :: r.body).length ≤ maxPduSize)
      (fc.code :: r.body) := by
  have hwire : (fc.code :: r.body).length = 2 + r.data.length := Nat.add_comm r.data.length 2
  refine .congr (.of_reserve <| .check checkByteCountRange_eq_ok fun _ =>
    .check checkByteCount_eq_ok fun hcount => .check hvalidate fun _ =>
    .check checkPduLen_eq_ok fun _ =>
    .of_writes <| .put <| .put <| .put <| .ret (hwire.trans (hlen hcount).symm)) ?_
  constructor
  · rintro ⟨hrange, hcount, hval, hmax, -⟩
    exact ⟨⟨hrange, hcount.symm, hval⟩, by rw [hwire, ← hlen hcount]; exact hmax⟩
  · rintro ⟨⟨hrange, hcount, hval⟩, hmax⟩
    exact ⟨hrange, hcount.symm, hval, by rw [hlen hcount.symm, ← hwire]; exact hmax, trivial⟩

end CountedData

/-- `check_file_record_byte_count`. -/
def checkFileRecordByteCount (minimum maximum : Nat) (byteCount : UInt8) :
    Except DecodeError Unit :=
  let count := byteCount.toNat
  if minimum ≤ count ∧ count ≤ maximum then .ok ()
  else .error (.byteCountOutOfRange count minimum maximum)

theorem checkFileRecordByteCount_eq_ok {min max : Nat} {n : UInt8} {u : Unit} :
    checkFileRecordByteCount min max n = .ok u ↔ min ≤ n.toNat ∧ n.toNat ≤ max := by
  dsimp only [checkFileRecordByteCount]
  split <;> simp_all

abbrev ReadFileRecordRequest := CountedData
abbrev WriteFileRecordRequest := CountedData

def ReadFileRecordRequest.decode : List UInt8 → Except DecodeError ReadFileRecordRequest :=
  CountedData.decode (checkFileRecordByteCount 0x07 0xF5) validateReadFileSubRequests

def WriteFileRecordRequest.decode : List UInt8 → Except DecodeError WriteFileRecordRequest :=
  CountedData.decode (checkFileRecordByteCount 0x09 0xFB) validateWriteFileSubRequests

def ReadFileRecordRequest.encodedLen (r : ReadFileRecordRequest) : Nat := 2 + r.data.length

def WriteFileRecordRequest.encodedLen (r : WriteFileRecordRequest) : Nat := 2 + r.data.length

def ReadFileRecordRequest.encodeInto (r : ReadFileRecordRequest) : Encoder EncodeError Nat :=
  CountedData.encodeFileRecord .readFileRecord (encodedLen r) 0x07 0xF5
    validateReadFileSubRequestsEncode r

def WriteFileRecordRequest.encodeInto (r : WriteFileRecordRequest) : Encoder EncodeError Nat :=
  CountedData.encodeFileRecord .writeFileRecord (encodedLen r) 0x09 0xFB
    validateWriteFileSubRequestsEncode r

end RustyModbus
