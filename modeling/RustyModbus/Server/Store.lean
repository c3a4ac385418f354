import RustyModbus.Codec.Pdu
import RustyModbus.Lib.Interaction

/-!
# The data store interface

A server works on a store it knows only as a trait. `StoreOp` lists the methods of that
trait the handlers call, with their arguments, and `StoreOp.Answer` what each of them gives
back when it succeeds. Two facts about Rust's references are built into the answers: a
method that fills a slice cannot change its length (`Slice`), and a method that is handed
the response vector to append to gives back what it appended (`Appended`).

What the methods promise beyond that (that a read returns as many registers as it was asked
for, say) is not part of the interface. A handler must not rely on it.
-/

namespace RustyModbus.Server

open Wire Interaction

/-- The slice `out` after a call that may have filled it. -/
abbrev Slice (out : List UInt8) := { bytes : List UInt8 // bytes.length = out.length }

/-- A method's result together with the bytes it appended to the response. -/
structure Appended (α : Type) where
  result : α
  bytes : List UInt8
deriving DecidableEq, Repr

structure CommEventLogMeta where
  status : UInt16
  eventCount : UInt16
  messageCount : UInt16
deriving DecidableEq, Repr

def maxFileRecordRegisters : Nat := 122
def maxCommEventLogEvents : Nat := 64
def maxDiagnosticResponseDataLen : Nat := maxPduSize - 3
def maxServerIdBytes : Nat := maxPduSize - 2

/-- The calls the handlers make to a `DataStore`. -/
inductive StoreOp
  | readCoilsPacked (address quantity : UInt16) (out : List UInt8)
  | readDiscreteInputsPacked (address quantity : UInt16) (out : List UInt8)
  | readHoldingRegistersBe (address quantity : UInt16) (out : List UInt8)
  | readInputRegistersBe (address quantity : UInt16) (out : List UInt8)
  | writeCoil (address : UInt16) (value : Bool)
  | writeCoilsPacked (address quantity : UInt16) (packedValues : List UInt8)
  | writeRegister (address value : UInt16)
  | writeRegistersBe (address quantity : UInt16) (valueBytes : List UInt8)
  | atomicMaskWriteRegister (address andMask orMask : UInt16)
  | atomicReadWriteRegistersBe (readAddress readQuantity writeAddress writeQuantity : UInt16)
    (writeValues out : List UInt8)
  | readFileRecordBe (fileNumber recordNumber recordLength : UInt16) (out : List UInt8)
  | writeFileRecordBe (fileNumber recordNumber recordLength : UInt16) (valueBytes : List UInt8)
  | readFifoQueueBe (address : UInt16) (out : List UInt8)
  | readExceptionStatus
  | appendDiagnosticResponse (subFunction : DiagnosticSubFunction) (data : List UInt8)
  | getCommEventCounter
  | appendCommEventLog
  | appendServerId
  | handleCustomFunction (unitId functionCode : UInt8) (requestData responseData : List UInt8)
deriving DecidableEq, Repr

@[reducible] def StoreOp.Answer : StoreOp → Type
  | readCoilsPacked _ _ out | readDiscreteInputsPacked _ _ out
  | readHoldingRegistersBe _ _ out | readInputRegistersBe _ _ out
  | atomicReadWriteRegistersBe _ _ _ _ _ out | readFileRecordBe _ _ _ out
  | readFifoQueueBe _ out | handleCustomFunction _ _ _ out => Nat × Slice out
  | writeCoil _ _ | writeCoilsPacked _ _ _ | writeRegister _ _ | writeRegistersBe _ _ _
  | atomicMaskWriteRegister _ _ _ | writeFileRecordBe _ _ _ _ => Unit
  | readExceptionStatus => UInt8
  | appendDiagnosticResponse _ _ => Appended (Option Nat)
  | getCommEventCounter => UInt16 × UInt16
  | appendCommEventLog => Appended CommEventLogMeta
  | appendServerId => Appended Nat

/-- Every method answers or returns an exception code. -/
abbrev storeInterface : Interface where
  Call := StoreOp
  Reply op := Except ExceptionCode op.Answer

/-- A store with states `σ`: any function that serves the calls. -/
abbrev DataStore (σ : Type) := Component storeInterface σ

abbrev StoreProgram := Program storeInterface

/-- A handler: it calls the store and ends with a result or an exception code. -/
abbrev Handler := Fallible storeInterface ExceptionCode

/-- Call the store; an error of the store is an error of the handler. -/
def callStore (op : StoreOp) : Handler op.Answer := 
  ExceptT.mk (Program.perform (I := storeInterface) op)

/-- The result of a check is an error of the handler. -/
def orFail {α : Type} (x : Except ExceptionCode α) : Handler α := Fallible.ofExcept x

theorem run_callStore {σ : Type} (store : DataStore σ) (op : StoreOp) (s : σ) :
    (callStore op).run.run store s = store op s := rfl

/-! ## File-record references -/

/-- The check of `file_record.rs`, made again behind the decoder. -/
def validateRange (fileNumber recordNumber : UInt16) (recordLength : Nat) :
    Except ExceptionCode Unit :=
  let finish := recordNumber.toNat + recordLength
  rejectIf (fileNumber < minFileNumber ∨ recordLength = 0 ∨ recordNumber > maxRecordNumber ∨
      finish > recordCount)
    .illegalDataAddress

theorem validateRange_eq_ok {file rec len : UInt16} {u : Unit} :
    validateRange file rec len.toNat = .ok u ↔ FileRange file rec len := by
  simp only [validateRange, rejectIf_eq_ok, FileRange, minFileNumber, maxRecordNumber,
    recordCount, UInt16.lt_iff_toNat_lt, gt_iff_lt, UInt16.reduceToNat]
  omega

/-! ## Registers on the wire -/

/-- `pack_registers_be`: the registers as big-endian bytes at the front of `out`. -/
def packRegistersBe (registers : List UInt16) (out : List UInt8) :
    Except ExceptionCode (Slice out) :=
  if h : out.length < registers.length * 2 then .error .illegalDataValue
  else .ok ⟨writeAt 0 (registers.flatMap toBeBytes) out, writeAt_length (by
    rw [length_flatMap_toBeBytes]
    omega)⟩

theorem packRegistersBe_eq_ok {registers : List UInt16} {out : List UInt8}
    (h : registers.length * 2 ≤ out.length) :
    ∃ packed : Slice out, packRegistersBe registers out = .ok packed ∧
      packed.val = writeAt 0 (registers.flatMap toBeBytes) out :=
  ⟨_, dif_neg (Nat.not_lt.mpr h), rfl⟩

/-- Registers that fill the buffer. -/
theorem packRegistersBe_fits {registers : List UInt16} {out : List UInt8}
    (h : registers.length * 2 = out.length) :
    ∃ packed : Slice out, packRegistersBe registers out = .ok packed ∧
      packed.val = registers.flatMap toBeBytes := by
  obtain ⟨packed, hpack, hval⟩ := packRegistersBe_eq_ok (Nat.le_of_eq h)
  exact ⟨packed, hpack, hval.trans (writeAt_zero ((length_flatMap_toBeBytes registers).trans h))⟩

/-- The registers a string of big-endian bytes holds. -/
def registersOf (bytes : List UInt8) : List UInt16 :=
  (chunksExact 2 bytes).map fun chunk => fromBeBytes chunk[0]! chunk[1]!

/-- `validate_packed_coils`; a count that passed comes with what was checked. -/
def validatePackedCoils (quantity : UInt16) (packedValues : List UInt8) :
    Except ExceptionCode { count : Nat // packedValues.length = (count + 7) / 8 } :=
  if quantity = 0 ∨ quantity > maxWriteCoils then .error .illegalDataValue
  else if h : packedValues.length ≠ (quantity.toNat + 7) / 8 then .error .illegalDataValue
  else .ok ⟨quantity.toNat, Decidable.not_not.mp h⟩

def validateRegisterValuesBe (quantity : UInt16) (valueBytes : List UInt8) :
    Except ExceptionCode Nat := do
  rejectIf (quantity = 0 ∨ quantity > maxWriteRegisters) .illegalDataValue
  rejectIf (valueBytes.length ≠ quantity.toNat * 2) .illegalDataValue
  return quantity.toNat

end RustyModbus.Server
