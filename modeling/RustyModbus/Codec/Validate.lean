import RustyModbus.Codec.Request

/-!
# Request validation on the server side

The checks a handler makes before it calls the store, written apart from the decoders and
with their own copies of the limits: first the values (`IllegalDataValue`), then the
addresses (`IllegalDataAddress`). The lemmas say when a check passes and, since a server
reports it, with which code it fails.
-/

namespace RustyModbus

open Wire

/-- Check that `address + quantity` stays inside the 16-bit address space. -/
def validateAddressRange (address quantity : UInt16) : Except ExceptionCode Unit :=
  rejectIf (address.toNat + quantity.toNat > 0x10000) .illegalDataAddress

/-- The checks of a read of up to `maxQuantity` items. -/
def validateRead (maxQuantity address quantity : UInt16) : Except ExceptionCode Unit := do
  rejectIf (quantity = 0 ∨ quantity > maxQuantity) .illegalDataValue
  validateAddressRange address quantity

def validateReadCoils : UInt16 → UInt16 → Except ExceptionCode Unit :=
  validateRead maxReadCoils

def validateReadDiscreteInputs : UInt16 → UInt16 → Except ExceptionCode Unit :=
  validateRead maxReadDiscreteInputs

def validateReadRegisters : UInt16 → UInt16 → Except ExceptionCode Unit :=
  validateRead maxReadRegisters

/-- The checks of a write of up to `maxQuantity` items, whose bytes must be as many as
`expected` says. -/
def validateWrite (maxQuantity : UInt16) (expected : UInt16 → Nat) (address quantity : UInt16)
    (byteCount : UInt8) : Except ExceptionCode Unit := do
  rejectIf (quantity = 0 ∨ quantity > maxQuantity) .illegalDataValue
  rejectIf (byteCount.toNat ≠ expected quantity) .illegalDataValue
  validateAddressRange address quantity

def validateWriteCoils : UInt16 → UInt16 → UInt8 → Except ExceptionCode Unit :=
  validateWrite maxWriteCoils coilBytes

def validateWriteRegisters : UInt16 → UInt16 → UInt8 → Except ExceptionCode Unit :=
  validateWrite maxWriteRegisters registerBytes

def validateMaskWriteAddress (address : UInt16) : Except ExceptionCode Unit :=
  validateAddressRange address 1

def validateReadWriteRegisters (readAddress readQuantity writeAddress writeQuantity : UInt16)
    (writeByteCount : UInt8) : Except ExceptionCode Unit := do
  rejectIf (readQuantity = 0 ∨ readQuantity > maxRwRead) .illegalDataValue
  rejectIf (writeQuantity = 0 ∨ writeQuantity > maxRwWrite) .illegalDataValue
  rejectIf (writeByteCount.toNat ≠ registerBytes writeQuantity) .illegalDataValue
  validateAddressRange readAddress readQuantity
  validateAddressRange writeAddress writeQuantity

/-! ## When the checks pass -/

@[simp] theorem validateAddressRange_eq_ok {address quantity : UInt16} {u : Unit} :
    validateAddressRange address quantity = .ok u ↔
      address.toNat + quantity.toNat ≤ 0x10000 := by
  rw [validateAddressRange, rejectIf_eq_ok, Nat.not_lt]

theorem validateRead_eq_ok {max address quantity : UInt16} {u : Unit} :
    validateRead max address quantity = .ok u ↔
      InRange quantity max ∧ address.toNat + quantity.toNat ≤ 0x10000 := by
  rw [validateRead, check_bind_eq_ok, rejectIf_eq_ok, validateAddressRange_eq_ok]
  rfl

/-- Once the values are right only the addresses are left to check. -/
theorem validateRead_of_inRange {max quantity : UInt16} (h : InRange quantity max)
    (address : UInt16) : validateRead max address quantity = validateAddressRange address quantity := by
  rw [validateRead, rejectIf_neg h]
  rfl

/-- The two bit reads allow the same quantities. -/
theorem validateReadBits_eq (isCoils : Bool) (address quantity : UInt16) :
    (if isCoils then validateReadCoils address quantity
      else validateReadDiscreteInputs address quantity) = validateRead 2000 address quantity := by
  cases isCoils <;> rfl

theorem validateWrite_of_inRange {max quantity : UInt16} {expected : UInt16 → Nat}
    {byteCount : UInt8} (h : InRange quantity max) (hbytes : byteCount.toNat = expected quantity)
    (address : UInt16) :
    validateWrite max expected address quantity byteCount
      = validateAddressRange address quantity := by
  rw [validateWrite, rejectIf_neg h, rejectIf_neg (not_not_intro hbytes)]
  rfl

theorem validateReadWriteRegisters_of_inRange {rq wq : UInt16} {n : UInt8}
    (hrq : InRange rq maxRwRead) (hwq : InRange wq maxRwWrite) (hn : n.toNat = registerBytes wq)
    (ra wa : UInt16) :
    validateReadWriteRegisters ra rq wa wq n =
      (do validateAddressRange ra rq; validateAddressRange wa wq) := by
  rw [validateReadWriteRegisters, rejectIf_neg hrq, rejectIf_neg hwq,
    rejectIf_neg (not_not_intro hn)]
  rfl

theorem validateAddressRange_eq_error {address quantity : UInt16} {e : ExceptionCode}
    (h : validateAddressRange address quantity = .error e) : e = .illegalDataAddress :=
  (rejectIf_eq_error.mp h).2.symm

theorem validateReadWriteRegisters_eq_ok {ra rq wa wq : UInt16} {n : UInt8} {u : Unit} :
    validateReadWriteRegisters ra rq wa wq n = .ok u ↔
      InRange rq maxRwRead ∧ InRange wq maxRwWrite ∧ n.toNat = registerBytes wq ∧
        ra.toNat + rq.toNat ≤ 0x10000 ∧ wa.toNat + wq.toNat ≤ 0x10000 := by
  simp only [validateReadWriteRegisters, check_bind_eq_ok, rejectIf_eq_ok, Decidable.not_not,
    validateAddressRange_eq_ok, InRange]

end RustyModbus
