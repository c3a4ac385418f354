import RustyModbus.Lib.Codec
import RustyModbus.Types

/-!
# Codec errors and the checks that raise them

Decoders and encoders of `rusty-modbus-codec` share a handful of checks. Each
comes with the lemma that says when it passes; no later proof unfolds one.
-/

namespace RustyModbus

open Wire

inductive DecodeError
  | truncated (expected actual : Nat)
  | lengthMismatch (expected actual : Nat)
  | pduTooLarge (length maximum : Nat)
  | unknownFunctionCode (byte : UInt8)
  | byteCountMismatch (declared actual : Nat)
  | byteCountOutOfRange (count minimum maximum : Nat)
  | quantityOutOfRange (quantity : UInt16)
  | invalidCoilValue (value : UInt16)
  | invalidReferenceType (byte : UInt8)
  | invalidFileRecordLength (length : Nat)
  | fileRecordOutOfRange (fileNumber recordNumber recordLength : UInt16)
  | unknownMeiType (byte : UInt8)
  | unknownDiagnosticSubFunction (value : UInt16)
  | invalidDiagnosticDataLength (length : Nat)
  | invalidRegisterDataLength (length : Nat)
  | invalidDeviceIdCode (byte : UInt8)
  | invalidDeviceIdConformityLevel (byte : UInt8)
  | invalidDeviceIdMoreFollows (byte : UInt8)
  | invalidDeviceIdNextObjectId (byte : UInt8)
  | invalidDeviceIdObjectCount (byte : UInt8)
deriving DecidableEq, Repr

inductive EncodeError
  | bufferTooSmall (required available : Nat)
  | pduTooLarge (length maximum : Nat)
  | quantityOutOfRange (quantity : UInt16)
  | byteCountMismatch (declared actual : Nat)
  | byteCountOutOfRange (count minimum maximum : Nat)
  | invalidReferenceType (byte : UInt8)
  | invalidFileRecordLength (length : Nat)
  | fileRecordOutOfRange (fileNumber recordNumber recordLength : UInt16)
  | invalidDiagnosticDataLength (length : Nat)
  | invalidRegisterDataLength (length : Nat)
deriving DecidableEq, Repr

/-- A quantity the protocol allows: `1 ..= max`. -/
def InRange (quantity max : UInt16) : Prop := ¬(quantity = 0 ∨ quantity > max)

instance (quantity max : UInt16) : Decidable (InRange quantity max) :=
  inferInstanceAs (Decidable (¬_))

theorem InRange.bounds {quantity max : UInt16} (h : InRange quantity max) :
    0 < quantity.toNat ∧ quantity.toNat ≤ max.toNat := by
  simp only [InRange, not_or, gt_iff_lt, UInt16.lt_iff_toNat_lt, Nat.not_lt] at h
  refine ⟨Nat.pos_of_ne_zero fun h0 => h.1 (UInt16.toNat_inj.mp ?_), h.2⟩
  simpa using h0

theorem inRange_iff {quantity max : UInt16} :
    InRange quantity max ↔ 0 < quantity.toNat ∧ quantity.toNat ≤ max.toNat := by
  refine ⟨InRange.bounds, fun ⟨hpos, hle⟩ => ?_⟩
  simp only [InRange, not_or, gt_iff_lt, UInt16.lt_iff_toNat_lt, Nat.not_lt]
  exact ⟨by rintro rfl; simp at hpos, hle⟩

namespace DecodeError

def checkExactLen (data : List UInt8) (expected : Nat) : Except DecodeError Unit :=
  match compare data.length expected with
  | .lt => .error (.truncated expected data.length)
  | .eq => .ok ()
  | .gt => .error (.lengthMismatch expected data.length)

def checkRegisterDataLen (length : Nat) : Except DecodeError Unit :=
  if length % 2 = 0 then .ok () else .error (.invalidRegisterDataLength length)

def checkDiagnosticDataLen (data : List UInt8) : Except DecodeError Unit :=
  if data.length % 2 = 0 then .ok () else .error (.invalidDiagnosticDataLength data.length)

@[simp] theorem checkExactLen_eq_ok {data : List UInt8} {n : Nat} {u : Unit} :
    checkExactLen data n = .ok u ↔ data.length = n := by
  unfold checkExactLen
  split <;> simp_all [Nat.compare_eq_lt, Nat.compare_eq_gt] <;> omega

@[simp] theorem checkRegisterDataLen_eq_ok {n : Nat} {u : Unit} :
    checkRegisterDataLen n = .ok u ↔ n % 2 = 0 := by
  unfold checkRegisterDataLen
  split <;> simp_all

@[simp] theorem checkDiagnosticDataLen_eq_ok {data : List UInt8} {u : Unit} :
    checkDiagnosticDataLen data = .ok u ↔ data.length % 2 = 0 := by
  unfold checkDiagnosticDataLen
  split <;> simp_all

end DecodeError

namespace EncodeError

def checkPduLen (length : Nat) : Except EncodeError Unit :=
  if length > maxPduSize then .error (.pduTooLarge length maxPduSize) else .ok ()

def checkQuantity (quantity max : UInt16) : Except EncodeError Unit :=
  if quantity = 0 ∨ quantity > max then .error (.quantityOutOfRange quantity) else .ok ()

def checkByteCount (declared actual : Nat) : Except EncodeError Unit :=
  if declared = actual then .ok () else .error (.byteCountMismatch declared actual)

def checkByteCountRange (count minimum maximum : Nat) : Except EncodeError Unit :=
  if minimum ≤ count ∧ count ≤ maximum then .ok ()
  else .error (.byteCountOutOfRange count minimum maximum)

def checkRegisterDataLen (length : Nat) : Except EncodeError Unit :=
  if length % 2 = 0 then .ok () else .error (.invalidRegisterDataLength length)

def checkDiagnosticDataLen (data : List UInt8) : Except EncodeError Unit :=
  if data.length % 2 = 0 then .ok () else .error (.invalidDiagnosticDataLength data.length)

theorem checkPduLen_eq_ok {n : Nat} : checkPduLen n = .ok () ↔ n ≤ maxPduSize := by
  unfold checkPduLen
  split <;> simp_all

theorem checkQuantity_eq_ok {q max : UInt16} : checkQuantity q max = .ok () ↔ InRange q max := by
  unfold checkQuantity InRange
  split <;> simp_all

theorem checkByteCount_eq_ok {declared actual : Nat} :
    checkByteCount declared actual = .ok () ↔ declared = actual := by
  unfold checkByteCount
  split <;> simp_all

theorem checkByteCountRange_eq_ok {count min max : Nat} :
    checkByteCountRange count min max = .ok () ↔ min ≤ count ∧ count ≤ max := by
  unfold checkByteCountRange
  split <;> simp_all

theorem checkRegisterDataLen_eq_ok {n : Nat} : checkRegisterDataLen n = .ok () ↔ n % 2 = 0 := by
  unfold checkRegisterDataLen
  split <;> simp_all

theorem checkDiagnosticDataLen_eq_ok {data : List UInt8} :
    checkDiagnosticDataLen data = .ok () ↔ data.length % 2 = 0 := by
  unfold checkDiagnosticDataLen
  split <;> simp_all

end EncodeError

end RustyModbus
