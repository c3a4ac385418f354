import RustyModbus.Client.Methods

/-!
# What the calls mean

The purpose of a client and a server together, stated without either: four plain arrays and
what a call does to them. A call whose quantity is not one the protocol allows is an encode
error. A call that reaches outside its array is answered with the exception
`IllegalDataAddress` and changes nothing. Any other call reads or writes exactly the places
it names, and a read/write call writes before it reads.
-/

namespace RustyModbus.EndToEnd

open Wire Client

structure Tables where
  coils : List Bool
  discreteInputs : List Bool
  holdingRegisters : List UInt16
  inputRegisters : List UInt16
deriving DecidableEq, Repr

/-- `count` places of an array from `address` on. -/
def readAt {α : Type} (address count : Nat) (table : List α) : List α :=
  (table.drop address).take count

/-- The error for a number of places that is not in `1 ..= max`. -/
def limitError (count max : Nat) : Option EncodeError :=
  if 1 ≤ count ∧ count ≤ max then none
  else some (.quantityOutOfRange (UInt16.ofNat (min count 65535)))

end RustyModbus.EndToEnd

namespace RustyModbus.Client.ClientCall

open Wire EndToEnd

def functionCode : ClientCall → FunctionCode
  | readCoils _ _ => .readCoils
  | readDiscreteInputs _ _ => .readDiscreteInputs
  | readHoldingRegisters _ _ => .readHoldingRegisters
  | readInputRegisters _ _ => .readInputRegisters
  | writeSingleCoil _ _ => .writeSingleCoil
  | writeSingleRegister _ _ => .writeSingleRegister
  | writeMultipleCoils _ _ => .writeMultipleCoils
  | writeMultipleRegisters _ _ => .writeMultipleRegisters
  | maskWriteRegister _ _ _ => .maskWriteRegister
  | readWriteMultipleRegisters _ _ _ _ => .readWriteMultipleRegisters

/-- The limit of the protocol a call violates, if it does. -/
def encodeError : ClientCall → Option EncodeError
  | readCoils _ quantity | readDiscreteInputs _ quantity => limitError quantity.toNat 2000
  | readHoldingRegisters _ quantity | readInputRegisters _ quantity =>
    limitError quantity.toNat 125
  | writeMultipleCoils _ values => limitError values.length 1968
  | writeMultipleRegisters _ values => limitError values.length 123
  | readWriteMultipleRegisters _ readQuantity _ writeValues =>
    (limitError writeValues.length 121).or (limitError readQuantity.toNat 125)
  | writeSingleCoil _ _ | writeSingleRegister _ _ | maskWriteRegister _ _ _ => none

/-- Every place a call names exists. -/
def Inside (t : Tables) : ClientCall → Prop
  | readCoils address quantity => address.toNat + quantity.toNat ≤ t.coils.length
  | readDiscreteInputs address quantity =>
    address.toNat + quantity.toNat ≤ t.discreteInputs.length
  | readHoldingRegisters address quantity =>
    address.toNat + quantity.toNat ≤ t.holdingRegisters.length
  | readInputRegisters address quantity =>
    address.toNat + quantity.toNat ≤ t.inputRegisters.length
  | writeSingleCoil address _ => address.toNat + 1 ≤ t.coils.length
  | writeSingleRegister address _ | maskWriteRegister address _ _ =>
    address.toNat + 1 ≤ t.holdingRegisters.length
  | writeMultipleCoils address values => address.toNat + values.length ≤ t.coils.length
  | writeMultipleRegisters address values =>
    address.toNat + values.length ≤ t.holdingRegisters.length
  | readWriteMultipleRegisters readAddress readQuantity writeAddress writeValues =>
    readAddress.toNat + readQuantity.toNat ≤ t.holdingRegisters.length ∧
      writeAddress.toNat + writeValues.length ≤ t.holdingRegisters.length

instance (t : Tables) : (c : ClientCall) → Decidable (c.Inside t)
  | readCoils _ _ | readDiscreteInputs _ _ | readHoldingRegisters _ _ | readInputRegisters _ _
  | writeSingleCoil _ _ | writeSingleRegister _ _ | maskWriteRegister _ _ _
  | writeMultipleCoils _ _ | writeMultipleRegisters _ _ => inferInstanceAs (Decidable (_ ≤ _))
  | readWriteMultipleRegisters _ _ _ _ => inferInstanceAs (Decidable (_ ≤ _ ∧ _ ≤ _))

/-- What a call whose places exist returns, and the arrays afterwards. -/
def effect (t : Tables) : ClientCall → Value × Tables
  | readCoils address quantity => (.bits (readAt address.toNat quantity.toNat t.coils), t)
  | readDiscreteInputs address quantity =>
    (.bits (readAt address.toNat quantity.toNat t.discreteInputs), t)
  | readHoldingRegisters address quantity =>
    (.registers (readAt address.toNat quantity.toNat t.holdingRegisters), t)
  | readInputRegisters address quantity =>
    (.registers (readAt address.toNat quantity.toNat t.inputRegisters), t)
  | writeSingleCoil address value =>
    (.done, { t with coils := writeAt address.toNat [value] t.coils })
  | writeSingleRegister address value =>
    (.done, { t with holdingRegisters := writeAt address.toNat [value] t.holdingRegisters })
  | writeMultipleCoils address values =>
    (.done, { t with coils := writeAt address.toNat values t.coils })
  | writeMultipleRegisters address values =>
    (.done, { t with holdingRegisters := writeAt address.toNat values t.holdingRegisters })
  | maskWriteRegister address andMask orMask =>
    let current := t.holdingRegisters[address.toNat]!
    let masked := (current &&& andMask) ||| (orMask &&& ~~~andMask)
    (.done, { t with holdingRegisters := writeAt address.toNat [masked] t.holdingRegisters })
  | readWriteMultipleRegisters readAddress readQuantity writeAddress writeValues =>
    let written := writeAt writeAddress.toNat writeValues t.holdingRegisters
    (.registers (readAt readAddress.toNat readQuantity.toNat written),
      { t with holdingRegisters := written })

end RustyModbus.Client.ClientCall

namespace RustyModbus.EndToEnd

open Wire Client

/-- What is seen of a call: its result and how many requests it has sent. -/
structure Outcome where
  result : Except ClientError Value
  requests : Nat

/-- The meaning of a call. -/
def Tables.step (call : ClientCall) (t : Tables) : Outcome × Tables :=
  match call.encodeError with
  | some e => ({ result := .error (.encode e), requests := 0 }, t)
  | none =>
    if call.Inside t then
      let (value, t) := call.effect t
      ({ result := .ok value, requests := 1 }, t)
    else
      let exc : ExceptionResponse :=
        { functionCode := call.functionCode, exceptionCode := .illegalDataAddress }
      ({ result := .error (.exception exc), requests := 1 }, t)

end RustyModbus.EndToEnd
